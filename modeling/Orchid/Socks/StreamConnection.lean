import Orchid.Circuits.StreamReads
import Orchid.Lib.Runs

/-!
# Orchid — the transfer between a SOCKS client and a Tor stream

`SocksStreamConnection.runConnection` starts two threads. One copies from the stream to the client's
socket, the other from the socket to the stream. Each sets a flag when it ends, for whatever reason;
the calling thread waits for both flags, and closes the socket and the stream then.

The two sides also end the transfer. The client ends or resets its connection, an END cell arrives,
the circuit is destroyed by its own thread, or a thread that sends a cell finds the link closed.

* `Transfer` is the state of the socket, the stream and the threads; `turn` is the next step of a
  thread, and none while it waits.
* `TorOutputStream` is one monitor: its `close` waits for a `write` that waits for a window.
* Closing a stream has two parts. The first closes the input stream, the second the output stream.
-/

namespace Orchid

open RelayCell

/-! ## The two sides -/

/-- The client's socket. A client that is gone has reset its connection. -/
structure ClientSocket where
  input : List UInt8 := []
  inputEnded : Bool := false
  isReset : Bool := false
  output : List UInt8 := []
  isOutputShutdown : Bool := false
  isClosed : Bool := false
  deriving DecidableEq

/-- Reading from the socket and writing to it raise an `IOException`. -/
def ClientSocket.isBroken (socket : ClientSocket) : Bool := socket.isClosed || socket.isReset

inductive IncomingAt where
  | reading
  | writing (data : List UInt8)
  | shuttingDown
  | closing
  | finishing
  | done
  deriving DecidableEq

/-- Inside `write` a number of cells is sent, and a cell that is not full may be left for `flush`. A
cell that finds the link closed destroys the circuit on its way. -/
inductive OutgoingAt where
  | awaitingStream
  | awaitingNode
  | reading
  | checking (n : Nat)
  | writing (cells : Nat) (rest : Bool)
  | destroying (cells : Nat) (rest : Bool)
  | flushing
  | destroyingInFlush
  | closing
  | finishing
  | done
  deriving DecidableEq

inductive SupervisorAt where
  | waiting
  | closingSocket
  | closingInput
  | closingStream
  | closingOutput
  | returned
  deriving DecidableEq

structure Transfer where
  socket : ClientSocket := { }
  stream : StreamImpl
  /-- The output stream holds a cell with data. -/
  pending : Bool := false
  /-- The package window of the node that the stream ends at. -/
  nodeWindow : Int
  linkOpen : Bool := true
  isDestroyed : Bool := false
  /-- The thread that destroyed the circuit has still to close the output stream. -/
  circuitCloses : Bool := false
  incoming : IncomingAt := .reading
  outgoing : OutgoingAt := .awaitingStream
  incomingClosed : Bool := false
  outgoingClosed : Bool := false
  interrupted : Bool := false
  supervisor : SupervisorAt := .waiting
  deriving DecidableEq

namespace Transfer

def TRANSFER_BUFFER_SIZE : Nat := 4096

/-- The data that a cell holds. -/
def CELL_DATA_LEN : Nat := CELL_LEN - HEADER_SIZE

/-! ## Windows, sending and closing -/

/-- Both windows are waited for and one is taken off each. -/
def takeWindows (s : Transfer) : Option Transfer :=
  if s.stream.packageWindow = 0 ∨ s.nodeWindow = 0 then none
  else some { s with
    stream := { s.stream with packageWindow := javaInt (s.stream.packageWindow - 1) }
    nodeWindow := javaInt (s.nodeWindow - 1) }

/-- A cell that is sent now destroys the circuit. -/
def losesLink (s : Transfer) : Bool := !s.linkOpen && !s.isDestroyed

/-- The first part of `StreamImpl.close`. -/
def closeStart (s : Transfer) : Transfer :=
  if s.stream.isClosed then s else { s with stream := s.stream.closeInput }

def setOutputClosed (s : Transfer) : Transfer :=
  { s with
    stream := { s.stream with outputStream := { s.stream.outputStream with isClosed := true } }
    pending := false }

/-- The thread that writes is inside `write`. -/
def inWrite : OutgoingAt → Bool
  | .writing _ _ | .destroying _ _ | .destroyingInFlush => true
  | _ => false

/-- `TorOutputStream.close` up to the closing of the stream, by a thread that is not inside `write`.
The circuit is destroyed if the cell that is flushed finds the link closed. -/
def closeOutput (s : Transfer) : Option Transfer :=
  if inWrite s.outgoing then none
  else if s.stream.outputStream.isClosed then some s
  else if s.pending then
    s.takeWindows.map fun s => { (setOutputClosed s) with isDestroyed := s.isDestroyed || !s.linkOpen }
  else some (setOutputClosed s)

/-! ## The threads -/

/-- `incomingTransferLoop` and the end of its thread. -/
def incomingTurn (s : Transfer) : Option Transfer :=
  match s.incoming with
  | .reading =>
    match TorInputStream.read TRANSFER_BUFFER_SIZE 0 TRANSFER_BUFFER_SIZE s.stream.inputStream with
    | .ok none input =>
      some { s with stream := { s.stream with inputStream := input }, incoming := .shuttingDown }
    | .ok (some data) input => some { s with
        stream := { s.stream with inputStream := input }
        incoming := if data.isEmpty then .reading else .writing data }
    | .error .blocked _ => none
    | .error _ input =>
      some { s with stream := { s.stream with inputStream := input }, incoming := .finishing }
  | .writing data =>
    if s.socket.isOutputShutdown then
      if s.stream.isClosed then some { s with incoming := .finishing }
      else some { s.closeStart with incoming := .closing }
    else if s.socket.isBroken then some { s with incoming := .finishing }
    else some { s with
      socket := { s.socket with output := s.socket.output ++ data }, incoming := .reading }
  | .shuttingDown =>
    if s.socket.isBroken || s.socket.isOutputShutdown then some { s with incoming := .finishing }
    else some { s with
      socket := { s.socket with isOutputShutdown := true }, incoming := .finishing }
  | .closing => s.closeOutput.map fun s => { s with incoming := .finishing }
  | .finishing => some { s with incomingClosed := true, incoming := .done }
  | .done => none

/-- `outgoingTransferLoop` and the end of its thread. -/
def outgoingTurn (s : Transfer) : Option Transfer :=
  match s.outgoing with
  | .awaitingStream =>
    if s.stream.packageWindow = 0 then none else some { s with outgoing := .awaitingNode }
  | .awaitingNode => if s.nodeWindow = 0 then none else some { s with outgoing := .reading }
  | .reading =>
    if s.socket.isBroken then some { s with outgoing := .finishing }
    else if s.socket.input.isEmpty then
      if s.socket.inputEnded then some { s with outgoing := .closing } else none
    else some { s with
      socket := { s.socket with input := s.socket.input.drop TRANSFER_BUFFER_SIZE }
      outgoing := .checking (s.socket.input.take TRANSFER_BUFFER_SIZE).length }
  | .checking n =>
    if s.stream.outputStream.isClosed then some { s with outgoing := .finishing }
    else some { s with outgoing := .writing (n / CELL_DATA_LEN) (n % CELL_DATA_LEN != 0) }
  | .writing 0 rest => some { s with pending := rest, outgoing := .flushing }
  | .writing (cells + 1) rest => s.takeWindows.map fun s =>
      if s.losesLink then
        if s.stream.isClosed then { s with isDestroyed := true, outgoing := .writing cells rest }
        else { s.closeStart with isDestroyed := true, outgoing := .destroying cells rest }
      else { s with outgoing := .writing cells rest }
  | .destroying cells rest => s.takeWindows.map fun s =>
      { (setOutputClosed s) with outgoing := .writing cells rest }
  | .flushing =>
    if s.stream.outputStream.isClosed then some { s with outgoing := .awaitingStream }
    else if s.pending then s.takeWindows.map fun s =>
      if s.losesLink then
        if s.stream.isClosed then
          { s with isDestroyed := true, pending := false, outgoing := .awaitingStream }
        else { s.closeStart with isDestroyed := true, outgoing := .destroyingInFlush }
      else { s with pending := false, outgoing := .awaitingStream }
    else some { s with outgoing := .awaitingStream }
  | .destroyingInFlush => s.takeWindows.map fun s =>
      { (setOutputClosed s) with outgoing := .awaitingStream }
  | .closing => s.closeOutput.map fun s => { s.closeStart with outgoing := .finishing }
  | .finishing => some { s with outgoingClosed := true, outgoing := .done }
  | .done => none

/-- The calling thread behind the two starts. -/
def supervisorTurn (s : Transfer) : Option Transfer :=
  match s.supervisor with
  | .waiting =>
    if s.outgoingClosed && s.incomingClosed then some { s with supervisor := .closingSocket }
    else if s.interrupted then some { s with supervisor := .returned }
    else none
  | .closingSocket =>
    some { s with socket := { s.socket with isClosed := true }, supervisor := .closingInput }
  | .closingInput =>
    if s.stream.isClosed then some { s with supervisor := .closingOutput }
    else some { s.closeStart with supervisor := .closingStream }
  | .closingStream => s.closeOutput.map fun s => { s with supervisor := .closingOutput }
  | .closingOutput => s.closeOutput.map fun s => { s.closeStart with supervisor := .returned }
  | .returned => none

/-- The second part of closing the stream, by the thread that destroyed the circuit. -/
def circuitTurn (s : Transfer) : Option Transfer :=
  if s.circuitCloses then s.closeOutput.map fun s => { s with circuitCloses := false } else none

inductive TransferThread where
  | incoming
  | outgoing
  | supervisor
  | circuit
  deriving DecidableEq

def turn (s : Transfer) : TransferThread → Option Transfer
  | .incoming => s.incomingTurn
  | .outgoing => s.outgoingTurn
  | .supervisor => s.supervisorTurn
  | .circuit => s.circuitTurn

/-! ## What comes from outside -/

inductive TransferEvent where
  | turn (thread : TransferThread)
  | clientSends (data : List UInt8)
  | clientEnds
  | clientResets
  | cellArrives (cell : RelayCell)
  | nodeWindowChanges (window : Int)
  | linkCloses
  | circuitDestroyed
  | interrupted
  deriving DecidableEq

/-- The cells that `processRelayCell` hands to a stream. -/
def IsStreamCell (cell : RelayCell) : Prop :=
  cell.relayCommand = RELAY_DATA ∨ cell.relayCommand = RELAY_END ∨
    cell.relayCommand = RELAY_CONNECTED ∨ cell.relayCommand = RELAY_SENDME

instance (cell : RelayCell) : Decidable (IsStreamCell cell) :=
  inferInstanceAs (Decidable (_ ∨ _))

/-- `addInputCell` of the stream; a cell that it raises on changes nothing. -/
def addInputCell (s : Transfer) (cell : RelayCell) : Transfer :=
  if s.stream.isClosed then s
  else match s.stream.applyCell cell with
    | .ok stream => { s with stream := stream }
    | .error _ => s

/-- `destroyCircuit` by another thread than those of the transfer, which closes the stream. -/
def destroyCircuit (s : Transfer) : Transfer :=
  if s.isDestroyed then s
  else if s.stream.isClosed then { s with isDestroyed := true }
  else { s.closeStart with isDestroyed := true, circuitCloses := true }

def step (s : Transfer) : TransferEvent → Option Transfer
  | .turn thread => s.turn thread
  | .clientSends data =>
    if s.socket.inputEnded || s.socket.isBroken then none
    else some { s with socket := { s.socket with input := s.socket.input ++ data } }
  | .clientEnds => some { s with socket := { s.socket with inputEnded := true } }
  | .clientResets => some { s with socket := { s.socket with isReset := true } }
  | .cellArrives cell => if IsStreamCell cell then some (s.addInputCell cell) else none
  | .nodeWindowChanges window => some { s with nodeWindow := window }
  | .linkCloses => some { s with linkOpen := false }
  | .circuitDestroyed => some s.destroyCircuit
  | .interrupted => some { s with interrupted := true }

/-- A stream that was just opened, and a transfer that was just started for it. -/
def start (streamId targetNode : Nat) (autoclose : Bool) (nodeWindow : Int) : Transfer :=
  { stream := { streamId := streamId, targetNode := targetNode, autoclose := autoclose
                relayConnectedReceived := true }
    nodeWindow := nodeWindow }

/-! ## What a transfer should come to -/

/-- The Tor side has ended: an END cell has come, or the stream was closed. -/
def TorEnded (s : Transfer) : Prop := s.stream.relayEndReceived = true ∨ s.stream.isClosed = true

instance (s : Transfer) : Decidable s.TorEnded := inferInstanceAs (Decidable (_ ∨ _))

/-- The client sees the end of its connection. -/
def SeesEnd (s : Transfer) : Prop :=
  s.socket.isOutputShutdown = true ∨ s.socket.isClosed = true ∨ s.socket.isReset = true

instance (s : Transfer) : Decidable s.SeesEnd := inferInstanceAs (Decidable (_ ∨ _))

/-- No thread can go on by itself. -/
def AtRest (s : Transfer) : Prop := ∀ thread, s.turn thread = none

instance (s : Transfer) : Decidable s.AtRest :=
  decidable_of_iff (s.turn .incoming = none ∧ s.turn .outgoing = none ∧ s.turn .supervisor = none ∧
      s.turn .circuit = none)
    ⟨fun h thread => match thread with
      | .incoming => h.1
      | .outgoing => h.2.1
      | .supervisor => h.2.2.1
      | .circuit => h.2.2.2,
    fun h => ⟨h .incoming, h .outgoing, h .supervisor, h .circuit⟩⟩

/-- Socket and stream are closed, and both threads have ended. -/
structure TornDown (s : Transfer) : Prop where
  socket : s.socket.isClosed = true
  stream : s.stream.isClosed = true
  inputStream : s.stream.inputStream.isClosed = true
  outputStream : s.stream.outputStream.isClosed = true
  incoming : s.incoming = .done
  outgoing : s.outgoing = .done

/-- The Tor side does not end but by END cells until the client sees the end or the stream is closed
for the client's sake, and the calling thread is not interrupted before both threads have ended. -/
def Orderly (s : Transfer) : TransferEvent → Prop
  | .linkCloses | .circuitDestroyed => s.SeesEnd ∨ s.stream.isClosed = true
  | .interrupted => s.outgoingClosed = true ∧ s.incomingClosed = true
  | .turn _ | .clientSends _ | .clientEnds | .clientResets | .cellArrives _
  | .nodeWindowChanges _ => True

instance (s : Transfer) : (e : TransferEvent) → Decidable (s.Orderly e)
  | .linkCloses | .circuitDestroyed => inferInstanceAs (Decidable (_ ∨ _))
  | .interrupted => inferInstanceAs (Decidable (_ ∧ _))
  | .turn _ | .clientSends _ | .clientEnds | .clientResets | .cellArrives _
  | .nodeWindowChanges _ => .isTrue trivial

end Transfer

end Orchid
