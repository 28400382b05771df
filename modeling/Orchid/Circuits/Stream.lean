import Orchid.Circuits.Node
import Orchid.Lib.Prog

/-!
# Orchid — streams

A `StreamImpl` belongs to one node of a circuit. It has a window for each direction, an input
stream that a reading application drains and an output stream that collects bytes into a DATA
cell. Only what these objects do on their own is here: what they do by sending cells is part of
the circuit (`CircuitIO`).

* `TorInputStream.read` is the loop of the source. A reader that finds the queue empty waits:
  the model raises `blocked` in the state the reader has reached, and reading on from that state
  is what the woken reader does.
* `StreamImpl.applyCell` is what `addInputCell` notes of a cell, before it answers.
-/

namespace Orchid

open Prog RelayCell

/-- `getPayloadBuffer`: from the mark to the limit. -/
def Cell.payload (c : Cell) : List UInt8 := c.cellBytes.getBytesAt c.mark (c.limit - c.mark)

/-! ## The input stream -/

/-- What stands in the queue of an input stream. -/
inductive Incoming where
  | cell (cell : RelayCell)
  | closeSentinel
  deriving DecidableEq

structure TorInputStream where
  incomingCells : List Incoming := []
  availableBytes : Nat := 0
  bytesReceived : Nat := 0
  currentBuffer : List UInt8 := []
  isEOF : Bool := false
  isClosed : Bool := false
  deriving DecidableEq

namespace TorInputStream

abbrev InputM := Prog JavaException TorInputStream

def unflushedCellCount (s : TorInputStream) : Nat := s.incomingCells.length

/-- `close`, up to the closing of the stream itself. -/
def close (s : TorInputStream) : TorInputStream :=
  if s.isClosed then s
  else { s with isClosed := true, incomingCells := s.incomingCells ++ [.closeSentinel] }

def addEndCell (s : TorInputStream) (cell : RelayCell) : TorInputStream :=
  if s.isClosed then s else { s with incomingCells := s.incomingCells ++ [.cell cell] }

def addInputCell (s : TorInputStream) (cell : RelayCell) : TorInputStream :=
  if s.isClosed then s
  else { s with
    incomingCells := s.incomingCells ++ [.cell cell]
    bytesReceived := s.bytesReceived + cell.cellBytesRemaining
    availableBytes := s.availableBytes + cell.cellBytesRemaining }

/-- `processIncomingCell`. -/
def processIncomingCell (nextCell : Incoming) : InputM Unit := do
  if (← get).isClosed then throw (.io (lit "Input stream closed"))
  match nextCell with
  | .closeSentinel => throw (.io (lit "Input stream closed"))
  | .cell cell =>
    if cell.relayCommand = RELAY_DATA then
      modify fun s => { s with currentBuffer := cell.toCell.payload }
    else if cell.relayCommand = RELAY_END then
      modify fun s => { s with currentBuffer := [], isEOF := true }
    else
      throw (.io (lit "Unexpected RelayCell command type in TorInputStream queue: " ++
        showInt cell.relayCommand))

/-- The loop of `fillBuffer` over what is in the queue. -/
def fillBufferFrom : List Incoming → InputM Unit
  | [] => throw .blocked
  | nextCell :: rest => do
    modify fun s => { s with incomingCells := rest }
    processIncomingCell nextCell
    if !((← get).isEOF || !(← get).currentBuffer.isEmpty) then fillBufferFrom rest

def refillBufferIfNeeded : InputM Unit := do
  if !(← get).isEOF && (← get).currentBuffer.isEmpty then fillBufferFrom (← get).incomingCells

/-- `read()`: the next byte, or none for the end of the stream. -/
def readByte : InputM (Option UInt8) := do
  if (← get).isClosed then throw (.io (lit "Stream closed"))
  refillBufferIfNeeded
  if (← get).isEOF then return none
  match (← get).currentBuffer with
  | [] => throw .bufferUnderflow
  | b :: rest =>
    modify fun s => { s with currentBuffer := rest, availableBytes := s.availableBytes - 1 }
    return some b

def readFromCurrentBuffer (len : Nat) : InputM (List UInt8) := do
  let read := (← get).currentBuffer.take len
  modify fun s => { s with
    currentBuffer := s.currentBuffer.drop len
    availableBytes := s.availableBytes - read.length }
  return read

/-- The loop of `read`. A round that does not end it reads at least one byte, so that a bound on
the bytes asked for bounds the rounds. -/
def readRounds : Nat → Nat → List UInt8 → InputM (List UInt8)
  | 0, _, done => return done
  | rounds + 1, len, done => do
    if done.length < len && !(← get).isEOF then
      refillBufferIfNeeded
      let done := done ++ (← readFromCurrentBuffer (len - done.length))
      if (← get).availableBytes = 0 then return done
      readRounds rounds len done
    else return done

/-- `read(b, off, len)` for an array of `size` bytes: what is put into the array, or none for the
end of the stream. -/
def read (size : Nat) (off len : Int) : InputM (Option (List UInt8)) := do
  if (← get).isClosed then throw (.io (lit "Stream closed"))
  if off < 0 ∨ off ≥ size ∨ len < 0 ∨ off + len > size then throw .indexOutOfBounds
  if len = 0 then return some []
  refillBufferIfNeeded
  if (← get).isEOF then return none
  return some (← readRounds len.toNat len.toNat [])

end TorInputStream

/-! ## The output stream -/

/-- `TorOutputStream`: the cell that is being filled, if there is one. -/
structure TorOutputStream where
  currentOutputCell : Option RelayCell := none
  isClosed : Bool := false
  bytesSent : Nat := 0
  deriving DecidableEq

/-- The cell that a flush has to send: it holds data. -/
def TorOutputStream.pending (out : TorOutputStream) : Option RelayCell :=
  out.currentOutputCell.filter fun cell => HEADER_SIZE < cell.cellBytesConsumed

/-! ## Streams -/

structure StreamImpl where
  streamId : Nat
  targetNode : Nat
  autoclose : Bool
  inputStream : TorInputStream := { }
  outputStream : TorOutputStream := { }
  isClosed : Bool := false
  relayEndReceived : Bool := false
  relayEndReason : Nat := 0
  relayConnectedReceived : Bool := false
  packageWindow : Int := 500
  deliverWindow : Int := 500
  deriving DecidableEq

namespace StreamImpl

def STREAMWINDOW_START : Int := 500
def STREAMWINDOW_INCREMENT : Int := 50
def STREAMWINDOW_MAX_UNFLUSHED : Nat := 10

/-- The stream after `addInputCell` has taken note of a cell. -/
def applyCell (stream : StreamImpl) (cell : RelayCell) : Except JavaException StreamImpl :=
  if cell.relayCommand = RELAY_END then
    match cell.toCell.remaining with
    | [] => .error .bufferUnderflow
    | reason :: _ => .ok { stream with
        relayEndReason := reason.toNat
        relayEndReceived := true
        inputStream := stream.inputStream.addEndCell cell }
  else if cell.relayCommand = RELAY_CONNECTED then
    .ok { stream with relayConnectedReceived := true }
  else if cell.relayCommand = RELAY_SENDME then
    .ok { stream with
      packageWindow := javaInt (stream.packageWindow + STREAMWINDOW_INCREMENT) }
  else
    .ok { stream with
      inputStream := stream.inputStream.addInputCell cell
      deliverWindow := javaInt (stream.deliverWindow - 1) }

/-- What taking note of a cell leaves alone; only a SENDME changes the window for sending. -/
structure Noted (stream stream' : StreamImpl) (cell : RelayCell) : Prop where
  streamId : stream'.streamId = stream.streamId
  targetNode : stream'.targetNode = stream.targetNode
  isClosed : stream'.isClosed = stream.isClosed
  outputStream : stream'.outputStream = stream.outputStream
  packageWindow : stream'.packageWindow =
    if cell.relayCommand = RELAY_SENDME then javaInt (stream.packageWindow + STREAMWINDOW_INCREMENT)
    else stream.packageWindow

theorem applyCell_noted {stream stream' : StreamImpl} {cell : RelayCell}
    (happly : stream.applyCell cell = .ok stream') : stream.Noted stream' cell := by
  unfold applyCell at happly
  split at happly
  · rename_i hend
    have hother : cell.relayCommand ≠ RELAY_SENDME := by
      rw [hend]
      decide
    split at happly
    · cases happly
    · cases happly
      exact ⟨rfl, rfl, rfl, rfl, (if_neg hother).symm⟩
  · split at happly
    · rename_i hconnected
      have hother : cell.relayCommand ≠ RELAY_SENDME := by
        rw [hconnected]
        decide
      cases happly
      exact ⟨rfl, rfl, rfl, rfl, (if_neg hother).symm⟩
    · split at happly
      · rename_i hsendme
        cases happly
        exact ⟨rfl, rfl, rfl, rfl, (if_pos hsendme).symm⟩
      · rename_i hother
        cases happly
        exact ⟨rfl, rfl, rfl, rfl, (if_neg hother).symm⟩

/-- The two tests of `considerSendingSendme`. -/
def sendmeDue (stream : StreamImpl) : Bool :=
  stream.deliverWindow ≤ STREAMWINDOW_START - STREAMWINDOW_INCREMENT &&
    stream.inputStream.unflushedCellCount < STREAMWINDOW_MAX_UNFLUSHED

/-- The credit for a SENDME that was sent. -/
def creditDeliverWindow (stream : StreamImpl) : StreamImpl :=
  { stream with deliverWindow := javaInt (stream.deliverWindow + STREAMWINDOW_INCREMENT) }

/-- The part of `waitForSendWindow` on the stream's own window, taking one off it. -/
def waitForSendWindowAndDecrement (stream : StreamImpl) (wakeup : CircuitNode.Wakeup) :
    Except JavaException StreamImpl := do
  let window ← CircuitNode.awaitWindow stream.packageWindow STREAMWINDOW_INCREMENT
    (lit "Thread interrupted while waiting for stream package window") wakeup
  return { stream with packageWindow := javaInt (window - 1) }

theorem waitForSendWindowAndDecrement_never (stream : StreamImpl) :
    stream.waitForSendWindowAndDecrement .never =
      if stream.packageWindow = 0 then .error .blocked
      else .ok { stream with packageWindow := javaInt (stream.packageWindow - 1) } := by
  unfold waitForSendWindowAndDecrement CircuitNode.awaitWindow
  by_cases hwindow : stream.packageWindow = 0
  · rw [if_pos hwindow, if_pos hwindow]
    rfl
  · rw [if_neg hwindow, if_neg hwindow]
    rfl

/-- The start of `close`: the flag is set and the input stream closed. -/
def closeInput (stream : StreamImpl) : StreamImpl :=
  { stream with isClosed := true, inputStream := stream.inputStream.close }

end StreamImpl

end Orchid
