import Orchid.Circuits.Stream

/-!
# Orchid — circuits

A circuit with its input and output: the nodes, the open streams, the queues of answers, and
what was written to the connection. `CircuitIO` and `CircuitImpl` are one state here; calls on
either are programs on it (`CircuitM`), which stop where the Java method would raise.

Threads enter as orderings: cells are delivered one at a time by the reading thread, sending
holds a lock, so a history of the circuit is a sequence of such calls. Where a call waits for a
window, `Waits` says what ends the wait; a wait that nothing ends leaves the call `blocked`.

What other objects hold of a circuit is kept with it: whether the manager has it in its active
set, and whether its id is in the circuit map of its connection.

The circuit also keeps records that nothing reads: the cells that were applied to its streams,
the answers that were used to extend it, and in `log` the order in which its end was announced,
by either side, and its id given up.
-/

namespace Orchid

open Prog RelayCell

/-! ## State -/

/-- `CircuitStatus.CircuitState`. -/
inductive CircuitState where
  | UNCONNECTED
  | BUILDING
  | FAILED
  | OPEN
  | DESTROYED
  deriving DecidableEq, Repr

/-- An answer that was used to extend the circuit, and the final node at that time. -/
structure Extension where
  response : RelayCell
  finalNode : Nat
  deriving DecidableEq

/-- A cell that a stream took note of, and the node at which the stream ends. -/
structure Application where
  cell : RelayCell
  targetNode : Nat
  deriving DecidableEq

/-- What is recorded of a circuit's end. -/
inductive CircuitEvent where
  | destroySent
  | destroyReceived
  | idRemoved
  deriving DecidableEq, Repr

structure Circuit where
  circuitId : Nat
  state : CircuitState
  nodeList : List CircuitNode
  streamMap : List StreamImpl
  relayCellResponseQueue : List RelayCell
  controlCellResponseQueue : List Cell
  currentStreamId : Nat
  isMarkedForClose : Bool
  isClosed : Bool
  isBound : Bool
  isActive : Bool
  inCircuitMap : Bool
  managerIsBuilding : Bool
  connectionClosed : Bool
  sent : List Cell
  extensions : List Extension
  applications : List Application
  log : List CircuitEvent

abbrev CircuitM := Prog JavaException Circuit

/-- What ends the waits for the windows of streams, by id, and of nodes, by position. -/
structure Waits where
  stream : Nat → CircuitNode.Wakeup
  node : Nat → CircuitNode.Wakeup

/-- Nothing ends any wait. -/
def Waits.never : Waits := ⟨fun _ => .never, fun _ => .never⟩

namespace Circuit

variable (P : Platform) (W : Waits)

/-! ## Sending -/

def getFinalCircuitNode : CircuitM Nat := do
  let nodes := (← get).nodeList
  if nodes.isEmpty then throw (.tor (lit "getFinalCircuitNode() called on empty circuit"))
  return nodes.length - 1

/-- A call on a node of the circuit. -/
def onNode {α : Type} (i : Nat) (f : CircuitNode → Except JavaException (α × CircuitNode)) :
    CircuitM α := do
  match (← get).nodeList[i]? with
  | none => throw .nullPointer
  | some node =>
    let (a, node) ← fromExcept (f node)
    modify fun c => { c with nodeList := c.nodeList.set i node }
    return a

/-- The loop over `getPreviousNode`: encrypt for the target, then for the nodes in front. -/
def encryptForward : List CircuitNode → Nat → CellBytes → List CircuitNode × CellBytes
  | [], _, c => ([], c)
  | node :: nodes, 0, c => ((node.encryptForwardCell P c).2 :: nodes, (node.encryptForwardCell P c).1)
  | node :: nodes, i + 1, c =>
    let (nodes', c') := encryptForward nodes i c
    ((node.encryptForwardCell P c').2 :: nodes', (node.encryptForwardCell P c').1)

/-- The layers for the target and the nodes in front of it. -/
def encryptCell (targetNode : Nat) (bytes : CellBytes) : CircuitM CellBytes := do
  let (nodes, bytes) := encryptForward P (← get).nodeList targetNode bytes
  modify fun c => { c with nodeList := nodes }
  return bytes

/-- `sendRelayCellTo` up to the sending. -/
def encryptRelayCellTo (cell : RelayCell) (targetNode : Nat) : CircuitM Cell := do
  let cell := cell.setLength
  let digest ← onNode targetNode fun node =>
    let node := node.updateForwardDigest cell.cellBytes
    .ok (node.getForwardDigestBytes P, node)
  let cell := cell.setDigest digest
  let bytes ← encryptCell P targetNode cell.cellBytes
  if cell.relayCommand = RELAY_DATA then
    onNode targetNode fun node => do
      return ((), ← node.waitForSendWindowAndDecrement (W.node targetNode))
  return { cell.toCell with cellBytes := bytes }

/-- What is put on the connection, unless it is closed; returns whether it was open. -/
def writeCell (cell : Cell) : CircuitM Bool := do
  if (← get).connectionClosed then return false
  modify fun c => { c with sent := c.sent ++ [cell] }
  return true

def isConnectedOrBuilding (c : Circuit) : Bool := c.state = .OPEN || c.state = .BUILDING

/-! ## Streams of the circuit -/

def getStream (streamId : Nat) (c : Circuit) : Option StreamImpl :=
  c.streamMap.find? fun s => s.streamId = streamId

theorem getStream_some {streamId : Nat} {c : Circuit} {stream : StreamImpl}
    (h : getStream streamId c = some stream) :
    stream ∈ c.streamMap ∧ stream.streamId = streamId := by
  have hfound := List.find?_some h
  exact ⟨List.mem_of_find?_eq_some h, of_decide_eq_true hfound⟩

/-- Change the stream with this id. -/
def updateStream (streamId : Nat) (f : StreamImpl → StreamImpl) : CircuitM Unit :=
  modify fun c => { c with
    streamMap := c.streamMap.map fun s => if s.streamId = streamId then f s else s }

/-- `CircuitStatus.nextStreamId`. -/
def nextStreamId : CircuitM Nat := do
  let next := (← get).currentStreamId + 1
  let id := if next > 0xFFFF then 1 else next
  modify fun c => { c with currentStreamId := id }
  return id

/-- `createNewStream`: the stream ends at the node that is final now. -/
def createNewStream (autoclose : Bool) : CircuitM StreamImpl := do
  let streamId ← nextStreamId
  let stream : StreamImpl :=
    { streamId := streamId, targetNode := ← getFinalCircuitNode, autoclose := autoclose }
  modify fun c => { c with
    streamMap := stream :: c.streamMap.filter fun s => s.streamId ≠ streamId }
  return stream

/-- A call on the input stream of a stream; what it did before it raised stays done. -/
def onInput {α : Type} (streamId : Nat) (x : TorInputStream.InputM α) : CircuitM α := do
  match getStream streamId (← get) with
  | none => throw .nullPointer
  | some stream =>
    match x stream.inputStream with
    | .ok a input =>
      updateStream streamId fun s => { s with inputStream := input }
      return a
    | .error e input =>
      updateStream streamId fun s => { s with inputStream := input }
      throw e

/-! ## Writing to a stream

What `sendCell` does at the time is a parameter of the calls below: they are also made while the
circuit is being destroyed, when it does nothing. -/

/-- `StreamImpl.waitForSendWindowAndDecrement`: first the window of the stream, of which one is
taken, then that of its node, which is only waited for. -/
def waitForSendWindowAndDecrement (stream : StreamImpl) : CircuitM Unit := do
  let waited ← fromExcept (stream.waitForSendWindowAndDecrement (W.stream stream.streamId))
  updateStream stream.streamId fun s => { s with packageWindow := waited.packageWindow }
  onNode stream.targetNode fun node => do
    return ((), ← node.waitForSendWindow false (W.node stream.targetNode))

/-- The cell of an output stream goes out, if it holds data. -/
def sendPending (send : Cell → CircuitM Unit) (stream : StreamImpl) : CircuitM Unit :=
  match stream.outputStream.pending with
  | none => return ()
  | some cell => do
    waitForSendWindowAndDecrement W stream
    send (← encryptRelayCellTo P W cell cell.circuitNode)
    updateStream stream.streamId fun s => { s with outputStream := { s.outputStream with
      bytesSent := s.outputStream.bytesSent + (cell.cellBytesConsumed - HEADER_SIZE) } }

/-- `flushCurrentOutputCell`. -/
def flushCurrentOutputCell (send : Cell → CircuitM Unit) (stream : StreamImpl) :
    CircuitM Unit := do
  sendPending P W send stream
  let next := RelayCell.create stream.targetNode (← get).circuitId stream.streamId RELAY_DATA false
  updateStream stream.streamId fun s => { s with outputStream := { s.outputStream with
    currentOutputCell := some next } }

/-- `TorOutputStream.flush`. -/
def flushOutput (send : Cell → CircuitM Unit) (stream : StreamImpl) : CircuitM Unit := do
  if !stream.outputStream.isClosed then flushCurrentOutputCell P W send stream

/-- The loop of `write`: fill cells, and flush those that are full. Every round but the last uses
up bytes. The stream is gone if a flush has destroyed the circuit; what is written then goes
nowhere. -/
def writeRounds (send : Cell → CircuitM Unit) (streamId : Nat) : Nat → List UInt8 → CircuitM Unit
  | 0, _ => return ()
  | rounds + 1, data => do
    match getStream streamId (← get) with
    | none => return ()
    | some stream =>
      match stream.outputStream.currentOutputCell with
      | none => throw .nullPointer
      | some cell =>
        if data.isEmpty then return ()
        else if data.length < cell.cellBytesRemaining then
          let cell ← fromExcept (cell.putByteArray data)
          updateStream streamId fun s => { s with outputStream := { s.outputStream with
            currentOutputCell := some cell } }
        else
          let full ← fromExcept (cell.putByteArray (data.take cell.cellBytesRemaining))
          updateStream streamId fun s => { s with outputStream := { s.outputStream with
            currentOutputCell := some full } }
          flushCurrentOutputCell P W send { stream with
            outputStream := { stream.outputStream with currentOutputCell := some full } }
          writeRounds send streamId rounds (data.drop cell.cellBytesRemaining)

/-- A cell to write to: none yet, or one that is full, is flushed first. -/
def prepareOutput (send : Cell → CircuitM Unit) (stream : StreamImpl) : CircuitM Unit :=
  match stream.outputStream.currentOutputCell with
  | none => flushCurrentOutputCell P W send stream
  | some cell =>
    if cell.cellBytesRemaining = 0 then flushCurrentOutputCell P W send stream else return ()

/-- `TorOutputStream.write`. -/
def writeOutput (send : Cell → CircuitM Unit) (stream : StreamImpl) (data : List UInt8) :
    CircuitM Unit := do
  if stream.outputStream.isClosed then throw (.io (lit "Output stream is closed"))
  prepareOutput P W send stream
  writeRounds P W send stream.streamId (data.length + 1) data

/-- `TorOutputStream.close`, which flushes. -/
def closeOutput (send : Cell → CircuitM Unit) (stream : StreamImpl) : CircuitM Unit := do
  if !stream.outputStream.isClosed then
    flushOutput P W send stream
    updateStream stream.streamId fun s => { s with outputStream := { s.outputStream with
      isClosed := true
      currentOutputCell := none } }

/-! ## Closing -/

def REASON_DONE : Nat := 6

/-- `ConnectionImpl.removeCircuit`. -/
def removeCircuit : CircuitM Unit :=
  modify fun c => { c with inCircuitMap := false, log := c.log ++ [.idRemoved] }

/-- `CircuitImpl.setStateDestroyed`, which also takes the circuit out of the active set. -/
def setStateDestroyed : CircuitM Unit :=
  modify fun c => { c with state := .DESTROYED, isActive := false }

/-- `sendDestroyCell`; an error sending the cell is only logged. -/
def sendDestroyCell : CircuitM Unit := do
  let destroy ← fromExcept ((Cell.createCell (← get).circuitId Cell.DESTROY).putByte 0)
  if ← writeCell destroy then modify fun c => { c with log := c.log ++ [.destroySent] }

def closeCircuit : CircuitM Unit := do
  sendDestroyCell
  removeCircuit
  setStateDestroyed
  modify fun c => { c with isClosed := true }

def markForClose : CircuitM Unit := do
  if !(← get).isMarkedForClose then
    modify fun c => { c with isMarkedForClose := true }
    if (← get).streamMap.isEmpty then closeCircuit

def removeStream (streamId : Nat) : CircuitM Unit := do
  modify fun c => { c with streamMap := c.streamMap.filter fun s => s.streamId ≠ streamId }
  if (← get).streamMap.isEmpty && (← get).isMarkedForClose then closeCircuit

/-- The END cell a closed stream sends, unless the other side ended it. -/
def sendEndCell (send : Cell → CircuitM Unit) (stream : StreamImpl) : CircuitM Unit := do
  if !stream.relayEndReceived then
    let final ← getFinalCircuitNode
    let cell := RelayCell.create final (← get).circuitId stream.streamId RELAY_END false
    let cell ← fromExcept (cell.putByte REASON_DONE)
    send (← encryptRelayCellTo P W cell final)

/-- What `StreamImpl.close` does once both sides of the stream are closed. -/
def leaveCircuit (send : Cell → CircuitM Unit) (stream : StreamImpl) : CircuitM Unit := do
  removeStream stream.streamId
  if stream.autoclose then markForClose
  sendEndCell P W send stream

/-- `StreamImpl.close`. -/
def closeStreamWith (send : Cell → CircuitM Unit) (stream : StreamImpl) : CircuitM Unit := do
  if !stream.isClosed then
    updateStream stream.streamId StreamImpl.closeInput
    closeOutput P W send stream
    leaveCircuit P W send stream

/-- `CircuitIO.destroyCircuit` closes every stream. The circuit is DESTROYED by then, so that
`sendCell` returns without sending. -/
def destroyCircuit : CircuitM Unit := do
  if !(← get).isClosed then
    setStateDestroyed
    removeCircuit
    (← get).streamMap.forM (closeStreamWith P W fun _ => return ())
    modify fun c => { c with isClosed := true }

/-- `sendCell`; a connection error destroys the circuit. -/
def sendCell (cell : Cell) : CircuitM Unit := do
  if isConnectedOrBuilding (← get) then
    if !(← writeCell cell) then destroyCircuit P W

def sendRelayCellTo (cell : RelayCell) (targetNode : Nat) : CircuitM Unit := do
  sendCell P W (← encryptRelayCellTo P W cell targetNode)

def closeStream (stream : StreamImpl) : CircuitM Unit :=
  closeStreamWith P W (sendCell P W) stream

/-- `CircuitImpl.destroyCircuit`: a circuit that is not bound yet only leaves the active set. -/
def destroy : CircuitM Unit := do
  if (← get).isBound then destroyCircuit P W
  modify fun c => { c with isActive := false }

/-! ## What a stream receives -/

/-- `StreamImpl.considerSendingSendme`. -/
def considerSendingStreamSendme (stream : StreamImpl) : CircuitM Unit := do
  if stream.sendmeDue then
    let sendme :=
      RelayCell.create stream.targetNode (← get).circuitId stream.streamId RELAY_SENDME false
    sendRelayCellTo P W sendme stream.targetNode
    updateStream stream.streamId StreamImpl.creditDeliverWindow

def isStreamControl (command : Nat) : Bool :=
  command = RELAY_END || command = RELAY_CONNECTED || command = RELAY_SENDME

/-- `StreamImpl.addInputCell`. -/
def addInputCell (stream : StreamImpl) (cell : RelayCell) : CircuitM Unit := do
  if !stream.isClosed then
    let stream ← fromExcept (stream.applyCell cell)
    modify fun c => { c with applications := c.applications ++ [⟨cell, stream.targetNode⟩] }
    updateStream stream.streamId fun _ => stream
    if !isStreamControl cell.relayCommand then
      if stream.deliverWindow < 0 then throw (.tor (lit "Stream has negative delivery window"))
      considerSendingStreamSendme P W stream

/-! ## Receiving -/

/-- The loop of `decryptRelayCell`: which node recognised the cell, the nodes, and the cell. -/
def decryptNodes : List CircuitNode → CellBytes → Option Nat × List CircuitNode × CellBytes
  | [], c => (none, [], c)
  | node :: nodes, c =>
    let (recognized, node', c') := node.decryptBackwardCell P c
    if recognized then (some 0, node' :: nodes, c')
    else
      let (hop, nodes', c'') := decryptNodes nodes c'
      (hop.map (· + 1), node' :: nodes', c'')

/-- Let the nodes decrypt a cell until one recognises it. -/
def decryptCell (bytes : CellBytes) : CircuitM (Option Nat × CellBytes) := do
  let (hop, nodes, bytes) := decryptNodes P (← get).nodeList bytes
  modify fun c => { c with nodeList := nodes }
  return (hop, bytes)

def decryptRelayCell (cell : Cell) : CircuitM RelayCell := do
  let (hop, bytes) ← decryptCell P cell.cellBytes
  match hop with
  | some node => fromExcept (RelayCell.createFromCell node { cell with cellBytes := bytes })
  | none =>
    destroyCircuit P W
    throw (.tor (lit "Could not decrypt relay cell"))

/-- The part of `processRelayDataCell` about the circuit's own windows. -/
def countDataCell (cell : RelayCell) : CircuitM Unit := do
  if cell.relayCommand = RELAY_DATA then
    let sendSendme ← onNode cell.circuitNode fun node =>
      .ok node.decrementDeliverWindow.considerSendingSendme
    if sendSendme then
      let sendme := RelayCell.create cell.circuitNode (← get).circuitId 0 RELAY_SENDME false
      sendRelayCellTo P W sendme cell.circuitNode

/-- `processRelayDataCell`: the stream is looked up by the id in the cell. -/
def processRelayDataCell (cell : RelayCell) : CircuitM Unit := do
  countDataCell P W cell
  match getStream cell.streamId (← get) with
  | none => return ()
  | some stream => addInputCell P W stream cell

def processCircuitSendme (cell : RelayCell) : CircuitM Unit :=
  onNode cell.circuitNode fun node => .ok ((), node.incrementSendWindow)

/-- What becomes of a relay cell, by its command. -/
inductive Dispatch where
  | response
  | stream
  | sendme
  | forward
  | ignored
  deriving DecidableEq, Repr

def dispatch (command : Nat) : Dispatch :=
  if command = RELAY_EXTENDED ∨ command = RELAY_EXTENDED2 ∨ command = RELAY_RESOLVED ∨
      command = RELAY_TRUNCATED ∨ command = RELAY_COMMAND_RENDEZVOUS_ESTABLISHED ∨
      command = RELAY_COMMAND_INTRODUCE_ACK ∨ command = RELAY_COMMAND_RENDEZVOUS2 then .response
  else if command = RELAY_DATA ∨ command = RELAY_END ∨ command = RELAY_CONNECTED then .stream
  else if command = RELAY_SENDME then .sendme
  else if command = RELAY_BEGIN ∨ command = RELAY_BEGIN_DIR ∨ command = RELAY_EXTEND ∨
      command = RELAY_RESOLVE ∨ command = RELAY_TRUNCATE then .forward
  else .ignored

/-- The `switch` of `deliverRelayCell`. -/
def dispatchRelayCell (cell : RelayCell) : CircuitM Unit :=
  match dispatch cell.relayCommand with
  | .response => modify fun c => { c with
      relayCellResponseQueue := c.relayCellResponseQueue ++ [cell] }
  | .stream => processRelayDataCell P W cell
  | .sendme =>
    if cell.streamId ≠ 0 then processRelayDataCell P W cell else processCircuitSendme cell
  | .forward => do
    destroyCircuit P W
    throw (.tor (lit "Unexpected 'forward' direction relay cell type: " ++
      showInt cell.relayCommand))
  | .ignored => return ()

/-- `logRelayCell` prints an incoming cell, and for two commands the code at the start of its
data, which must be there. -/
def logRelayCell (cell : RelayCell) : CircuitM Unit := do
  if (cell.relayCommand = RELAY_TRUNCATED ∨ cell.relayCommand = RELAY_END) ∧
      cell.limit ≤ HEADER_SIZE then throw .indexOutOfBounds

theorem logRelayCell_run (cell : RelayCell) (c : Circuit) :
    logRelayCell cell c =
      if (cell.relayCommand = RELAY_TRUNCATED ∨ cell.relayCommand = RELAY_END) ∧
        cell.limit ≤ HEADER_SIZE then .error .indexOutOfBounds c else .ok () c := by
  unfold logRelayCell
  split <;> rfl

def deliverRelayCell (cell : Cell) : CircuitM Unit := do
  let relayCell ← decryptRelayCell P W cell
  logRelayCell relayCell
  dispatchRelayCell P W relayCell

/-- `processDestroyCell`, with the reading of the reason. -/
def processDestroyCell (cell : Cell) : CircuitM Unit :=
  match cell.remaining with
  | [] => throw .bufferUnderflow
  | _ :: _ => do
    modify fun c => { c with log := c.log ++ [.destroyReceived] }
    destroyCircuit P W

def deliverControlCell (cell : Cell) : CircuitM Unit := do
  if cell.command = Cell.DESTROY then processDestroyCell P W cell
  else modify fun c => { c with
    controlCellResponseQueue := c.controlCellResponseQueue ++ [cell] }

/-- `receiveRelayCell`: the next answer, or null when none came in time. -/
def receiveRelayCell : CircuitM (Option RelayCell) := do
  match (← get).relayCellResponseQueue with
  | [] => return none
  | cell :: rest =>
    modify fun c => { c with relayCellResponseQueue := rest }
    return some cell

def receiveControlCellResponse : CircuitM (Option Cell) := do
  match (← get).controlCellResponseQueue with
  | [] => return none
  | cell :: rest =>
    modify fun c => { c with controlCellResponseQueue := rest }
    return some cell

end Circuit

end Orchid
