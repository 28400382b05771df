import Orchid.Circuits.CircuitIO

/-!
# Orchid — connections

A `ConnectionImpl` is the link to a router, with the circuits that are bound to it. One thread
reads cells off the socket and hands them out: relay cells and the answers to CREATE cells go to
the circuit whose id they carry, the cells of the link handshake to a queue.

What the socket has to give is in the state from the start: the bytes that still come, and what
comes after them, the end of the stream or an I/O error.

* `readFromInputStream`: a cell of fixed or of variable length, by its command.
* `readCell`: one iteration of `readCellsLoop`, and `readCellsLoop` itself.
* **`readCellsLoop_ends`**: the loop ends, as every iteration that goes on has read a cell.
-/

namespace Orchid

open Prog

/-! ## Cells on the wire -/

/-- A cell that was read: one of fixed length, or a header and a payload of its own length. -/
inductive InboundCell where
  | fixed (cell : Cell)
  | var (circuitId command : Nat) (payload : List UInt8)
  deriving DecidableEq

namespace InboundCell

def circuitId : InboundCell → Nat
  | fixed cell => cell.circuitId
  | var circuitId _ _ => circuitId

def command : InboundCell → Nat
  | fixed cell => cell.command
  | var _ command _ => command

/-- What can be read of the cell after its header. -/
def payload : InboundCell → List UInt8
  | fixed cell => cell.remaining
  | var _ _ payload => payload

end InboundCell

/-- The value of two bytes of the wire. -/
def wireShort (high low : UInt8) : Nat := high.toNat * 256 + low.toNat

/-- The cell of fixed length with this header and payload. -/
def fixedCell (high low command : UInt8) (payload : List UInt8)
    (h : payload.length = CELL_PAYLOAD_LEN) : Cell :=
  { circuitId := wireShort high low
    command := command.toNat
    cellBytes := ⟨high :: low :: command :: payload, by
      simp only [List.length_cons, h]
      decide⟩
    position := CELL_HEADER_LEN
    mark := CELL_HEADER_LEN
    limit := CELL_LEN }

/-- `readVarCell`: a length and so many bytes. -/
def readVarCell (circuitId command : Nat) : List UInt8 → Option (InboundCell × List UInt8)
  | high :: low :: input =>
    let length := wireShort high low
    if length ≤ input.length then
      some (.var circuitId command (input.take length), input.drop length)
    else none
  | _ => none

/-- `CellImpl.readFromInputStream`: the next cell and the bytes behind it, unless the bytes end
before the cell does. -/
def readFromInputStream : List UInt8 → Option (InboundCell × List UInt8)
  | high :: low :: command :: input =>
    if command.toNat = Cell.VERSIONS ∨ command.toNat > 127 then
      readVarCell (wireShort high low) command.toNat input
    else if h : CELL_PAYLOAD_LEN ≤ input.length then
      some (.fixed (fixedCell high low command (input.take CELL_PAYLOAD_LEN)
        (List.length_take_of_le h)), input.drop CELL_PAYLOAD_LEN)
    else none
  | _ => none

/-! ## The connection -/

/-- What stands behind the last byte. -/
inductive InputEnd where
  | eof
  | ioException (message : JString)
  deriving DecidableEq

structure Connection where
  circuits : List Circuit
  connectionControlCells : List InboundCell
  input : List UInt8
  inputEnd : InputEnd
  isClosed : Bool

abbrev ConnectionM := Prog JavaException Connection

namespace Connection

variable (P : Platform) (W : Waits)

/-- `closeSocket`: nothing can be sent on the circuits from now on. -/
def closeSocket (s : Connection) : Connection :=
  { s with
    isClosed := true
    circuits := s.circuits.map fun c => { c with connectionClosed := true } }

def recvCell : ConnectionM InboundCell := do
  match readFromInputStream (← get).input with
  | some (cell, rest) =>
    modify fun s => { s with input := rest }
    return cell
  | none =>
    match (← get).inputEnd with
    | .eof =>
      modify closeSocket
      throw (.connectionIOException none)
    | .ioException message =>
      if !(← get).isClosed then modify closeSocket
      throw (.connectionIOException (some message))

/-- The place of a circuit in the map of the connection. -/
def getCircuit (circuitId : Nat) (s : Connection) : Option Nat :=
  s.circuits.findIdx? fun c => c.inCircuitMap && c.circuitId == circuitId

/-- A call on a circuit of the connection. The circuit is in the map before it has its
`CircuitIO`, through which all of these calls go. -/
def onCircuit (i : Nat) (x : CircuitM Unit) : ConnectionM Unit := fun s =>
  match s.circuits[i]? with
  | none => .ok () s
  | some c =>
    if c.isBound then
      match x c with
      | .ok _ c' => .ok () { s with circuits := s.circuits.set i c' }
      | .error e c' => .error e { s with circuits := s.circuits.set i c' }
    else .error .nullPointer s

/-- Hand a cell to the circuit whose id it carries; a cell for no circuit is dropped. -/
def deliver (circuitId : Nat) (x : CircuitM Unit) : ConnectionM Unit := do
  match getCircuit circuitId (← get) with
  | none => return ()
  | some i => onCircuit i x

/-- `processRelayCell`. A cell of variable length is not a relay cell. -/
def processRelayCell : InboundCell → ConnectionM Unit
  | .fixed cell => deliver cell.circuitId (Circuit.deliverRelayCell P W cell)
  | .var _ _ _ => return ()

/-- `processControlCell`; nor is it one of these. -/
def processControlCell : InboundCell → ConnectionM Unit
  | .fixed cell => deliver cell.circuitId (Circuit.deliverControlCell P W cell)
  | .var _ _ _ => return ()

/-- The commands of the link handshake. -/
def isHandshakeCommand (command : Nat) : Bool :=
  command = Cell.NETINFO || command = Cell.VERSIONS || command = Cell.CERTS ||
    command = Cell.AUTH_CHALLENGE

/-- The commands of the cells that control a circuit. -/
def isControlCommand (command : Nat) : Bool :=
  command = Cell.CREATED || command = Cell.CREATED_FAST || command = Cell.DESTROY

def processCell (cell : InboundCell) : ConnectionM Unit :=
  if cell.command = Cell.RELAY then processRelayCell P W cell
  else if isHandshakeCommand cell.command then
    modify fun s => { s with connectionControlCells := s.connectionControlCells ++ [cell] }
  else if isControlCommand cell.command then processControlCell P W cell
  else return ()

/-- What one iteration of `readCellsLoop` tries. -/
def readCell : ConnectionM Unit := do
  processCell P W (← recvCell)

/-- `connectionClosedSentinel`. -/
def connectionClosedSentinel : InboundCell := .fixed (Cell.createCell 0 0)

/-- `notifyCircuitsLinkClosed` is empty. -/
def notifyCircuitsLinkClosed (s : Connection) : Connection := s

/-- How the loop ends: the link has closed, an exception left it, or it waits. The last one is for
a loop that is not at its end. -/
inductive LoopEnd where
  | linkClosed
  | died (e : JavaException)
  | waits
  | running
  deriving DecidableEq

/-- `readCellsLoop`, for so many iterations. `waits` gives the waits that the calls of an iteration
meet, by the bytes that are left. -/
def readCellsLoop (waits : Nat → Waits) : Nat → Connection → LoopEnd × Connection
  | 0, s => (.running, s)
  | n + 1, s =>
    match readCell P (waits s.input.length) s with
    | .ok _ s' => readCellsLoop waits n s'
    | .error (.connectionIOException _) s' =>
      (.linkClosed, notifyCircuitsLinkClosed { s' with
        connectionControlCells := s'.connectionControlCells ++ [connectionClosedSentinel] })
    | .error (.tor _) s' => readCellsLoop waits n s'
    | .error (.torParsing _) s' => readCellsLoop waits n s'
    | .error .blocked s' => (.waits, s')
    | .error e s' => (.died e, s')

/-! ## The loop ends -/

variable {cell : InboundCell} {rest : List UInt8} {s : Connection}

theorem readVarCell_shorter {circuitId command : Nat} {input : List UInt8}
    (h : readVarCell circuitId command input = some (cell, rest)) : rest.length < input.length := by
  unfold readVarCell at h
  split at h
  · dsimp only at h
    split at h
    · cases h
      simp only [List.length_drop, List.length_cons]
      omega
    · cases h
  · cases h

/-- Every cell has a header. -/
theorem readFromInputStream_shorter {input : List UInt8}
    (h : readFromInputStream input = some (cell, rest)) : rest.length < input.length := by
  unfold readFromInputStream at h
  split at h
  · split at h
    · have hvar := readVarCell_shorter h
      simp only [List.length_cons]
      omega
    · split at h
      · cases h
        simp only [List.length_drop, List.length_cons]
        omega
      · cases h
  · cases h

/-- What handing out a cell leaves alone. -/
theorem onCircuit_input (i : Nat) (x : CircuitM Unit) :
    Steps (fun s s' : Connection => s'.input = s.input) (onCircuit i x) := by
  intro s
  unfold onCircuit
  split
  · rfl
  · split
    · split <;> rfl
    · rfl

theorem deliver_input (circuitId : Nat) (x : CircuitM Unit) :
    Steps (fun s s' : Connection => s'.input = s.input) (deliver circuitId x) := by
  have hR := StepOrder.unchanged Connection.input
  refine Steps.get_bind fun s => ?_
  split
  · exact hR.pure _
  · exact onCircuit_input _ x

theorem processCell_input (cell : InboundCell) :
    Steps (fun s s' : Connection => s'.input = s.input) (processCell P W cell) := by
  have hR := StepOrder.unchanged Connection.input
  have hrelay : Steps (fun s s' : Connection => s'.input = s.input) (processRelayCell P W cell) := by
    cases cell with
    | fixed cell => exact deliver_input _ _
    | var _ _ _ => exact hR.pure _
  have hcontrol : Steps (fun s s' : Connection => s'.input = s.input)
      (processControlCell P W cell) := by
    cases cell with
    | fixed cell => exact deliver_input _ _
    | var _ _ _ => exact hR.pure _
  refine Steps.ite hrelay (Steps.ite (Steps.modify fun _ => rfl) (Steps.ite hcontrol ?_))
  exact hR.pure _

theorem recvCell_some (h : readFromInputStream s.input = some (cell, rest)) :
    recvCell s = .ok cell { s with input := rest } := by
  unfold recvCell
  rw [get_bind_run, h]
  rfl

/-- A read that fails closes the socket, and does nothing else. -/
theorem recvCell_none (h : readFromInputStream s.input = none) :
    ∃ message s', recvCell s = .error (.connectionIOException message) s' ∧
      (s' = s ∨ s' = s.closeSocket) := by
  unfold recvCell
  rw [get_bind_run, h]
  dsimp only
  rw [get_bind_run]
  cases s.inputEnd with
  | eof => exact ⟨none, _, rfl, Or.inr rfl⟩
  | ioException message =>
    dsimp only
    rw [get_bind_run]
    cases hclosed : s.isClosed with
    | true => exact ⟨some message, s, rfl, Or.inl rfl⟩
    | false => exact ⟨some message, _, rfl, Or.inr rfl⟩

theorem readCell_some (h : readFromInputStream s.input = some (cell, rest)) :
    readCell P W s = processCell P W cell { s with input := rest } := by
  unfold readCell
  rw [bind_of_ok (recvCell_some h)]

theorem readCell_none (h : readFromInputStream s.input = none) :
    ∃ message s', readCell P W s = .error (.connectionIOException message) s' ∧
      (s' = s ∨ s' = s.closeSocket) := by
  obtain ⟨message, s', hrecv, hs'⟩ := recvCell_none h
  refine ⟨message, s', ?_, hs'⟩
  unfold readCell
  rw [bind_of_error hrecv]

/-- An iteration after which the loop goes on has used up input. -/
theorem readCell_shorter (h : readFromInputStream s.input = some (cell, rest)) :
    (final (readCell P W s)).input.length < s.input.length := by
  have hinput := processCell_input P W cell { s with input := rest }
  rw [readCell_some P W h, hinput]
  exact readFromInputStream_shorter h

theorem readCellsLoop_ends (waits : Nat → Waits) {n : Nat} (hn : s.input.length < n) :
    (readCellsLoop P waits n s).1 ≠ .running := by
  induction n generalizing s with
  | zero => omega
  | succ n ih =>
    unfold readCellsLoop
    cases hread : readFromInputStream s.input with
    | none =>
      obtain ⟨message, s', hrun, -⟩ := readCell_none P (waits s.input.length) hread
      rw [hrun]
      exact nofun
    | some r =>
      have hshorter := readCell_shorter P (waits s.input.length) hread
      have hlater : ∀ s' : Connection, final (readCell P (waits s.input.length) s) = s' →
          (readCellsLoop P waits n s').1 ≠ .running := by
        intro s' hs'
        apply ih
        rw [← hs']
        omega
      split
      · rename_i u s' hrun
        exact hlater s' (by rw [hrun]; rfl)
      · exact nofun
      · rename_i message s' hrun
        exact hlater s' (by rw [hrun]; rfl)
      · rename_i message s' hrun
        exact hlater s' (by rw [hrun]; rfl)
      · exact nofun
      · exact nofun

theorem readCellsLoop_ends_at_eof :
    (readCellsLoop Platform.checksum (fun _ => Waits.never) 2 ⟨[], [], [0], .eof, false⟩).1 ≠
      .running :=
  readCellsLoop_ends Platform.checksum _ (by decide)

end Connection

end Orchid
