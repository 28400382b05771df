import Orchid.Circuits.CallsInOrder
import Orchid.Connections.Connection

/-!
# Orchid — what a cell can do to the reader of a link

The thread that reads the cells of a link handles two exceptions: a `ConnectionIOException` ends
its loop, and a `TorException` is logged. Every other exception leaves the loop and ends the thread
for all the circuits of the link.

* `JavaException.Caught`: the exceptions the loop handles. A call that waits has raised nothing.
* `Printable`: a relay cell that will be recognised as END or TRUNCATED has data in it; these cells
  are printed with the code at the start of their data.
* `ServesNext`: the circuit the next cell is for, if there is one, has its `CircuitIO`, and the cell
  is printable.
* **`deliverRelayCell_handled_iff`**: what a relay cell can raise.
* **`reader_survives_iff`**: what one iteration of the loop can raise.
-/

namespace Orchid

open Prog Circuit RelayCell Connection

/-! ## The condition -/

/-- The exceptions that `readCellsLoop` handles. -/
def JavaException.Caught (e : JavaException) : Prop :=
  e.Handled ∨ ∃ message, e = .connectionIOException message

/-- A code is printed that is not there. -/
def LacksCode (bytes : CellBytes) : Prop :=
  (bytes.getByteAt CELL_HEADER_LEN = RELAY_TRUNCATED ∨
    bytes.getByteAt CELL_HEADER_LEN = RELAY_END) ∧ bytes.getShortAt LENGTH_OFFSET = 0

instance decidableLacksCode (bytes : CellBytes) : Decidable (LacksCode bytes) :=
  inferInstanceAs (Decidable ((_ ∨ _) ∧ _))

/-- Decrypted by the node that recognises it, the cell does not lack its code. -/
def Printable (P : Platform) (c : Circuit) (cell : Cell) : Prop :=
  ∀ hop, (decryptNodes P c.nodeList cell.cellBytes).1 = some hop →
    ¬ LacksCode (decryptNodes P c.nodeList cell.cellBytes).2.2

/-- What is asked of the circuit a cell is for. -/
structure Deliverable (P : Platform) (c : Circuit) (cell : Cell) : Prop where
  bound : cell.command = Cell.RELAY ∨ Connection.isControlCommand cell.command = true →
    c.isBound = true
  printable : cell.command = Cell.RELAY → Printable P c cell

/-- What is asked of the next cell, if there is one. -/
def ServesNext (P : Platform) (s : Connection) : Prop :=
  ∀ cell rest i c, readFromInputStream s.input = some (.fixed cell, rest) →
    Connection.getCircuit cell.circuitId s = some i → s.circuits[i]? = some c →
    Deliverable P c cell

/-- The circuits of the connection are in order. -/
def Connection.WellFormed (s : Connection) : Prop := ∀ c ∈ s.circuits, c.WellFormed

/-! ## Relay cells -/

section Circuits

variable (P : Platform) (W : Waits) {x : CircuitM Unit}

/-- What is safe for the circuits that are in order in one way is safe for all that are. -/
theorem wellFormed_safe {E : JavaException → Prop}
    (h : ∀ ends n, Safe (Serves ends n IntWindows) E x fun _ => True) :
    Safe Circuit.WellFormed E x fun _ => True := by
  intro c hc
  obtain ⟨ends, hserves⟩ := hc.serves
  cases hrun : x c with
  | ok u c' => exact ⟨((h ends _).ok hserves hrun).1.wellFormed, trivial⟩
  | error e c' =>
    obtain ⟨hc', he⟩ := (h ends _).error hserves hrun
    exact ⟨hc'.wellFormed, he⟩

variable {c : Circuit} {cell : Cell}

/-- A cell that lacks its code is recognised, and printed. -/
theorem deliverRelayCell_lacksCode {hop : Nat} (hcommand : cell.command = Cell.RELAY)
    (hhop : (decryptNodes P c.nodeList cell.cellBytes).1 = some hop)
    (hcode : LacksCode (decryptNodes P c.nodeList cell.cellBytes).2.2) :
    ∃ c', deliverRelayCell P W cell c = .error .indexOutOfBounds c' := by
  let bytes := (decryptNodes P c.nodeList cell.cellBytes).2.2
  let c' := { c with nodeList := (decryptNodes P c.nodeList cell.cellBytes).2.1 }
  have hlength : bytes.getShortAt LENGTH_OFFSET = 0 := hcode.2
  have hcreate : ∃ relayCell, createFromCell hop { cell with cellBytes := bytes } = .ok relayCell := by
    unfold createFromCell
    rw [if_neg (not_not.mpr hcommand), hlength, if_neg (by decide)]
    exact ⟨_, rfl⟩
  obtain ⟨relayCell, hrelayCell⟩ := hcreate
  have hdecrypt : decryptRelayCell P W cell c = .ok relayCell c' := by
    unfold decryptRelayCell
    rw [bind_of_ok (show decryptCell P cell.cellBytes c = .ok (some hop, bytes) c' by
      rw [← hhop]
      rfl)]
    exact fromExcept_eq_ok.mpr ⟨hrelayCell, rfl⟩
  have hdecoded := createFromCell_ok hrelayCell
  have hprint : (relayCell.relayCommand = RELAY_TRUNCATED ∨ relayCell.relayCommand = RELAY_END) ∧
      relayCell.limit ≤ HEADER_SIZE := by
    refine ⟨?_, ?_⟩
    · rw [hdecoded.relayCommand]
      exact hcode.1
    · rw [hdecoded.limit]
      show HEADER_SIZE + bytes.getShortAt LENGTH_OFFSET ≤ HEADER_SIZE
      omega
  refine ⟨c', ?_⟩
  unfold deliverRelayCell
  rw [bind_of_ok hdecrypt, bind_run, logRelayCell_run, if_pos hprint]

/-- **A relay cell** raises nothing the loop does not handle, unless it lacks a code. -/
theorem deliverRelayCell_handled_iff (hc : c.WellFormed) (hcommand : cell.command = Cell.RELAY) :
    (∀ e c', deliverRelayCell P W cell c = .error e c' → e.Caught) ↔ Printable P c cell := by
  constructor
  · intro hhandled hop hhop hcode
    obtain ⟨c', hrun⟩ := deliverRelayCell_lacksCode P W hcommand hhop hcode
    rcases hhandled _ _ hrun with (⟨message, h⟩ | h) | ⟨message, h⟩ <;> cases h
  · intro hprintable e c' hrun
    obtain ⟨ends, hserves⟩ := hc.serves
    have hdecrypted : Safe (Serves ends c.nodeList.length IntWindows) JavaException.Handled
        (decryptRelayCell P W cell) (Recognized c.nodeList.length) :=
      decryptRelayCell_safe P W mayWait_ints cell
    left
    unfold deliverRelayCell at hrun
    cases hdecrypt : decryptRelayCell P W cell c with
    | error e₁ c₁ =>
      rw [bind_of_error hdecrypt] at hrun
      cases hrun
      exact (hdecrypted.error hserves hdecrypt).2
    | ok relayCell c₁ =>
      obtain ⟨hserves₁, hrecognized⟩ := hdecrypted.ok hserves hdecrypt
      obtain ⟨hop, hhop, -, hcreate⟩ := decryptRelayCell_created P W hdecrypt
      have hdecoded := createFromCell_ok hcreate
      have hprint : ¬ ((relayCell.relayCommand = RELAY_TRUNCATED ∨
          relayCell.relayCommand = RELAY_END) ∧ relayCell.limit ≤ HEADER_SIZE) := by
        rintro ⟨hcode, hlimit⟩
        rw [hdecoded.relayCommand] at hcode
        rw [hdecoded.limit] at hlimit
        have hlength : (decryptNodes P c.nodeList cell.cellBytes).2.2.getShortAt LENGTH_OFFSET = 0 :=
          Nat.le_zero.mp (Nat.le_of_add_le_add_left hlimit)
        exact hprintable hop hhop ⟨hcode, hlength⟩
      rw [bind_of_ok hdecrypt, bind_run, logRelayCell_run, if_neg hprint] at hrun
      have hdispatch : Safe (Serves ends c.nodeList.length IntWindows) JavaException.Handled
          (dispatchRelayCell P W relayCell) fun _ => True :=
        dispatchRecognized_safe P W mayWait_ints hrecognized hprint
      exact (hdispatch.error hserves₁ hrun).2

theorem deliverControlCell_handled (hc : c.WellFormed) (hcell : cell.remaining ≠ [])
    {e : JavaException} {c' : Circuit} (hrun : deliverControlCell P W cell c = .error e c') :
    e.Caught := by
  have hsafe : Safe Circuit.WellFormed JavaException.Handled (deliverControlCell P W cell)
      fun _ => True :=
    wellFormed_safe fun ends n => deliverControlCell_safe P W mayWait_ints fun h => absurd h hcell
  exact Or.inl (hsafe.error hc hrun).2

end Circuits

/-! ## The cells of the link -/

namespace Connection

variable (P : Platform) (W : Waits) {c : Circuit} {i : Nat} {s : Connection} {cell : Cell}

/-- A call on a circuit raises what the call raises. -/
theorem onCircuit_error (hc : s.circuits[i]? = some c)
    (hbound : c.isBound = true) (e : JavaException) :
    (∃ s', onCircuit i x s = .error e s') ↔ ∃ c', x c = .error e c' := by
  unfold onCircuit
  rw [hc]
  dsimp only
  rw [if_pos hbound]
  cases x c with
  | ok u c' =>
    constructor
    · rintro ⟨s', h⟩
      cases h
    · rintro ⟨c'', h⟩
      cases h
  | error e' c' =>
    constructor
    · rintro ⟨s', h⟩
      cases h
      exact ⟨c', rfl⟩
    · rintro ⟨c'', h⟩
      cases h
      exact ⟨_, rfl⟩

theorem onCircuit_unbound (x : CircuitM Unit) (hc : s.circuits[i]? = some c)
    (hbound : c.isBound = false) :
    onCircuit i x s = .error .nullPointer s := by
  unfold onCircuit
  rw [hc]
  dsimp only
  rw [if_neg (by rw [hbound]; decide)]

/-- The circuit of an id is there. -/
theorem getCircuit_some {circuitId : Nat} (h : getCircuit circuitId s = some i) :
    ∃ c, s.circuits[i]? = some c := by
  obtain ⟨hi, -⟩ := List.findIdx?_eq_some_iff_getElem.mp h
  exact ⟨s.circuits[i], List.getElem?_eq_getElem hi⟩

/-- **Handing out a cell** raises what the loop handles exactly if there is no circuit for it, or
the circuit is bound and raises so. -/
theorem deliver_caught_iff {circuitId : Nat} :
    (∀ e s', deliver circuitId x s = .error e s' → e.Caught) ↔
      ∀ i c, getCircuit circuitId s = some i → s.circuits[i]? = some c →
        c.isBound = true ∧ ∀ e c', x c = .error e c' → e.Caught := by
  unfold deliver
  rw [get_bind_run]
  cases hlookup : getCircuit circuitId s with
  | none =>
    constructor
    · exact fun _ _ _ h => nomatch h
    · exact fun _ _ _ h => nomatch h
  | some i =>
    obtain ⟨c, hc⟩ := getCircuit_some hlookup
    dsimp only
    cases hbound : c.isBound with
    | false =>
      rw [onCircuit_unbound x hc hbound]
      constructor
      · intro h
        rcases h _ _ rfl with (⟨message, h⟩ | h) | ⟨message, h⟩ <;> cases h
      · intro h
        have := (h i c rfl hc).1
        cases hbound.symm.trans this
    | true =>
      constructor
      · intro h j d hj hd
        cases hj
        cases hc.symm.trans hd
        refine ⟨hbound, fun e c' hrun => ?_⟩
        obtain ⟨s', hs'⟩ := (onCircuit_error hc hbound e).mpr ⟨c', hrun⟩
        exact h e s' hs'
      · intro h e s' hrun
        obtain ⟨c', hc'⟩ := (onCircuit_error hc hbound e).mp ⟨s', hrun⟩
        exact (h i c rfl hc).2 e c' hc'

/-- What is left of a cell that was just read: its payload. -/
theorem readFromInputStream_remaining {input rest : List UInt8}
    (h : readFromInputStream input = some (.fixed cell, rest)) : cell.remaining ≠ [] := by
  unfold readFromInputStream at h
  split at h
  · split at h
    · unfold readVarCell at h
      split at h
      · dsimp only at h
        split at h <;> cases h
      · cases h
    · split at h
      · cases h
        intro hempty
        have hlength := congrArg List.length hempty
        have hroom : CELL_HEADER_LEN + (CELL_LEN - CELL_HEADER_LEN) ≤ CELL_LEN := by decide
        rw [show Cell.remaining _ = CellBytes.getBytesAt _ CELL_HEADER_LEN
          (CELL_LEN - CELL_HEADER_LEN) from rfl, CellBytes.getBytesAt_length hroom] at hlength
        cases hlength
      · cases h
  · cases h

/-- A command of the handshake is no command of a circuit. -/
theorem not_circuit_of_handshake {command : Nat} (h : isHandshakeCommand command = true) :
    ¬ (command = Cell.RELAY ∨ isControlCommand command = true) := by
  unfold isHandshakeCommand at h
  simp only [Bool.or_eq_true, decide_eq_true_eq] at h
  rcases h with ((rfl | rfl) | rfl) | rfl <;> decide

/-- A cell for which there is nothing to ask is no cell of a circuit. -/
theorem deliverable_of_other
    (h : ¬ (cell.command = Cell.RELAY ∨ isControlCommand cell.command = true)) :
    Deliverable P c cell :=
  ⟨fun hcommand => absurd hcommand h, fun hrelay => absurd (Or.inl hrelay) h⟩

theorem processCell_caught_iff (hs : s.WellFormed) (hcell : cell.remaining ≠ []) :
    (∀ e s', processCell P W (.fixed cell) s = .error e s' → e.Caught) ↔
      ∀ i c, getCircuit cell.circuitId s = some i → s.circuits[i]? = some c →
        Deliverable P c cell := by
  have hcircuit : ∀ {i : Nat} {c : Circuit}, s.circuits[i]? = some c → c.WellFormed := fun hc =>
    hs _ (List.mem_of_getElem? hc)
  unfold processCell
  by_cases hrelay : cell.command = Cell.RELAY
  · rw [if_pos (show (InboundCell.fixed cell).command = Cell.RELAY from hrelay)]
    show (∀ e s', deliver cell.circuitId (deliverRelayCell P W cell) s = .error e s' → e.Caught) ↔ _
    rw [deliver_caught_iff]
    refine forall_congr' fun i => forall_congr' fun c => ?_
    refine imp_congr_right fun _ => ?_
    refine forall_congr' fun hc => ?_
    rw [deliverRelayCell_handled_iff P W (hcircuit hc) hrelay]
    exact ⟨fun ⟨hbound, hprint⟩ => ⟨fun _ => hbound, fun _ => hprint⟩, fun h =>
      ⟨h.bound (Or.inl hrelay), h.printable hrelay⟩⟩
  · rw [if_neg (show (InboundCell.fixed cell).command ≠ Cell.RELAY from hrelay)]
    by_cases hhandshake : isHandshakeCommand cell.command = true
    · rw [if_pos (show isHandshakeCommand (InboundCell.fixed cell).command = true from hhandshake)]
      refine ⟨fun _ i c _ _ => ?_, fun _ e s' h => nomatch h⟩
      exact deliverable_of_other P (not_circuit_of_handshake hhandshake)
    · rw [if_neg (show ¬ isHandshakeCommand (InboundCell.fixed cell).command = true from hhandshake)]
      by_cases hcontrol : isControlCommand cell.command = true
      · rw [if_pos (show isControlCommand (InboundCell.fixed cell).command = true from hcontrol)]
        show (∀ e s', deliver cell.circuitId (deliverControlCell P W cell) s = .error e s' →
          e.Caught) ↔ _
        rw [deliver_caught_iff]
        refine forall_congr' fun i => forall_congr' fun c => ?_
        refine imp_congr_right fun _ => ?_
        refine forall_congr' fun hc => ?_
        constructor
        · rintro ⟨hbound, -⟩
          exact ⟨fun _ => hbound, fun h => absurd h hrelay⟩
        · intro h
          exact ⟨h.bound (Or.inr hcontrol), fun e c' hrun =>
            deliverControlCell_handled P W (hcircuit hc) hcell hrun⟩
      · rw [if_neg (show ¬ isControlCommand (InboundCell.fixed cell).command = true from hcontrol)]
        refine ⟨fun _ i c _ _ => ?_, fun _ e s' h => nomatch h⟩
        exact deliverable_of_other P fun h => h.elim hrelay hcontrol

/-- A cell of variable length goes into the queue or nowhere. -/
theorem processCell_var (s : Connection) (circuitId command : Nat) (payload : List UInt8)
    (e : JavaException) (s' : Connection) :
    processCell P W (.var circuitId command payload) s ≠ .error e s' := by
  unfold processCell
  split
  · exact nofun
  · split
    · exact nofun
    · split
      · exact nofun
      · exact nofun

end Connection

/-- **One iteration.** In every state of a link whose circuits are in order, whatever comes next
from the socket, an iteration of the reading loop returns or raises one of the two exceptions the
loop handles, if and only if the circuit the next cell is for is bound, and the cell does not lack a
code that is printed. -/
theorem reader_survives_iff (P : Platform) (W : Waits) (s : Connection) (hs : s.WellFormed) :
    (∀ e s', readCell P W s = .error e s' → e.Caught) ↔ ServesNext P s := by
  unfold ServesNext
  cases hread : readFromInputStream s.input with
  | none =>
    obtain ⟨message, s₁, hrun, -⟩ := readCell_none P W hread
    rw [hrun]
    constructor
    · exact fun _ _ _ _ _ h => nomatch h
    · rintro - e s' h
      cases h
      exact Or.inr ⟨message, rfl⟩
  | some r =>
    obtain ⟨cell, rest⟩ := r
    rw [readCell_some P W hread]
    cases cell with
    | var circuitId command payload =>
      constructor
      · exact fun _ _ _ _ _ h => nomatch h
      · exact fun _ e s' h => absurd h (processCell_var P W _ _ _ _ e s')
    | fixed cell =>
      -- the input that is left plays no part in the handing out
      have hremaining := readFromInputStream_remaining hread
      rw [processCell_caught_iff P W (s := { s with input := rest }) hs hremaining]
      constructor
      · intro h cell' rest' i c hcell' hi hc
        cases hcell'
        exact h i c hi hc
      · intro h i c hi hc
        exact h cell rest i c rfl hi hc

/-! ## A reason that is not there -/

/-- A link with one circuit of one node. -/
def sampleLink (input : List UInt8) : Connection where
  circuits := [sampleOpen [sampleNode 1]]
  connectionControlCells := []
  input := input
  inputEnd := .eof
  isClosed := false

theorem sampleLink_wellFormed (input : List UInt8) : (sampleLink input).WellFormed := by
  intro c hc
  rw [List.mem_singleton.mp hc]
  refine ⟨List.nodup_nil, fun _ hs => absurd hs List.not_mem_nil, fun node hnode => ?_⟩
  rw [List.mem_singleton.mp hnode]
  rfl

/-- A relay cell for a circuit that is not there is dropped. -/
theorem unknown_circuit_served :
    ServesNext Platform.checksum
      (sampleLink (Cell.createCell 7 Cell.RELAY).cellBytes.bytes) := by
  have hreturned : returned (readCell Platform.checksum Waits.never
      (sampleLink (Cell.createCell 7 Cell.RELAY).cellBytes.bytes)) = true := by
    decide +kernel
  refine (reader_survives_iff Platform.checksum Waits.never _ (sampleLink_wellFormed _)).mp ?_
  intro e s' hraised
  rw [hraised] at hreturned
  cases hreturned

/-- An END cell without data, as it arrives from the node of the circuit. -/
def sampleEmptyEnd : List UInt8 :=
  (Hop.sendBack Platform.checksum [(sampleNode 1).hop] 0
    (sampleCell 1 RELAY_END []).cellBytes).2.bytes

/-- It is printed with its reason, and the thread ends. -/
theorem empty_end_kills_reader :
    (sampleLink sampleEmptyEnd).WellFormed ∧
      (∃ s', readCell Platform.checksum Waits.never (sampleLink sampleEmptyEnd) =
        .error .indexOutOfBounds s') ∧ ¬ JavaException.indexOutOfBounds.Caught := by
  have hraised : raised (readCell Platform.checksum Waits.never
      (sampleLink sampleEmptyEnd)) = some .indexOutOfBounds := by
    decide +kernel
  refine ⟨sampleLink_wellFormed _, raised_eq_some.mp hraised, ?_⟩
  rintro ((⟨message, h⟩ | h) | ⟨message, h⟩) <;> cases h

end Orchid
