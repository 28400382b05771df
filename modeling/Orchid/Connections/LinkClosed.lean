import Orchid.Connections.Reader

/-!
# Orchid — the end of a link

When the socket gives no more cells, `readCellsLoop` leaves a sentinel for the handshake, calls
`notifyCircuitsLinkClosed`, and returns. That method has no body: the circuits of the link are
left as they are, and learn of its end when they next send.

* `Circuit.Ended`: neither BUILDING nor OPEN, not in the manager's active set, every stream closed.
* `processCells`: the link when all the cells that came before the end have been processed.
* `readCell_not_io`: what a cell makes a circuit do is never taken for the end of the link.
* **`link_end_ends_circuits_iff`**: after the loop the circuits have ended exactly if they had
  before the read that failed.
-/

namespace Orchid

open Prog Circuit Connection

/-! ## The property -/

/-- Nothing of the circuit goes on: a reader of one of its streams gets an error or the end of the
stream. -/
structure Circuit.Ended (c : Circuit) : Prop where
  state : c.state ≠ .BUILDING ∧ c.state ≠ .OPEN
  inactive : c.isActive = false
  streams : ∀ s ∈ c.streamMap, s.isClosed = true ∧ s.inputStream.isClosed = true

instance decidableEnded (c : Circuit) : Decidable c.Ended :=
  decidable_of_iff ((c.state ≠ .BUILDING ∧ c.state ≠ .OPEN) ∧ c.isActive = false ∧
      ∀ s ∈ c.streamMap, s.isClosed = true ∧ s.inputStream.isClosed = true)
    ⟨fun h => ⟨h.1, h.2.1, h.2.2⟩, fun h => ⟨h.state, h.inactive, h.streams⟩⟩

namespace Connection

/-- Every circuit that is bound to the connection has ended. -/
def AllEnded (s : Connection) : Prop := ∀ c ∈ s.circuits, c.isBound = true → c.Ended

instance decidableAllEnded (s : Connection) : Decidable s.AllEnded :=
  inferInstanceAs (Decidable (∀ c ∈ s.circuits, c.isBound = true → c.Ended))

variable (P : Platform) (W : Waits)

/-- The connection after the cells that come, each processed as the loop does. -/
def processCells (waits : Nat → Waits) : Nat → Connection → Connection
  | 0, s => s
  | n + 1, s =>
    match readFromInputStream s.input with
    | none => s
    | some _ => processCells waits n (final (readCell P (waits s.input.length) s))

/-! ## The cells raise no I/O error -/

section Safety

variable {E : JavaException → Prop}

theorem onCircuit_safe {x : CircuitM Unit} (hx : Safe Circuit.WellFormed E x fun _ => True)
    (hnull : E .nullPointer) (i : Nat) :
    Safe WellFormed E (onCircuit i x) fun _ => True := by
  intro s hs
  unfold onCircuit
  cases hc : s.circuits[i]? with
  | none => exact ⟨hs, trivial⟩
  | some c =>
    have hcircuit := hs c (List.mem_of_getElem? hc)
    -- only the circuit at position `i` is replaced
    have hset : ∀ c' : Circuit, c'.WellFormed →
        WellFormed { s with circuits := s.circuits.set i c' } := by
      intro c' hc' d hd
      rcases List.mem_or_eq_of_mem_set hd with hmem | rfl
      · exact hs d hmem
      · exact hc'
    dsimp only
    by_cases hbound : c.isBound = true
    · rw [if_pos hbound]
      cases hrun : x c with
      | ok u c' => exact ⟨hset c' (hx.ok hcircuit hrun).1, trivial⟩
      | error e c' =>
        obtain ⟨hc', he⟩ := hx.error hcircuit hrun
        exact ⟨hset c' hc', he⟩
    · rw [if_neg hbound]
      exact ⟨hs, hnull⟩

theorem deliver_safe {x : CircuitM Unit} (hx : Safe Circuit.WellFormed E x fun _ => True)
    (hnull : E .nullPointer) (circuitId : Nat) :
    Safe WellFormed E (deliver circuitId x) fun _ => True := by
  refine Safe.get.bind fun s _ => ?_
  split
  · exact Safe.pure trivial
  · exact onCircuit_safe hx hnull _

theorem processCell_safe (hwait : ∀ e : JavaException, e.Handled → E e) (hnull : E .nullPointer)
    (hprint : E .indexOutOfBounds) (hread : E .bufferUnderflow) (cell : InboundCell) :
    Safe WellFormed E (processCell P W cell) fun _ => True := by
  have hmay : MayWait IntWindows E := ⟨mayWait_ints.windows, hwait⟩
  have hrelay : Safe WellFormed E (processRelayCell P W cell) fun _ => True := by
    cases cell with
    | fixed cell =>
      refine deliver_safe (wellFormed_safe fun ends n => ?_) hnull _
      exact deliverRelayCell_safe P W hmay hprint cell
    | var _ _ _ => exact Safe.pure trivial
  have hcontrol : Safe WellFormed E (processControlCell P W cell) fun _ => True := by
    cases cell with
    | fixed cell =>
      refine deliver_safe (wellFormed_safe fun ends n => ?_) hnull _
      exact deliverControlCell_safe P W hmay fun _ => hread
    | var _ _ _ => exact Safe.pure trivial
  refine Safe.ite (fun _ => hrelay) fun _ => Safe.ite (fun _ => ?_) fun _ =>
    Safe.when fun _ => hcontrol
  exact Safe.modify fun s hs => hs

end Safety

/-- Only a read that fails ends the loop as the end of a link does. -/
theorem readCell_not_io {s : Connection} (hs : s.WellFormed) {r : InboundCell × List UInt8}
    (hread : readFromInputStream s.input = some r) :
    (final (readCell P W s)).WellFormed ∧
      ∀ message s', readCell P W s ≠ .error (.connectionIOException message) s' := by
  have hsafe := processCell_safe (E := fun e => ∀ message, e ≠ .connectionIOException message) P W
    (by rintro e (⟨message, rfl⟩ | rfl) <;> exact nofun) nofun nofun nofun r.1
  rw [readCell_some P W hread]
  have hrest : WellFormed { s with input := r.2 } := hs
  refine ⟨hsafe.final hrest, fun message s' hrun => ?_⟩
  exact (hsafe.error hrest hrun).2 message rfl

/-! ## The end of the loop -/

/-- The sentinel and the closing of the socket leave the circuits as they were. -/
theorem allEnded_closed {s s' : Connection} (h : s' = s ∨ s' = s.closeSocket)
    (cells : List InboundCell) :
    (notifyCircuitsLinkClosed { s' with connectionControlCells := cells }).AllEnded ↔
      s.AllEnded := by
  rcases h with rfl | rfl
  · exact Iff.rfl
  · constructor
    · intro hall c hc hbound
      obtain ⟨hstate, hinactive, hstreams⟩ :=
        hall { c with connectionClosed := true } (List.mem_map_of_mem hc) hbound
      exact ⟨hstate, hinactive, hstreams⟩
    · intro hall c' hc' hbound
      obtain ⟨c, hc, rfl⟩ := List.mem_map.mp hc'
      obtain ⟨hstate, hinactive, hstreams⟩ := hall c hc hbound
      exact ⟨hstate, hinactive, hstreams⟩

/-- **After the loop has ended** because the link has, every circuit bound to it has ended if and
only if it had when the cells before the end were processed. -/
theorem link_end_ends_circuits_iff (waits : Nat → Waits) (n : Nat) (s s' : Connection)
    (hs : s.WellFormed) (hloop : readCellsLoop P waits n s = (.linkClosed, s')) :
    s'.AllEnded ↔ (processCells P waits n s).AllEnded := by
  induction n generalizing s with
  | zero => cases hloop
  | succ n ih =>
    unfold readCellsLoop at hloop
    unfold processCells
    cases hread : readFromInputStream s.input with
    | none =>
      obtain ⟨message, s₁, hrun, hs₁⟩ := readCell_none P (waits s.input.length) hread
      rw [hrun] at hloop
      cases hloop
      exact allEnded_closed hs₁ _
    | some r =>
      obtain ⟨hwell, hnot⟩ := readCell_not_io P (waits s.input.length) hs hread
      -- the loop goes on with what the iteration has left
      cases hrun : readCell P (waits s.input.length) s with rw [hrun] at hloop hwell
      | ok u s₁ =>
        exact ih s₁ hwell hloop
      | error e s₁ =>
        cases e with
        | tor | torParsing => exact ih s₁ hwell hloop
        | connectionIOException message => exact absurd hrun (hnot message s₁)
        | _ => cases hloop

end Connection

/-- A DESTROY cell for the circuit of `sampleLink`. -/
def sampleDestroyed : List UInt8 := (Cell.createCell 1 Cell.DESTROY).cellBytes.bytes

/-- A link that ends after its circuit was destroyed from the other side. -/
theorem destroyed_then_link_ends :
    (readCellsLoop Platform.checksum (fun _ => Waits.never) 2
      (sampleLink sampleDestroyed)).2.AllEnded := by
  have hend : (readCellsLoop Platform.checksum (fun _ => Waits.never) 2
      (sampleLink sampleDestroyed)).1 = .linkClosed := by
    decide +kernel
  have hloop : ∀ r : LoopEnd × Connection, r.1 = .linkClosed → r = (.linkClosed, r.2) :=
    fun r hr => Prod.ext hr rfl
  refine (link_end_ends_circuits_iff Platform.checksum (fun _ => Waits.never) 2 _ _
    (sampleLink_wellFormed _) (hloop _ hend)).mpr ?_
  decide +kernel

/-- The link ends under an open circuit: the circuit stays open and active. -/
theorem open_circuit_outlives_link :
    (sampleLink []).WellFormed ∧
      (readCellsLoop Platform.checksum (fun _ => Waits.never) 1 (sampleLink [])).1 = .linkClosed ∧
      (readCellsLoop Platform.checksum (fun _ => Waits.never) 1
        (sampleLink [])).2.circuits.map (fun c => (c.isBound, c.state, c.isActive)) =
        [(true, .OPEN, true)] ∧
      ¬ (readCellsLoop Platform.checksum (fun _ => Waits.never) 1 (sampleLink [])).2.AllEnded := by
  refine ⟨sampleLink_wellFormed _, ?_, ?_, ?_⟩ <;> decide +kernel

end Orchid
