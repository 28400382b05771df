import Orchid.Lib.Numbering
import Orchid.Lib.Runs

/-!
# Orchid — the ids of circuits

A connection gives each circuit that is bound to it an id of 16 bits, and maps the id to the
circuit until the circuit is removed. `removeCircuit` asks the circuit for its id and removes what
the id is mapped to, so that it matters whether the id was given to another circuit meanwhile.

* `step`: `bindCircuit` and `removeCircuit`.
* **`circuit_ids_owned`**: ids lead to their circuits in every run in which `removeCircuit` is not
  called for a circuit whose old id another circuit has.
* **`successor_removed`**: a circuit loses its id to the second removal of one that had it before.
-/

namespace Orchid

open Numbering

/-- The circuits of a connection, by number; a circuit's own number is its `getCircuitId`. -/
structure CircuitIds where
  circuits : Registry
  currentId : Nat

namespace CircuitIds

def MAX_ID : Nat := 0xFFFF

/-- A loop that has tried every id goes on for ever. -/
def bindCircuit (s : CircuitIds) (circuit : Nat) : Option CircuitIds :=
  (firstFree MAX_ID s.circuits.map MAX_ID s.currentId).map fun id =>
    { circuits := s.circuits.give id circuit, currentId := next MAX_ID id }

def removeCircuit (s : CircuitIds) (circuit : Nat) : CircuitIds :=
  { s with circuits := s.circuits.release circuit }

inductive CircuitCall where
  | bindCircuit (circuit : Nat)
  | removeCircuit (circuit : Nat)
  deriving DecidableEq

def step (s : CircuitIds) : CircuitCall → Option CircuitIds
  | .bindCircuit circuit => s.bindCircuit circuit
  | .removeCircuit circuit => some (s.removeCircuit circuit)

/-- No circuit is bound, and what ids the circuits have is left open: they may have been bound to
another connection. -/
def start (currentId : Nat) (ids : Nat → Nat) : CircuitIds :=
  { circuits := { number := ids }, currentId := currentId }

/-- The number of ids in use. -/
def boundCount (s : CircuitIds) : Nat :=
  ((Finset.Icc 1 MAX_ID).filter fun id => (s.circuits.map id).isSome).card

/-- A circuit is removed only while no other circuit has been given its id. -/
def Unreused (s : CircuitIds) : CircuitCall → Prop
  | .bindCircuit _ => True
  | .removeCircuit circuit =>
    ∀ other, other ≠ circuit → ¬ s.circuits.has other (s.circuits.number circuit)

/-! ## Ownership -/

structure Owned (s : CircuitIds) : Prop where
  range : 1 ≤ s.currentId ∧ s.currentId ≤ MAX_ID
  sound : s.circuits.Sound
  ids : ∀ circuit id, s.circuits.has circuit id → 1 ≤ id ∧ id ≤ MAX_ID

variable {s s' : CircuitIds}

theorem bindCircuit_some {circuit : Nat} (hs : s.Owned) (h : s.bindCircuit circuit = some s') :
    ∃ id, s.circuits.map id = none ∧ (1 ≤ id ∧ id ≤ MAX_ID) ∧
      s' = { circuits := s.circuits.give id circuit, currentId := next MAX_ID id } := by
  obtain ⟨id, hid, rfl⟩ := Option.map_eq_some_iff.mp h
  have hfree := firstFree_eq_some hs.range hid
  exact ⟨id, hfree.1, hfree.2, rfl⟩

theorem owned_step {call : CircuitCall} (hs : s.Owned) (hcall : s.Unreused call)
    (h : s.step call = some s') : s'.Owned := by
  cases call with
  | bindCircuit circuit =>
    obtain ⟨id, hfree, hid, rfl⟩ := bindCircuit_some hs h
    refine ⟨next_range (by decide) id, hs.sound.give fun other hother => ?_, ?_⟩
    · -- the id of a bound circuit is not free
      rw [hs.sound other id hother] at hfree
      cases hfree
    · rintro other k (hold | ⟨rfl, rfl⟩)
      · exact hs.ids other k hold
      · exact hid
  | removeCircuit circuit =>
    cases h
    exact ⟨hs.range, hs.sound.release hcall, fun other k hother => hs.ids other k hother.1⟩

/-- The loop of `bindCircuit` ends as long as one id is free. -/
theorem bindCircuit_returns (hs : s.Owned) (hcount : s.boundCount < MAX_ID) (circuit : Nat) :
    ∃ s', s.bindCircuit circuit = some s' := by
  have hfree : ∃ id, (1 ≤ id ∧ id ≤ MAX_ID) ∧ s.circuits.map id = none := by
    by_contra hnone
    have hall : (Finset.Icc 1 MAX_ID).filter (fun id => (s.circuits.map id).isSome) =
        Finset.Icc 1 MAX_ID := by
      refine Finset.filter_true_of_mem fun id hid => ?_
      rw [Option.isSome_iff_ne_none]
      exact fun hid' => hnone ⟨id, Finset.mem_Icc.mp hid, hid'⟩
    rw [boundCount, hall, Nat.card_Icc] at hcount
    omega
  obtain ⟨id, hid, hnone⟩ := hfree
  obtain ⟨k, hk, rfl⟩ := exists_iterate_next hs.range hid
  obtain ⟨m, hm⟩ := exists_firstFree hk hnone
  exact ⟨_, Option.map_eq_some_iff.mpr ⟨m, hm, rfl⟩⟩

/-- **Ids lead to their circuits**, and while ids are left, `bindCircuit` returns one that no circuit
has. -/
theorem circuit_ids_owned (currentId : Nat) (ids : Nat → Nat) (calls : List CircuitCall)
    (s : CircuitIds) (hcurrent : 1 ≤ currentId ∧ currentId ≤ MAX_ID)
    (hcalls : Runs.Meets step Unreused (start currentId ids) calls)
    (hrun : Runs.run step (start currentId ids) calls = some s) :
    (∀ circuit id, s.circuits.has circuit id → s.circuits.map id = some circuit) ∧
    (s.boundCount < MAX_ID → ∀ circuit, ∃ s', s.step (.bindCircuit circuit) = some s' ∧
      1 ≤ s'.circuits.number circuit ∧ s'.circuits.number circuit ≤ MAX_ID ∧
      s.circuits.map (s'.circuits.number circuit) = none ∧
      s'.circuits.has circuit (s'.circuits.number circuit)) := by
  have hstart : (start currentId ids).Owned := ⟨hcurrent, nofun, nofun⟩
  have hs : s.Owned :=
    Runs.invariant (fun _ _ _ h hcall hstep => owned_step h hcall hstep) hstart hcalls hrun
  refine ⟨hs.sound, fun hcount circuit => ?_⟩
  obtain ⟨s', hs'⟩ := bindCircuit_returns hs hcount circuit
  obtain ⟨id, hfree, hid, rfl⟩ := bindCircuit_some hs hs'
  have hnumber : (s.circuits.give id circuit).number circuit = id := Function.update_self ..
  refine ⟨_, hs', ?_⟩
  rw [hnumber]
  exact ⟨hid.1, hid.2, hfree, Or.inr ⟨rfl, rfl⟩⟩

theorem circuit_ids_owned_one :
    ∃ s, Runs.run step (start 5 fun _ => 0) [.bindCircuit 0] = some s ∧
      s.circuits.map 5 = some 0 := by
  refine ⟨_, rfl, (circuit_ids_owned 5 (fun _ => 0) [.bindCircuit 0] _ (by decide) ?_ rfl).1 0 5
    (Or.inr ⟨rfl, rfl⟩)⟩
  exact ⟨trivial, fun _ _ => trivial⟩

/-! ## Removing by number -/

/-- Circuits that come and go one after the other. -/
def comeAndGo (n : Nat) : List CircuitCall :=
  (List.range n).flatMap fun i => [.bindCircuit (i + 2), .removeCircuit (i + 2)]

/-- They use up the ids in turn. -/
theorem comeAndGo_run {s : CircuitIds} (hempty : s.circuits.map = fun _ => none)
    (hnumber : s.circuits.number 0 = 1) (hcurrent : s.currentId = 2) (n : Nat)
    (hn : n + 1 ≤ MAX_ID) :
    ∃ s', Runs.run step s (comeAndGo n) = some s' ∧ (s'.circuits.map = fun _ => none) ∧
      s'.circuits.number 0 = 1 ∧ s'.currentId = next MAX_ID (n + 1) := by
  induction n with
  | zero => exact ⟨s, rfl, hempty, hnumber, hcurrent⟩
  | succ n ih =>
    obtain ⟨s₁, hrun, hmap, hfirst, hid⟩ := ih (by omega)
    rw [next_of_lt (by omega)] at hid
    have hbind : s₁.bindCircuit (n + 2) = some
        { circuits := s₁.circuits.give (n + 2) (n + 2), currentId := next MAX_ID (n + 2) } := by
      unfold bindCircuit MAX_ID
      simp [firstFree, hmap, hid]
    refine ⟨{ circuits := (s₁.circuits.give (n + 2) (n + 2)).release (n + 2)
              currentId := next MAX_ID (n + 2) }, ?_, ?_, ?_, rfl⟩
    · rw [comeAndGo, List.range_succ, List.flatMap_append]
      refine Runs.run_append.mpr ⟨s₁, hrun, ?_⟩
      exact Runs.run_cons.mpr ⟨_, hbind, rfl⟩
    · exact (Registry.release_give_map (congrFun hmap _)).trans hmap
    · exact (Function.update_of_ne (Nat.succ_ne_zero (n + 1)).symm (n + 2) _).trans hfirst

/-- Circuit 0 is removed, and removed again after its id has been given to circuit 1. -/
theorem successor_removed :
    ∃ s, Runs.run step (start 1 fun _ => 0)
        ([.bindCircuit 0, .removeCircuit 0] ++ comeAndGo (MAX_ID - 1) ++
          [.bindCircuit 1, .removeCircuit 0]) = some s ∧
      s.circuits.has 1 (s.circuits.number 1) ∧ s.circuits.map (s.circuits.number 1) = none := by
  obtain ⟨s₁, hrun, hmap, hnumber, hid⟩ := comeAndGo_run
    (s := { circuits := ((start 1 fun _ => 0).circuits.give 1 0).release 0, currentId := 2 })
    (Registry.release_give_map rfl) rfl rfl (MAX_ID - 1) (by decide)
  have hid : s₁.currentId = 1 := hid
  have hbind : s₁.bindCircuit 1 = some
      { circuits := s₁.circuits.give 1 1, currentId := next MAX_ID 1 } := by
    unfold bindCircuit MAX_ID
    simp [firstFree, hmap, hid]
  refine ⟨_, Runs.run_append.mpr ⟨s₁, Runs.run_append.mpr ⟨_, rfl, hrun⟩,
    Runs.run_cons.mpr ⟨_, hbind, rfl⟩⟩, ?_, ?_⟩
  · simp [removeCircuit, Registry.release, Registry.give]
  · simp [removeCircuit, Registry.release, Registry.give, hnumber]

end CircuitIds

end Orchid
