import Mathlib

/-!
# Numbers that are given out and taken back

The numbers from `1` to `max` are given out in turn, and behind the last one the first comes again.
A registry maps numbers to holders. A holder is released by its number, whoever the number stands
for then.

* `next` is the number behind a number; **`exists_iterate_next`**: in this way every number is
  reached from every other.
* `firstFree` looks for a number that stands for nobody. **`firstFree_eq_some`**,
  **`exists_firstFree`**.
* `Registry.Sound`: the numbers that a holder has stand for it. **`Sound.give`**,
  **`Sound.release`**.
-/

namespace Numbering

/-! ## The numbers in turn -/

def next (max n : Nat) : Nat := if n + 1 > max then 1 else n + 1

variable {max n m : Nat}

theorem next_range (hmax : 1 ≤ max) (n : Nat) : 1 ≤ next max n ∧ next max n ≤ max := by
  unfold next
  split <;> omega

theorem next_of_lt (h : n < max) : next max n = n + 1 := if_neg (by omega)

theorem iterate_next_add {k : Nat} (h : n + k ≤ max) : (next max)^[k] n = n + k := by
  induction k with
  | zero => rfl
  | succ k ih =>
    rw [Function.iterate_succ_apply', ih (by omega), next_of_lt (by omega)]
    omega

theorem exists_iterate_next (hn : 1 ≤ n ∧ n ≤ max) (hm : 1 ≤ m ∧ m ≤ max) :
    ∃ k < max, (next max)^[k] n = m := by
  by_cases h : n ≤ m
  · refine ⟨m - n, by omega, ?_⟩
    rw [iterate_next_add (by omega)]
    omega
  · -- to the last number, from there to the first, and on
    refine ⟨(m - 1) + 1 + (max - n), by omega, ?_⟩
    have hlast : (next max)^[max - n] n = max := by
      rw [iterate_next_add (by omega)]
      omega
    have hfirst : next max max = 1 := if_pos (by omega)
    rw [Function.iterate_add_apply, hlast, Function.iterate_succ_apply, hfirst,
      iterate_next_add (by omega)]
    omega

/-- The first number, from `n` on, that stands for nobody. -/
def firstFree (max : Nat) (map : Nat → Option Nat) : Nat → Nat → Option Nat
  | 0, _ => none
  | rounds + 1, n => if (map n).isSome then firstFree max map rounds (next max n) else some n

variable {map : Nat → Option Nat} {rounds : Nat}

theorem firstFree_eq_some (hn : 1 ≤ n ∧ n ≤ max) (h : firstFree max map rounds n = some m) :
    map m = none ∧ 1 ≤ m ∧ m ≤ max := by
  induction rounds generalizing n with
  | zero => cases h
  | succ rounds ih =>
    unfold firstFree at h
    split at h
    · exact ih (next_range (by omega) n) h
    · rename_i hfree
      cases h
      exact ⟨by simpa using hfree, hn⟩

theorem exists_firstFree {k : Nat} (hk : k < rounds) (hfree : map ((next max)^[k] n) = none) :
    ∃ m, firstFree max map rounds n = some m := by
  induction rounds generalizing n k with
  | zero => omega
  | succ rounds ih =>
    unfold firstFree
    split
    · rename_i htaken
      cases k with
      | zero => simp [show map n = none from hfree] at htaken
      | succ k => exact ih (by omega) hfree
    · exact ⟨n, rfl⟩

/-! ## Registries -/

/-- The map, the number that each holder knows as its own, and which numbers a holder has been given
since it was last released. -/
structure Registry where
  map : Nat → Option Nat := fun _ => none
  number : Nat → Nat
  has : Nat → Nat → Prop := fun _ _ => False

namespace Registry

def give (r : Registry) (n holder : Nat) : Registry where
  map := Function.update r.map n (some holder)
  number := Function.update r.number holder n
  has h k := r.has h k ∨ h = holder ∧ k = n

def release (r : Registry) (holder : Nat) : Registry where
  map := Function.update r.map (r.number holder) none
  number := r.number
  has h k := r.has h k ∧ h ≠ holder

def Sound (r : Registry) : Prop := ∀ holder n, r.has holder n → r.map n = some holder

variable {r : Registry} {holder : Nat}

theorem Sound.give (h : r.Sound) (hnew : ∀ other, ¬ r.has other n) : (r.give n holder).Sound := by
  rintro other k (hold | ⟨rfl, rfl⟩)
  · have hother : k ≠ n := fun hsame => hnew other (hsame ▸ hold)
    exact (Function.update_of_ne hother ..).trans (h other k hold)
  · exact Function.update_self ..

theorem Sound.release (h : r.Sound)
    (hown : ∀ other, other ≠ holder → ¬ r.has other (r.number holder)) :
    (r.release holder).Sound := by
  rintro other k ⟨hold, hother⟩
  have hk : k ≠ r.number holder := fun hsame => hown other hother (hsame ▸ hold)
  exact (Function.update_of_ne hk ..).trans (h other k hold)

/-- Giving out a free number and taking it back leaves the map as it was. -/
theorem release_give_map (hfree : r.map n = none) :
    ((r.give n holder).release holder).map = r.map := by
  simp [Registry.release, Registry.give, hfree.symm]

end Registry

end Numbering
