import Mathlib

/-!
# Drawing in proportion

A number below a total is turned into a position: the numbers are dealt out to the positions in
order, to each as many as its share.

* **`count_position`**: a position gets as many of the numbers below the total as its share.
* **`count_mod`**: and as many of the remainders of a whole number of rounds, for each round.
-/

namespace Shares

/-- The position a number falls on. -/
def position : List Nat → Nat → Nat
  | [], _ => 0
  | share :: rest, v => if v < share then 0 else position rest (v - share) + 1

theorem position_lt {shares : List Nat} {v : Nat} (hv : v < shares.sum) :
    position shares v < shares.length := by
  induction shares generalizing v with
  | nil => simp at hv
  | cons share rest ih =>
    unfold position
    split
    · simp
    · have hrest := ih (v := v - share) (by rw [List.sum_cons] at hv; omega)
      simp [hrest]

theorem count_position {shares : List Nat} {i share : Nat} (hi : shares[i]? = some share) :
    Nat.count (fun v => position shares v = i) shares.sum = share := by
  induction shares generalizing i with
  | nil => simp at hi
  | cons first rest ih =>
    -- the first numbers fall on the first position, the others on the rest
    have hfirst : ∀ v < first, position (first :: rest) v = 0 := by
      intro v hv
      rw [position, if_pos hv]
    have hrest : ∀ v, position (first :: rest) (first + v) = position rest v + 1 := by
      intro v
      rw [position, if_neg (by omega), Nat.add_sub_cancel_left]
    rw [List.sum_cons, Nat.count_add]
    simp only [hrest]
    cases i with
    | zero =>
      cases hi
      rw [Nat.count_of_forall hfirst, Nat.count_iff_forall_not.mpr (by simp), Nat.add_zero]
    | succ i =>
      have hnone : Nat.count (fun v => position (first :: rest) v = i + 1) first = 0 := by
        rw [Nat.count_iff_forall_not]
        intro v hv
        simp [hfirst v hv]
      rw [hnone, Nat.zero_add]
      simpa using ih hi

/-- Induction on the number of rounds. -/
theorem count_mod (p : Nat → Prop) [DecidablePred p] (total rounds : Nat) :
    Nat.count (fun v => p (v % total)) (total * rounds) = Nat.count p total * rounds := by
  induction rounds with
  | zero => simp
  | succ n ih =>
    have hround : Nat.count (fun v => p ((total * n + v) % total)) total = Nat.count p total := by
      simp only [Nat.count_eq_card_filter_range]
      congr 1
      apply Finset.filter_congr
      intro v hv
      rw [Nat.mul_add_mod, Nat.mod_eq_of_lt (Finset.mem_range.mp hv)]
    rw [Nat.mul_succ, Nat.count_add, ih, hround, Nat.mul_succ]

end Shares
