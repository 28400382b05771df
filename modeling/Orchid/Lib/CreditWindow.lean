import Mathlib

/-!
# Windows of credit

A sender may have so many messages out as its window says. The window starts at `start`; it grows
by `increment` with each grant of the other side, and a unit is taken off it before a message is
sent. Taking and sending are separate steps, so that units can be carried by senders in between,
and lost if such a sender gives up. The window is a machine integer: its value is kept modulo `m`.

* `Ledger`: the history of a window.
* **`Accounts`**: the window is what the history says, and never more is taken than was granted.
  Each operation of a sender keeps it (`grant`, `take`, `spend`, `drop`).
* **`Accounts.spent_le`**: so no more is sent than was granted, whatever the integers do.
* `countP_set_add`: counting senders while one of them moves; then its cases by what the move does
  to the count.
* `AccountsAll`: many windows, and senders that carry units of them. Each operation of one sender
  keeps it.
-/

namespace CreditWindow

/-- How often a window was enlarged, how many units were taken off it, and how many messages were
sent for them. -/
structure Ledger where
  granted : Nat := 0
  taken : Nat := 0
  spent : Nat := 0
  deriving DecidableEq

namespace Ledger

def grant (l : Ledger) : Ledger := { l with granted := l.granted + 1 }
def take (l : Ledger) : Ledger := { l with taken := l.taken + 1 }
def spend (l : Ledger) : Ledger := { l with spent := l.spent + 1 }

/-- What is left of the credit, as a number. -/
def credit (start increment : Nat) (l : Ledger) : Int :=
  start + increment * l.granted - l.taken

end Ledger

/-- The window is the credit that is left; `carried` units are taken and not yet spent or lost. -/
structure Accounts (m start increment : Nat) (window : Int) (carried : Nat) (l : Ledger) : Prop where
  window_eq : window = (l.credit start increment).bmod m
  credit_nonneg : 0 ≤ l.credit start increment
  carried_le : l.spent + carried ≤ l.taken

variable {m start increment : Nat} {window : Int} {carried : Nat} {l : Ledger}

theorem accounts_start (m start increment : Nat) :
    Accounts m start increment ((start : Int).bmod m) 0 { } := by
  refine ⟨?_, ?_, Nat.le_refl 0⟩
  · simp [Ledger.credit]
  · simp [Ledger.credit]

namespace Accounts

theorem grant (h : Accounts m start increment window carried l) :
    Accounts m start increment ((window + increment).bmod m) carried l.grant := by
  have hcredit : l.grant.credit start increment = l.credit start increment + increment := by
    simp only [Ledger.credit, Ledger.grant, Int.natCast_add, Int.cast_ofNat_Int, Int.mul_add,
      Int.mul_one]
    omega
  refine ⟨?_, ?_, h.carried_le⟩
  · rw [hcredit, h.window_eq, Int.bmod_add_bmod]
  · rw [hcredit]
    have := h.credit_nonneg
    omega

/-- A window that is not zero has credit left. -/
theorem take (h : Accounts m start increment window carried l) (hwindow : window ≠ 0) :
    Accounts m start increment ((window - 1).bmod m) (carried + 1) l.take := by
  have hcredit : l.take.credit start increment = l.credit start increment - 1 := by
    simp only [Ledger.credit, Ledger.take, Int.natCast_add, Int.cast_ofNat_Int]
    omega
  have hpositive : l.credit start increment ≠ 0 := by
    intro hzero
    rw [h.window_eq, hzero] at hwindow
    exact hwindow (by simp)
  refine ⟨?_, ?_, ?_⟩
  · rw [hcredit, h.window_eq, Int.bmod_sub_bmod]
  · rw [hcredit]
    have := h.credit_nonneg
    omega
  · have := h.carried_le
    show l.spent + (carried + 1) ≤ l.taken + 1
    omega

theorem spend (h : Accounts m start increment window (carried + 1) l) :
    Accounts m start increment window carried l.spend := by
  refine ⟨h.window_eq, h.credit_nonneg, ?_⟩
  have := h.carried_le
  show l.spent + 1 + carried ≤ l.taken
  omega

/-- A sender gives up what it carried. -/
theorem drop (h : Accounts m start increment window (carried + 1) l) :
    Accounts m start increment window carried l :=
  ⟨h.window_eq, h.credit_nonneg, by have := h.carried_le; omega⟩

/-- No more is sent than was granted. -/
theorem spent_le (h : Accounts m start increment window carried l) :
    l.spent ≤ start + increment * l.granted := by
  have hcredit := h.credit_nonneg
  have hcarried := h.carried_le
  unfold Ledger.credit at hcredit
  have : (l.taken : Int) ≤ (start + increment * l.granted : Nat) := by
    push_cast
    omega
  omega

/-- As long as the credit is in the range of the integers, the window is the credit. -/
theorem window_of_lt (h : Accounts m start increment window carried l)
    (hrange : 2 * l.credit start increment < m) : window = l.credit start increment := by
  have hnonneg := h.credit_nonneg
  rw [h.window_eq]
  exact Int.bmod_eq_of_le (by omega) (by omega)

end Accounts

/-- One sender moves from a place to another. -/
theorem countP_set_add {α : Type} {senders : List α} {i : Nat} {a b : α} (p : α → Bool)
    (ha : senders[i]? = some a) :
    (senders.set i b).countP p + (if p a then 1 else 0) =
      senders.countP p + (if p b then 1 else 0) := by
  induction senders generalizing i with
  | nil => cases ha
  | cons c senders ih =>
    cases i with
    | zero =>
      cases ha
      simp only [List.set_cons_zero, List.countP_cons]
      omega
    | succ i =>
      have hrest := ih ha
      simp only [List.set_cons_succ, List.countP_cons]
      omega

section
variable {α : Type} {senders : List α} {i : Nat} {a b : α} {p : α → Bool}

theorem countP_set_same (ha : senders[i]? = some a) (hp : p b = p a) :
    (senders.set i b).countP p = senders.countP p := by
  have hcount := countP_set_add (b := b) p ha
  rw [hp] at hcount
  omega

theorem countP_set_up (ha : senders[i]? = some a) (hpa : p a = false) (hpb : p b = true) :
    (senders.set i b).countP p = senders.countP p + 1 := by
  have hcount := countP_set_add (b := b) p ha
  simp only [hpa, hpb, if_true, Bool.false_eq_true, if_false] at hcount
  omega

theorem countP_set_down (ha : senders[i]? = some a) (hpa : p a = true) (hpb : p b = false) :
    (senders.set i b).countP p + 1 = senders.countP p := by
  have hcount := countP_set_add (b := b) p ha
  simp only [hpa, hpb, if_true, Bool.false_eq_true, if_false] at hcount
  omega

end

/-! ## Many windows -/

section

open Function

variable {α κ : Type} [DecidableEq κ] {windows : κ → Int} {carries : κ → α → Bool}
  {senders : List α} {ledgers : κ → Ledger} {i : Nat} {a b : α} {k : κ}

/-- Every window is what its ledger says; a sender at `a` carries a unit of `k` if `carries k a`. -/
def AccountsAll (m start increment : Nat) (windows : κ → Int) (carries : κ → α → Bool)
    (senders : List α) (ledgers : κ → Ledger) : Prop :=
  ∀ k, Accounts m start increment (windows k) (senders.countP (carries k)) (ledgers k)

namespace AccountsAll

variable (h : AccountsAll m start increment windows carries senders ledgers)
include h

/-- A sender moves on without taking or sending anything. -/
theorem move (ha : senders[i]? = some a) (hsame : ∀ k, carries k b = carries k a) :
    AccountsAll m start increment windows carries (senders.set i b) ledgers := by
  intro k
  rw [countP_set_same ha (hsame k)]
  exact h k

/-- What a sender carried is lost. -/
theorem lose (ha : senders[i]? = some a) (hb : ∀ k, carries k b = false) :
    AccountsAll m start increment windows carries (senders.set i b) ledgers := by
  intro k
  by_cases hcarries : carries k a = true
  · have hbefore := h k
    rw [← countP_set_down ha hcarries (hb k)] at hbefore
    exact hbefore.drop
  · rw [countP_set_same ha ((hb k).trans (Bool.eq_false_iff.mpr hcarries).symm)]
    exact h k

theorem take (ha : senders[i]? = some a) (hnone : ∀ k', carries k' a = false)
    (hb : ∀ k', carries k' b = decide (k = k')) (hwindow : windows k ≠ 0) :
    AccountsAll m start increment (update windows k ((windows k - 1).bmod m)) carries
      (senders.set i b) (update ledgers k (ledgers k).take) := by
  intro k'
  by_cases hk : k = k'
  · subst hk
    rw [update_self, update_self, countP_set_up ha (hnone k) ((hb k).trans (decide_eq_true rfl))]
    exact (h k).take hwindow
  · rw [update_of_ne (Ne.symm hk), update_of_ne (Ne.symm hk),
      countP_set_same ha (((hb k').trans (decide_eq_false hk)).trans (hnone k').symm)]
    exact h k'

/-- A message is sent for what a sender carried. -/
theorem spend (ha : senders[i]? = some a) (hcarries : ∀ k', carries k' a = decide (k = k'))
    (hb : ∀ k', carries k' b = false) :
    AccountsAll m start increment windows carries (senders.set i b)
      (update ledgers k (ledgers k).spend) := by
  intro k'
  by_cases hk : k = k'
  · subst hk
    have hbefore := h k
    rw [← countP_set_down ha ((hcarries k).trans (decide_eq_true rfl)) (hb k)] at hbefore
    rw [update_self]
    exact hbefore.spend
  · rw [update_of_ne (Ne.symm hk),
      countP_set_same ha ((hb k').trans ((hcarries k').trans (decide_eq_false hk)).symm)]
    exact h k'

theorem grant (k : κ) :
    AccountsAll m start increment (update windows k ((windows k + increment).bmod m)) carries
      senders (update ledgers k (ledgers k).grant) := by
  intro k'
  by_cases hk : k' = k
  · subst hk
    rw [update_self, update_self]
    exact (h k').grant
  · rw [update_of_ne hk, update_of_ne hk]
    exact h k'

end AccountsAll

end

end CreditWindow
