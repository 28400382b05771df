import Mathlib

/-!
# Stream ciphers

A stream cipher is a state that yields one key symbol after the other, each mixed into one
symbol of the text. `next` draws a key symbol, `mix` puts it into a symbol of the text.

* **`mixWith_state`**: where the stream stands afterwards depends on the length of the text
  only, so two ciphers in one state stay in step whatever each of them is given.
* **`mixWith_at`**: with the key symbols numbered, each symbol is mixed with that of its place.
* **`mixWith_mixWith`**: if mixing in a symbol twice cancels, a second cipher in the same
  state undoes the first.
-/

namespace Keystream

variable {σ κ α : Type} (next : σ → κ × σ) (mix : κ → α → α)

/-- Mix the stream into a text; the second part is where the stream stands afterwards. -/
def mixWith : σ → List α → List α × σ
  | s, [] => ([], s)
  | s, a :: as =>
    let (k, s') := next s
    let (as', s'') := mixWith s' as
    (mix k a :: as', s'')

/-- The state after `n` key symbols. -/
def advance : Nat → σ → σ
  | 0, s => s
  | n + 1, s => advance n (next s).2

variable (s : σ)

@[simp] theorem advance_zero : advance next 0 s = s := rfl

theorem mixWith_cons (a : α) (as : List α) :
    mixWith next mix s (a :: as) =
      (mix (next s).1 a :: (mixWith next mix (next s).2 as).1,
        (mixWith next mix (next s).2 as).2) := rfl

@[simp] theorem mixWith_length (as : List α) :
    (mixWith next mix s as).1.length = as.length := by
  induction as generalizing s with
  | nil => rfl
  | cons a as ih => rw [mixWith_cons, List.length_cons, ih, List.length_cons]

/-- Where the stream stands depends on the length of the text only. -/
theorem mixWith_state (as : List α) : (mixWith next mix s as).2 = advance next as.length s := by
  induction as generalizing s with
  | nil => rfl
  | cons a as ih => exact ih (next s).2

variable {next} in
/-- A state in which the `n`-th key symbol is drawn next, and the text that is mixed from there. -/
theorem mixWith_at {At : Nat → σ → Prop} {key : Nat → κ}
    (hnext : ∀ n s, At n s → (next s).1 = key n ∧ At (n + 1) (next s).2) {n : Nat} {s : σ}
    (hs : At n s) (as : List α) :
    (mixWith next mix s as).1 = as.mapIdx (fun i a => mix (key (n + i)) a) ∧
      At (n + as.length) (mixWith next mix s as).2 := by
  induction as generalizing n s with
  | nil => exact ⟨rfl, hs⟩
  | cons a as ih =>
    obtain ⟨hkey, hat⟩ := hnext n s hs
    obtain ⟨hmixed, hafter⟩ := ih hat
    rw [mixWith_cons, List.mapIdx_cons, hmixed, hkey]
    simp only [Nat.add_zero, List.length_cons]
    rw [show n + (as.length + 1) = n + 1 + as.length by omega]
    refine ⟨?_, hafter⟩
    simp only [Nat.add_comm 1, Nat.add_assoc]

variable {mix} in
/-- A second cipher in the same state undoes the first. -/
theorem mixWith_mixWith (hmix : ∀ k a, mix k (mix k a) = a) (s : σ) (as : List α) :
    (mixWith next mix s (mixWith next mix s as).1).1 = as := by
  induction as generalizing s with
  | nil => rfl
  | cons a as ih => rw [mixWith_cons, mixWith_cons, hmix, ih]

end Keystream
