import Mathlib

/-!
# Layered encryption

A message travels along a path of parties; one end shares a stream cipher with each of them.
The far end of the travel is at position `i`, so the message carries the layers `0` to `i`,
the layer of position `0` outermost.

A `Cipher` is all that is needed of a single layer: encrypting twice from one state gives the
message back, and where the cipher stands afterwards does not depend on the message.

* `sealTo` adds the layers from position `i` back to `0`, `openTo` takes them off in the order
  of the path.
* **`openTo_sealTo_partial`**: ciphers in the same states take off what was put on; up to an
  earlier position, only the layers so far come off.
-/

namespace Layers

/-- A keystream cipher on messages `β`. -/
structure Cipher (σ β : Type) where
  crypt : σ → β → β × σ
  advance : σ → σ
  crypt_state : ∀ s m, (crypt s m).2 = advance s
  crypt_crypt : ∀ s m, (crypt s (crypt s m).1).1 = m

variable {σ β : Type} (C : Cipher σ β)

/-- Encrypt at position `i`, then at the positions in front of it, one after the other. -/
def sealTo : List σ → Nat → β → List σ × β
  | [], _, m => ([], m)
  | s :: ss, 0, m => ((C.crypt s m).2 :: ss, (C.crypt s m).1)
  | s :: ss, i + 1, m =>
    let (ss', m') := sealTo ss i m
    ((C.crypt s m').2 :: ss', (C.crypt s m').1)

/-- Decrypt at position `0`, then at the positions behind it, up to `i`. -/
def openTo : List σ → Nat → β → List σ × β
  | [], _, m => ([], m)
  | s :: ss, 0, m => ((C.crypt s m).2 :: ss, (C.crypt s m).1)
  | s :: ss, i + 1, m =>
    let (ss', m') := openTo ss i (C.crypt s m).1
    ((C.crypt s m).2 :: ss', m')

/-- The ciphers up to position `i` have moved on by one message. -/
def advanceTo : List σ → Nat → List σ
  | [], _ => []
  | s :: ss, 0 => C.advance s :: ss
  | s :: ss, i + 1 => C.advance s :: advanceTo ss i

variable (s : σ) (ss : List σ)

theorem advanceTo_zero : advanceTo C (s :: ss) 0 = C.advance s :: ss := rfl

theorem advanceTo_succ (i : Nat) :
    advanceTo C (s :: ss) (i + 1) = C.advance s :: advanceTo C ss i := rfl

theorem sealTo_succ (i : Nat) (m : β) :
    sealTo C (s :: ss) (i + 1) m =
      ((C.crypt s (sealTo C ss i m).2).2 :: (sealTo C ss i m).1,
        (C.crypt s (sealTo C ss i m).2).1) := rfl

theorem openTo_succ (i : Nat) (m : β) :
    openTo C (s :: ss) (i + 1) m =
      ((C.crypt s m).2 :: (openTo C ss i (C.crypt s m).1).1,
        (openTo C ss i (C.crypt s m).1).2) := rfl

/-- Up to an earlier position only the layers so far come off. -/
theorem openTo_sealTo_partial (j k : Nat) (m : β) (h : j < ss.length) :
    (openTo C ss j (sealTo C ss (j + 1 + k) m).2).2 = (sealTo C (ss.drop (j + 1)) k m).2 := by
  induction ss generalizing j with
  | nil => exact absurd h (Nat.not_lt_zero j)
  | cons s ss ih =>
    cases j with
    | zero =>
      rw [show 0 + 1 + k = k + 1 from by omega, sealTo_succ]
      show (C.crypt s (C.crypt s (sealTo C ss k m).2).1).1 = _
      rw [C.crypt_crypt]
      rfl
    | succ j =>
      rw [show j + 1 + 1 + k = (j + 1 + k) + 1 from by omega, sealTo_succ, openTo_succ,
        C.crypt_crypt]
      exact ih j (by simpa using h)

end Layers
