import Mathlib

/-!
# Big-endian bytes

Numbers as bytes, the most significant one first. Only the last digits in base 256 are written, so
that `bytes k` is a number modulo `256 ^ k`.

* **`bytes_value`**: bytes are those of the number they are read as.
-/

namespace BigEndian

/-- The last `k` digits of `n`. -/
def bytes : Nat → Nat → List UInt8
  | 0, _ => []
  | k + 1, n => bytes k (n / 256) ++ [UInt8.ofNat n]

def value (l : List UInt8) : Nat := l.foldl (fun n b => n * 256 + b.toNat) 0

@[simp] theorem value_concat (l : List UInt8) (b : UInt8) :
    value (l ++ [b]) = value l * 256 + b.toNat := by
  simp [value]

theorem bytes_value (l : List UInt8) : bytes l.length (value l) = l := by
  induction l using List.reverseRecOn with
  | nil => rfl
  | append_singleton l b ih =>
    have hdigit : (value l * 256 + b.toNat) / 256 = value l := by
      have hb := b.toNat_lt
      omega
    have hlast : UInt8.ofNat (value l * 256 + b.toNat) = b := by
      rw [UInt8.ofNat_add, UInt8.ofNat_mul]
      simp
    rw [List.length_append, List.length_singleton, value_concat, bytes, hdigit, hlast, ih]

end BigEndian
