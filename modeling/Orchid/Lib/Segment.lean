import Mathlib

/-!
# Segments of a list

Fixed layouts put a field at a known place of a list. `segment` reads it and `overwrite`
replaces it, the length of the list unchanged.

* `segment_overwrite`, `segment_overwrite_before`, `segment_overwrite_behind`: what is read
  after a field was replaced.
* **`overwrite_segment`**: putting a field back undoes a replacement.
-/

namespace Segment

variable {α : Type}

/-- The `n` elements from `offset` on. -/
def segment (xs : List α) (offset n : Nat) : List α := (xs.drop offset).take n

/-- Put `ys` over the elements from `offset` on. -/
def overwrite (xs : List α) (offset : Nat) (ys : List α) : List α :=
  xs.take offset ++ ys ++ xs.drop (offset + ys.length)

variable {n offset : Nat} {xs ys : List α}

theorem segment_length (h : offset + n ≤ xs.length) : (segment xs offset n).length = n := by
  unfold segment
  rw [List.length_take, List.length_drop]
  omega

theorem overwrite_length (h : offset + ys.length ≤ xs.length) :
    (overwrite xs offset ys).length = xs.length := by
  unfold overwrite
  rw [List.length_append, List.length_append, List.length_take, List.length_drop]
  omega

/-- The three parts of a list around a segment. -/
theorem split_at (xs : List α) (offset n : Nat) :
    xs = xs.take offset ++ (segment xs offset n ++ xs.drop (offset + n)) := by
  unfold segment
  rw [← List.drop_drop, List.take_append_drop, List.take_append_drop]

theorem segment_append {front middle back : List α} (hfront : front.length = offset)
    (hmiddle : middle.length = n) :
    segment (front ++ (middle ++ back)) offset n = middle := by
  unfold segment
  rw [List.drop_left' hfront, List.take_left' hmiddle]

/-- The replaced field is what was put there. -/
theorem segment_overwrite (h : offset + ys.length ≤ xs.length) :
    segment (overwrite xs offset ys) offset ys.length = ys := by
  have hfront : (xs.take offset).length = offset := List.length_take_of_le (by omega)
  unfold overwrite
  rw [List.append_assoc]
  exact segment_append hfront rfl

/-- A field in front of the replaced one is left alone. -/
theorem segment_overwrite_before {i : Nat} (hi : i + n ≤ offset)
    (h : offset + ys.length ≤ xs.length) :
    segment (overwrite xs offset ys) i n = segment xs i n := by
  have hlength : (xs.take offset).length = offset := List.length_take_of_le (by omega)
  have hdrop : (xs.take offset ++ ys ++ xs.drop (offset + ys.length)).drop i =
      (xs.take offset).drop i ++ (ys ++ xs.drop (offset + ys.length)) := by
    rw [List.append_assoc, List.drop_append_of_le_length (by omega)]
  have hcover : n ≤ ((xs.take offset).drop i).length := by
    rw [List.length_drop, hlength]
    omega
  unfold segment overwrite
  rw [hdrop, List.take_append_of_le_length hcover, List.drop_take, List.take_take,
    show min n (offset - i) = n from by omega]

/-- A field behind the replaced one is left alone. -/
theorem segment_overwrite_behind {i : Nat} (hi : offset + ys.length ≤ i)
    (h : offset + ys.length ≤ xs.length) :
    segment (overwrite xs offset ys) i n = segment xs i n := by
  have hlength : (xs.take offset ++ ys).length = offset + ys.length := by
    rw [List.length_append, List.length_take]
    omega
  have hdrop : (xs.take offset ++ ys ++ xs.drop (offset + ys.length)).drop i = xs.drop i := by
    rw [show i = (offset + ys.length) + (i - (offset + ys.length)) from by omega, ← List.drop_drop,
      List.drop_left' hlength, List.drop_drop]
  unfold segment overwrite
  rw [hdrop]

/-- Only the last replacement of a field counts. -/
theorem overwrite_overwrite {zs : List α} (hlength : ys.length = zs.length)
    (h : offset + ys.length ≤ xs.length) :
    overwrite (overwrite xs offset ys) offset zs = overwrite xs offset zs := by
  have hfront : (xs.take offset).length = offset := List.length_take_of_le (by omega)
  have htake : (xs.take offset ++ ys ++ xs.drop (offset + ys.length)).take offset =
      xs.take offset := by
    rw [List.append_assoc, List.take_left' hfront]
  have hdrop : (xs.take offset ++ ys ++ xs.drop (offset + ys.length)).drop (offset + zs.length) =
      xs.drop (offset + zs.length) := by
    have hboth : (xs.take offset ++ ys).length = offset + zs.length := by
      rw [List.length_append, hfront, hlength]
    rw [List.drop_left' hboth, hlength]
  unfold overwrite
  rw [htake, hdrop]

/-- A field written back over itself changes nothing. -/
theorem overwrite_self (h : offset + n ≤ xs.length) :
    overwrite xs offset (segment xs offset n) = xs := by
  unfold overwrite
  rw [segment_length h, List.append_assoc]
  exact (split_at xs offset n).symm

/-- Putting a field back undoes a replacement. -/
theorem overwrite_segment (h : offset + ys.length ≤ xs.length) :
    overwrite (overwrite xs offset ys) offset (segment xs offset ys.length) = xs := by
  rw [overwrite_overwrite (segment_length h).symm h, overwrite_self h]

end Segment
