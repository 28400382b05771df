import Mathlib

/-!
# Lists in which one entry is replaced, or looked for

* **`map_set_of_eq`**: a view that does not tell the new entry from the old one does not tell the
  lists apart.
* `map_eq_of_forall₂`: lists related entry by entry have the same views.
* `getElem?_set_cases`: an entry of the new list is the new one, or was there before.
* `sum_map_set_lt`: a total over the entries.
* `upTo_cons`: a list up to the first occurrence of an element.
-/

namespace Lists

variable {α γ : Type} {l : List α} {i : Nat} {a a' : α}

theorem map_set_of_eq {view : α → γ} (ha : l[i]? = some a) (hview : view a' = view a) :
    (l.set i a').map view = l.map view := by
  obtain ⟨hi, rfl⟩ := List.getElem?_eq_some_iff.mp ha
  have hi' : i < (l.map view).length := by rwa [List.length_map]
  rw [List.map_set, hview, ← List.getElem_map (h := hi'), List.set_getElem_self]

theorem map_eq_of_forall₂ {β : Type} {R : α → β → Prop} {f : α → γ} {g : β → γ} {l' : List β}
    (h : ∀ a b, R a b → f a = g b) (hl : List.Forall₂ R l l') : l.map f = l'.map g := by
  induction hl with
  | nil => rfl
  | cons hab _ ih => rw [List.map_cons, List.map_cons, h _ _ hab, ih]

theorem getElem?_set_cases {j : Nat} {b : α} (hj : (l.set i a')[j]? = some b) :
    (j = i ∧ b = a') ∨ (j ≠ i ∧ l[j]? = some b) := by
  rw [List.getElem?_set] at hj
  by_cases hij : i = j
  · rw [if_pos hij] at hj
    split at hj
    · cases hj
      exact Or.inl ⟨hij.symm, rfl⟩
    · cases hj
  · rw [if_neg hij] at hj
    exact Or.inr ⟨Ne.symm hij, hj⟩

/-- The total falls with the entry that is replaced. -/
theorem sum_map_set_lt {weight : α → Nat} (ha : l[i]? = some a) (hlower : weight a' < weight a) :
    ((l.set i a').map weight).sum < (l.map weight).sum := by
  induction l generalizing i with
  | nil => cases ha
  | cons first l ih =>
    cases i with
    | zero =>
      cases ha
      simp only [List.set_cons_zero, List.map_cons, List.sum_cons]
      omega
    | succ i =>
      have hrest := ih ha
      simp only [List.set_cons_succ, List.map_cons, List.sum_cons]
      omega

/-- A list up to the first occurrence of an element, by its head. -/
theorem upTo_cons {e c : α} {l : List α} {Q : List α → List α → Prop} :
    (∃ before rest, c :: l = before ++ e :: rest ∧ e ∉ before ∧ Q before rest) ↔
      (c = e ∧ Q [] l) ∨ (c ≠ e ∧ ∃ before rest, l = before ++ e :: rest ∧ e ∉ before ∧
        Q (c :: before) rest) := by
  constructor
  · rintro ⟨before, rest, hl, hbefore, hQ⟩
    cases before with
    | nil =>
      cases hl
      exact Or.inl ⟨rfl, hQ⟩
    | cons b before =>
      cases hl
      rw [List.mem_cons, not_or] at hbefore
      exact Or.inr ⟨Ne.symm hbefore.1, before, rest, rfl, hbefore.2, hQ⟩
  · rintro (⟨rfl, hQ⟩ | ⟨hne, before, rest, rfl, hbefore, hQ⟩)
    · exact ⟨[], l, rfl, List.not_mem_nil, hQ⟩
    · exact ⟨c :: before, rest, rfl, by simp [hne.symm, hbefore], hQ⟩

theorem pairwise_three {R : α → α → Prop} {b c : α} :
    [a, b, c].Pairwise R ↔ (R a b ∧ R a c) ∧ R b c := by
  simp

end Lists
