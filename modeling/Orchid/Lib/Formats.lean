import Orchid.Lib.Prog

/-!
# Readers of a byte format

A reader takes items off the front of a buffer and raises one fixed exception when the buffer ends
too early. A format says which items stand for which value, without a reader. `Parses short x G`
connects the two:

* whatever `x` took off the buffer is in the format (`sound`);
* an item of the format is read in full and nothing behind it (`complete`);
* there is no other way to fail than the end of the buffer (`fails`).

The rules follow the syntax of a reader, as those of `Prog.Steps` do. **`Parses.fails_iff`**: a
reader fails exactly on the buffers that do not start with an item of its format.
-/

namespace Prog

variable {ε τ α β : Type}

/-- The reader `x` reads the format `G` and raises `short` where there is no item of it. -/
structure Parses (short : ε) (x : Prog ε (List τ) α) (G : List τ → α → Prop) : Prop where
  sound : ∀ {buffer a rest}, x buffer = .ok a rest → ∃ item, buffer = item ++ rest ∧ G item a
  complete : ∀ {item a} (rest), G item a → x (item ++ rest) = .ok a rest
  fails : ∀ {buffer e rest}, x buffer = .error e rest → e = short

/-- The buffer starts with an item of the format. -/
def Starts (G : List τ → α → Prop) (buffer : List τ) : Prop :=
  ∃ item a rest, buffer = item ++ rest ∧ G item a

namespace Parses

variable {short : ε} {G : List τ → α → Prop} {x : Prog ε (List τ) α}

theorem starts_iff (h : Parses short x G) {buffer : List τ} :
    Starts G buffer ↔ ∃ a rest, x buffer = .ok a rest := by
  constructor
  · rintro ⟨item, a, rest, rfl, hitem⟩
    exact ⟨a, rest, h.complete rest hitem⟩
  · rintro ⟨a, rest, hx⟩
    obtain ⟨item, hbuffer, hitem⟩ := h.sound hx
    exact ⟨item, a, rest, hbuffer, hitem⟩

/-- A reader fails where no item of its format stands. -/
theorem fails_iff (h : Parses short x G) {buffer : List τ} :
    ¬ Starts G buffer ↔ ∃ rest, x buffer = .error short rest := by
  rw [h.starts_iff]
  cases hx : x buffer with
  | ok a rest => simp
  | error e rest =>
    have he : e = short := h.fails hx
    simp [he]

/-! ## Rules -/

theorem pure (a : α) :
    Parses short (Pure.pure a : Prog ε (List τ) α) fun item b => item = [] ∧ b = a where
  sound h := by
    cases h
    exact ⟨[], rfl, rfl, rfl⟩
  complete rest h := by
    obtain ⟨rfl, rfl⟩ := h
    rfl
  fails h := by cases h

/-- A second reader goes on behind the item of the first. -/
theorem bind {f : α → Prog ε (List τ) β} {H : α → List τ → β → Prop} (hx : Parses short x G)
    (hf : ∀ a, Parses short (f a) (H a)) :
    Parses short (x >>= f) fun item b =>
      ∃ front a back, item = front ++ back ∧ G front a ∧ H a back b where
  sound h := by
    obtain ⟨a, mid, hfirst, hsecond⟩ := bind_eq_ok.mp h
    obtain ⟨front, rfl, hfront⟩ := hx.sound hfirst
    obtain ⟨back, rfl, hback⟩ := (hf a).sound hsecond
    exact ⟨front ++ back, (List.append_assoc ..).symm, front, a, back, rfl, hfront, hback⟩
  complete rest h := by
    obtain ⟨front, a, back, rfl, hfront, hback⟩ := h
    rw [List.append_assoc, bind_of_ok (hx.complete (back ++ rest) hfront)]
    exact (hf a).complete rest hback
  fails {buffer e rest} h := by
    rw [bind_run] at h
    cases hfirst : x buffer with rw [hfirst] at h
    | ok a mid =>
      exact (hf a).fails h
    | error e' mid =>
      cases h
      exact hx.fails hfirst

theorem map (hx : Parses short x G) (f : α → β) :
    Parses short (f <$> x) fun item b => ∃ a, G item a ∧ b = f a where
  sound {buffer _ _} h := by
    rw [map_run] at h
    cases hrun : x buffer with rw [hrun] at h
    | ok a rest =>
      cases h
      obtain ⟨item, hbuffer, hitem⟩ := hx.sound hrun
      exact ⟨item, hbuffer, a, hitem, rfl⟩
    | error e rest =>
      cases h
  complete rest h := by
    obtain ⟨a, hitem, rfl⟩ := h
    rw [map_run, hx.complete rest hitem]
  fails {buffer _ _} h := by
    rw [map_run] at h
    cases hrun : x buffer with rw [hrun] at h
    | ok a rest =>
      cases h
    | error e rest =>
      cases h
      exact hx.fails hrun

/-- The same reader under an equivalent description of its format. -/
theorem congr {H : List τ → α → Prop} (h : Parses short x G) (hGH : ∀ item a, G item a ↔ H item a) :
    Parses short x H where
  sound hx := by
    obtain ⟨item, hbuffer, hitem⟩ := h.sound hx
    exact ⟨item, hbuffer, (hGH _ _).mp hitem⟩
  complete rest hitem := h.complete rest ((hGH _ _).mpr hitem)
  fails := h.fails

end Parses

/-! ## Items of a given length -/

section Get

variable (short : ε)

/-- The next element. -/
def getNext : Prog ε (List τ) τ
  | [] => .error short []
  | t :: rest => .ok t rest

/-- The next `n` elements. -/
def getMany (n : Nat) : Prog ε (List τ) (List τ) := fun buffer =>
  if n ≤ buffer.length then .ok (buffer.take n) (buffer.drop n) else .error short buffer

/-- So many items of one format. -/
def getRepeated (x : Prog ε (List τ) α) : Nat → Prog ε (List τ) (List α)
  | 0 => return []
  | n + 1 => do
    let a ← x
    let rest ← getRepeated x n
    return a :: rest

theorem parses_getNext :
    Parses short (getNext short : Prog ε (List τ) τ) fun item t => item = [t] where
  sound {buffer _ _} h := by
    cases buffer with
    | nil => cases h
    | cons t rest =>
      cases h
      exact ⟨[_], rfl, rfl⟩
  complete rest h := by
    subst h
    rfl
  fails {buffer _ _} h := by
    cases buffer with
    | nil =>
      cases h
      rfl
    | cons t rest => cases h

theorem parses_getMany (n : Nat) :
    Parses short (getMany short n : Prog ε (List τ) (List τ)) fun item bytes =>
      item = bytes ∧ bytes.length = n where
  sound {buffer _ _} h := by
    unfold getMany at h
    split at h
    · rename_i hle
      cases h
      exact ⟨_, (List.take_append_drop n buffer).symm, rfl, List.length_take_of_le hle⟩
    · cases h
  complete rest h := by
    obtain ⟨rfl, hlength⟩ := h
    unfold getMany
    rw [if_pos (by rw [List.length_append]; omega), List.take_left' hlength,
      List.drop_left' hlength]
  fails h := by
    unfold getMany at h
    split at h
    · cases h
    · cases h
      rfl

/-- A format repeated: the items one behind the other. -/
inductive Repeated (G : List τ → α → Prop) : List τ → List α → Prop where
  | nil : Repeated G [] []
  | cons {item back : List τ} {a : α} {as : List α} (head : G item a) (tail : Repeated G back as) :
    Repeated G (item ++ back) (a :: as)

theorem parses_getRepeated {x : Prog ε (List τ) α} {G : List τ → α → Prop}
    (hx : Parses short x G) (n : Nat) :
    Parses short (getRepeated x n) fun item as => Repeated G item as ∧ as.length = n := by
  induction n with
  | zero =>
    refine (Parses.pure []).congr fun item as => ?_
    constructor
    · rintro ⟨rfl, rfl⟩
      exact ⟨.nil, rfl⟩
    · rintro ⟨hitem, hlength⟩
      cases hitem with
      | nil => exact ⟨rfl, rfl⟩
      | cons _ _ => cases hlength
  | succ n ih =>
    refine (hx.bind fun a => ih.bind fun as => Parses.pure (a :: as)).congr fun item as => ?_
    constructor
    · rintro ⟨front, a, back, rfl, hfront, mid, as', _, rfl, ⟨hmid, hlength⟩, rfl, rfl⟩
      rw [List.append_nil]
      exact ⟨.cons hfront hmid, congrArg (· + 1) hlength⟩
    · rintro ⟨hitem, hlength⟩
      cases hitem with
      | nil => cases hlength
      | cons hhead htail =>
        refine ⟨_, _, _, rfl, hhead, _, _, [], (List.append_nil _).symm, ⟨htail, ?_⟩, rfl, rfl⟩
        exact Nat.succ.inj hlength

end Get

end Prog
