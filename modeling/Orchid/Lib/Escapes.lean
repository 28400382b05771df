import Orchid.Lib.Reading

/-!
# Exceptions that escape

A handler catches some of the exceptions a program can raise, and the others escape. Which ones do
is said by a predicate, and for a sequence, a choice and a loop it is said part by part.

* `Raises caught y` is for computations without a state, `Escapes caught x s` for programs.
* **`escapes_bind`**: something escapes from a sequence if it escapes from the first part or, that
  one having returned, from the second.
* **`drain_escapes`**: something escapes from a loop over a queue if it escapes from the step of a
  record that the loop has reached, or from its end.
-/

namespace Prog

variable {ε σ α β τ : Type} (caught : ε → Prop)

/-! ## Computations -/

/-- The computation raises something that is not caught. -/
def Raises (y : Except ε α) : Prop := ∃ e, y = .error e ∧ ¬ caught e

/-- From `s` the program raises something that is not caught. -/
def Escapes (x : Prog ε σ α) (s : σ) : Prop := ∃ e s', x s = .error e s' ∧ ¬ caught e

variable {caught}

@[simp] theorem raises_ok (a : α) : ¬ Raises caught (.ok a : Except ε α) := by
  rintro ⟨e, he, -⟩
  cases he

@[simp] theorem raises_pure (a : α) : ¬ Raises caught (pure a : Except ε α) := raises_ok a

@[simp] theorem raises_error (e : ε) : Raises caught (.error e : Except ε α) ↔ ¬ caught e := by
  constructor
  · rintro ⟨e', he', hnot⟩
    cases he'
    exact hnot
  · intro hnot
    exact ⟨e, rfl, hnot⟩

@[simp] theorem raises_throw (e : ε) : Raises caught (throw e : Except ε α) ↔ ¬ caught e :=
  raises_error e

variable (y : Except ε α)

theorem raises_bind (f : α → Except ε β) :
    Raises caught (y >>= f) ↔ Raises caught y ∨ ∃ a, y = .ok a ∧ Raises caught (f a) := by
  cases y with
  | error e =>
    show Raises caught (.error e) ↔ _
    simp
  | ok a =>
    show Raises caught (f a) ↔ _
    simp

/-- A loop over a list: the elements before the one that raises are computed. -/
theorem raises_mapM {γ : Type} (f : γ → Except ε α) (l : List γ) :
    Raises caught (l.mapM f) ↔
      ∃ before c after, l = before ++ c :: after ∧ (∀ b ∈ before, ∃ a, f b = .ok a) ∧
        Raises caught (f c) := by
  induction l with
  | nil =>
    constructor
    · intro h
      exact absurd h (raises_pure _)
    · rintro ⟨before, c, after, hl, -⟩
      cases before <;> cases hl
  | cons c l ih =>
    rw [List.mapM_cons, raises_bind]
    constructor
    · rintro (hfirst | ⟨a, ha, hrest⟩)
      · exact ⟨[], c, l, rfl, by simp, hfirst⟩
      · rw [raises_bind] at hrest
        rcases hrest with hrest | ⟨as, -, hpure⟩
        · obtain ⟨before, d, after, rfl, hbefore, hd⟩ := ih.mp hrest
          refine ⟨c :: before, d, after, rfl, ?_, hd⟩
          intro b hb
          rcases List.mem_cons.mp hb with rfl | hb
          · exact ⟨a, ha⟩
          · exact hbefore b hb
        · exact absurd hpure (raises_pure _)
    · rintro ⟨before, d, after, hl, hbefore, hd⟩
      cases before with
      | nil =>
        cases hl
        exact Or.inl hd
      | cons b before =>
        cases hl
        obtain ⟨a, ha⟩ := hbefore c List.mem_cons_self
        refine Or.inr ⟨a, ha, ?_⟩
        rw [raises_bind]
        exact Or.inl (ih.mpr ⟨before, d, after, rfl,
          fun b hb => hbefore b (List.mem_cons_of_mem c hb), hd⟩)

/-! ### Computations with a state that an exception loses -/

section StateT

variable {s : σ}

theorem raises_stateT_bind (x : StateT σ (Except ε) α) (f : α → StateT σ (Except ε) β) :
    Raises caught ((x >>= f) s) ↔
      Raises caught (x s) ∨ ∃ a s', x s = .ok (a, s') ∧ Raises caught (f a s') := by
  show Raises caught (x s >>= fun p => f p.1 p.2) ↔ _
  rw [raises_bind]
  simp only [Prod.exists]

theorem stateT_bind_eq_ok (x : StateT σ (Except ε) α) (f : α → StateT σ (Except ε) β) {b : β}
    {s'' : σ} : (x >>= f) s = .ok (b, s'') ↔ ∃ a s', x s = .ok (a, s') ∧ f a s' = .ok (b, s'') := by
  show (x s >>= fun p => f p.1 p.2) = _ ↔ _
  rw [except_bind_eq_ok, Prod.exists]

theorem raises_stateT_pure (a : α) :
    ¬ Raises caught ((pure a : StateT σ (Except ε) α) s) := raises_ok (a, s)

theorem raises_stateT_throw (e : ε) :
    Raises caught ((throw e : StateT σ (Except ε) α) s) ↔ ¬ caught e := raises_error e

theorem raises_stateT_lift (y : Except ε α) :
    Raises caught ((liftM y : StateT σ (Except ε) α) s) ↔ Raises caught y := by
  show Raises caught (y >>= fun a => pure (a, s)) ↔ _
  rw [raises_bind]
  simp

variable {s' : σ}

theorem stateT_lift_eq_ok (y : Except ε α) {a : α} :
    (liftM y : StateT σ (Except ε) α) s = .ok (a, s') ↔ y = .ok a ∧ s' = s := by
  cases y with
  | error e =>
    constructor
    · intro h
      cases h
    · rintro ⟨h, -⟩
      cases h
  | ok b =>
    constructor
    · intro h
      cases h
      exact ⟨rfl, rfl⟩
    · rintro ⟨h, rfl⟩
      cases h
      rfl

end StateT

/-! ## Programs -/

@[simp] theorem escapes_pure (a : α) (s : σ) : ¬ Escapes caught (pure a : Prog ε σ α) s := by
  rintro ⟨e, s', h, -⟩
  cases h

@[simp] theorem escapes_throw (e : ε) (s : σ) :
    Escapes caught (throw e : Prog ε σ α) s ↔ ¬ caught e := by
  constructor
  · rintro ⟨e', s', h, hnot⟩
    cases h
    exact hnot
  · intro hnot
    exact ⟨e, s, rfl, hnot⟩

@[simp] theorem escapes_fromExcept (s : σ) :
    Escapes caught (fromExcept y : Prog ε σ α) s ↔ Raises caught y := by
  cases y with
  | ok a =>
    constructor
    · intro h
      exact absurd h (escapes_pure a s)
    · intro h
      exact absurd h (raises_ok a)
  | error e => exact (escapes_throw e s).trans (raises_error e).symm

theorem escapes_bind (x : Prog ε σ α) (f : α → Prog ε σ β) (s : σ) :
    Escapes caught (x >>= f) s ↔
      Escapes caught x s ∨ ∃ a s', x s = .ok a s' ∧ Escapes caught (f a) s' := by
  unfold Escapes
  rw [bind_run]
  cases hx : x s with
  | ok | error => simp

theorem escapes_fromExcept_bind (f : α → Prog ε σ β) (s : σ) :
    Escapes caught (fromExcept y >>= f) s ↔
      Raises caught y ∨ ∃ a, y = .ok a ∧ Escapes caught (f a) s := by
  rw [escapes_bind, escapes_fromExcept]
  simp [fromExcept_eq_ok]

variable {s : σ} {x : Prog ε σ α}

theorem escapes_of_ok {a : α} (h : x s = .ok a s') : ¬ Escapes caught x s := by
  rintro ⟨e, s'', h', -⟩
  cases h.symm.trans h'

variable {f : α → Prog ε σ β}

/-- The first part returns whatever happens. -/
theorem escapes_bind_of_ok {a : α} (h : x s = .ok a s') :
    Escapes caught (x >>= f) s ↔ Escapes caught (f a) s' := by
  unfold Escapes
  rw [bind_of_ok h]

/-- A program that escapes from nowhere. -/
def Contained (caught : ε → Prop) (x : Prog ε σ α) : Prop := ∀ s, ¬ Escapes caught x s

theorem Contained.bind (hx : Contained caught x)
    (hf : ∀ a, Contained caught (f a)) : Contained caught (x >>= f) := by
  intro s h
  rw [escapes_bind] at h
  rcases h with h | ⟨a, s', -, h⟩
  · exact hx s h
  · exact hf a s' h

theorem Contained.pure (a : α) : Contained caught (Pure.pure a : Prog ε σ α) := escapes_pure a

theorem Contained.throw {e : ε} (he : caught e) :
    Contained caught (MonadExcept.throw e : Prog ε σ α) := by
  intro s h
  exact (escapes_throw e s).mp h he

theorem Contained.get : Contained caught (MonadState.get : Prog ε σ σ) := by
  rintro s ⟨e, s', h, -⟩
  cases h

theorem Contained.modify (f : σ → σ) : Contained caught (modify f : Prog ε σ PUnit) := by
  rintro s ⟨e, s', h, -⟩
  cases h

theorem Contained.ite {c : Prop} [Decidable c] {y : Prog ε σ α} (hx : Contained caught x)
    (hy : Contained caught y) : Contained caught (if c then x else y) := by
  split
  · exact hx
  · exact hy

/-! ## Loops over a queue -/

/-- The states between two rounds: each round has taken a record and returned. -/
inductive Reached (V : QueueView σ τ) (step : τ → Prog ε σ PUnit) (s : σ) : σ → Prop where
  | start : Reached V step s s
  | round {s₁ s₂ : σ} {t : τ} {rest : List τ} (h : Reached V step s s₁)
      (hget : V.get s₁ = t :: rest) (hstep : step t (V.set rest s₁) = .ok ⟨⟩ s₂) :
      Reached V step s s₂

variable {V : QueueView σ τ} {step : τ → Prog ε σ PUnit} {done : Prog ε σ PUnit} {stuck : ε}

theorem Reached.head {s₁ s₂ : σ} {t : τ} {rest : List τ} (hget : V.get s = t :: rest)
    (hstep : step t (V.set rest s) = .ok ⟨⟩ s₁) (h : Reached V step s₁ s₂) :
    Reached V step s s₂ := by
  induction h with
  | start => exact .round .start hget hstep
  | round _ hget' hstep' ih => exact .round ih hget' hstep'

/-- What the next round, or the end, lets escape. -/
def RoundEscapes (caught : ε → Prop) (V : QueueView σ τ) (step : τ → Prog ε σ PUnit)
    (done : Prog ε σ PUnit) (s : σ) : Prop :=
  (V.get s = [] ∧ Escapes caught done s) ∨
    ∃ t rest, V.get s = t :: rest ∧ Escapes caught (step t) (V.set rest s)

theorem escapes_drain_of_round (hfront : ∀ t, Front V (step t)) {s₁ : σ}
    (hreached : Reached V step s s₁) (h : Escapes caught (drain V stuck step done) s₁) :
    Escapes caught (drain V stuck step done) s := by
  induction hreached with
  | start => exact h
  | round _ hget hstep ih =>
    apply ih
    unfold Escapes
    rw [drain_cons hfront hget, bind_of_ok hstep]
    exact h

/-- **Escaping from a loop.** Induction on the length of the queue. -/
theorem drain_escapes (hfront : ∀ t, Front V (step t)) (s : σ) :
    Escapes caught (drain V stuck step done) s ↔
      ∃ s', Reached V step s s' ∧ RoundEscapes caught V step done s' := by
  constructor
  · induction hn : (V.get s).length using Nat.strongRecOn generalizing s with
    | ind n ih =>
      intro h
      cases hget : V.get s with
      | nil =>
        refine ⟨s, .start, Or.inl ⟨hget, ?_⟩⟩
        unfold Escapes at h ⊢
        rwa [drain_nil hget] at h
      | cons t rest =>
        unfold Escapes at h
        rw [drain_cons hfront hget] at h
        rcases (escapes_bind _ _ _).mp h with hstep | ⟨⟨⟩, s₁, hok, hrest⟩
        · exact ⟨s, .start, Or.inr ⟨t, rest, hget, hstep⟩⟩
        · have hlt : (V.get s₁).length < n := by
            have hle := (hfront t).length_le hok
            rw [V.get_set] at hle
            rw [← hn, hget, List.length_cons]
            omega
          obtain ⟨s', hreached, hround⟩ := ih _ hlt s₁ rfl hrest
          exact ⟨s', hreached.head hget hok, hround⟩
  · rintro ⟨s', hreached, hround⟩
    refine escapes_drain_of_round hfront hreached ?_
    unfold Escapes
    rcases hround with ⟨hget, hdone⟩ | ⟨t, rest, hget, hstep⟩
    · rw [drain_nil hget]
      exact hdone
    · rw [drain_cons hfront hget]
      exact (escapes_bind _ _ _).mpr (Or.inl hstep)

end Prog
