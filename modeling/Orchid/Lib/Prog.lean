import Mathlib

/-!
# Programs with a state and exceptions

`Prog ε σ α` is a program over a state `σ` that returns an `α` or raises an `ε`. Both
outcomes keep the state reached, as a method of an object does: what a program wrote
before it raised stays written.

* **Inversion.** `bind_eq_ok` peels a sequence apart once it has returned.
* **Step relations.** `Steps R x` says that whatever `x` does, `R` relates its first
  state to its last. For a preorder `R` the rules below follow the syntax of the program,
  so a fact about a whole run is a fact about its primitive steps.
* **Computing.** `Computes J x y` says that `x` answers as the pure `y` does, whatever it
  writes.
* **Loops.** `iterate` runs a body until it answers `false`. Its bound only serves the
  definition: by `iterate_enough` all bounds above a decreasing measure give one run.
-/

/-- A program over the state `σ` that returns an `α` or raises an `ε`. -/
abbrev Prog (ε σ α : Type) := EStateM ε σ α

namespace Prog

variable {ε σ α β : Type}

/-- The state a run ends in, whether it returned or raised. -/
def final : EStateM.Result ε σ α → σ
  | .ok _ s => s
  | .error _ s => s

@[simp] theorem final_ok (a : α) (s : σ) : final (.ok a s : EStateM.Result ε σ α) = s := rfl

@[simp] theorem final_error (e : ε) (s : σ) :
    final (.error e s : EStateM.Result ε σ α) = s := rfl

/-- Whether a run returned. -/
def returned : EStateM.Result ε σ α → Bool
  | .ok _ _ => true
  | .error _ _ => false

theorem eq_ok_of_returned {r : EStateM.Result ε σ Unit} (h : returned r = true) :
    r = .ok () (final r) := by
  cases r with
  | ok a s => rfl
  | error e s => cases h

/-- What was raised, if anything was. -/
def raised : EStateM.Result ε σ α → Option ε
  | .ok _ _ => none
  | .error e _ => some e

variable {e : ε}

theorem raised_eq_some {r : EStateM.Result ε σ α} : raised r = some e ↔ ∃ s, r = .error e s := by
  cases r with
  | ok a s => exact ⟨nofun, fun ⟨_, h⟩ => nomatch h⟩
  | error e' s =>
    constructor
    · intro h
      cases h
      exact ⟨s, rfl⟩
    · rintro ⟨s', h⟩
      cases h
      rfl

/-! ## Running the primitives -/

theorem bind_run (x : Prog ε σ α) (f : α → Prog ε σ β) (s : σ) :
    (x >>= f) s = match x s with
      | .ok a s' => f a s'
      | .error e s' => .error e s' := rfl

theorem map_run (f : α → β) (x : Prog ε σ α) (s : σ) :
    (f <$> x) s = match x s with
      | .ok a s' => .ok (f a) s'
      | .error e s' => .error e s' := by
  show EStateM.map f x s = _
  unfold EStateM.map
  cases x s <;> rfl

@[simp] theorem pure_run (a : α) (s : σ) : (pure a : Prog ε σ α) s = .ok a s := rfl

@[simp] theorem throw_run (e : ε) (s : σ) : (throw e : Prog ε σ α) s = .error e s := rfl

@[simp] theorem get_run (s : σ) : (get : Prog ε σ σ) s = .ok s s := rfl

@[simp] theorem set_run (s s' : σ) : (set s' : Prog ε σ PUnit) s = .ok ⟨⟩ s' := rfl

@[simp] theorem modify_run (f : σ → σ) (s : σ) :
    (modify f : Prog ε σ PUnit) s = .ok ⟨⟩ (f s) := rfl

/-- A computation without a state. -/
def fromExcept : Except ε α → Prog ε σ α
  | .ok a => pure a
  | .error e => throw e

@[simp] theorem fromExcept_ok (a : α) (s : σ) :
    (fromExcept (.ok a) : Prog ε σ α) s = .ok a s := rfl

@[simp] theorem fromExcept_error (e : ε) (s : σ) :
    (fromExcept (.error e) : Prog ε σ α) s = .error e s := rfl

variable {s s' : σ} {f : α → Prog ε σ β} {x : Prog ε σ α} {b : β} {y : Except ε α} {a : α}

theorem fromExcept_eq_ok : (fromExcept y : Prog ε σ α) s = .ok a s' ↔ y = .ok a ∧ s = s' := by
  cases y with
  | ok b =>
    constructor
    · intro h
      cases h
      exact ⟨rfl, rfl⟩
    · rintro ⟨h, rfl⟩
      cases h
      rfl
  | error e =>
    constructor
    · intro h
      cases h
    · rintro ⟨h, -⟩
      cases h

theorem bind_of_ok (h : x s = .ok a s') : (x >>= f) s = f a s' := by
  rw [bind_run, h]

theorem bind_of_error (h : x s = .error e s') : (x >>= f) s = .error e s' := by
  rw [bind_run, h]

theorem get_bind_run (g : σ → Prog ε σ β) (s : σ) : ((get : Prog ε σ σ) >>= g) s = g s s := rfl

variable {s'' : σ}

/-- A sequence returned exactly when both of its parts did. -/
theorem bind_eq_ok : (x >>= f) s = .ok b s'' ↔ ∃ a s', x s = .ok a s' ∧ f a s' = .ok b s'' := by
  rw [bind_run]
  cases hx : x s with
  | ok a s' =>
    constructor
    · intro h
      exact ⟨a, s', rfl, h⟩
    · rintro ⟨a', s₁, h, hf⟩
      cases h
      exact hf
  | error e s' =>
    constructor
    · intro h
      cases h
    · rintro ⟨a', s₁, h, -⟩
      cases h

/-- And it raised what one of them did. -/
theorem bind_eq_error :
    (x >>= f) s = .error e s'' ↔
      x s = .error e s'' ∨ ∃ a s', x s = .ok a s' ∧ f a s' = .error e s'' := by
  rw [bind_run]
  cases x s with
  | ok | error => simp

theorem fromExcept_bind_eq_ok :
    (fromExcept y >>= f) s = .ok b s'' ↔ ∃ a, y = .ok a ∧ f a s = .ok b s'' := by
  cases y with
  | ok a | error e => simp [bind_run]

variable {x : Except ε α}

/-- The same for computations without a state. -/
theorem except_bind_eq_ok {f : α → Except ε β} :
    (x >>= f) = .ok b ↔ ∃ a, x = .ok a ∧ f a = .ok b := by
  cases x with
  | ok a =>
    constructor
    · intro h
      exact ⟨a, rfl, h⟩
    · rintro ⟨a', ⟨⟩, h⟩
      exact h
  | error e =>
    constructor
    · intro h
      cases h
    · rintro ⟨a', ⟨⟩, -⟩

theorem except_bind_eq_error {f : α → Except ε β} :
    (x >>= f) = .error e ↔ x = .error e ∨ ∃ a, x = .ok a ∧ f a = .error e := by
  cases x with
  | error e' | ok a => simp [bind, Except.bind]

theorem except_map_eq_ok {f : α → β} : f <$> x = .ok b ↔ ∃ a, x = .ok a ∧ f a = b := by
  cases x with
  | error e | ok a => simp [Functor.map, Except.map]

/-! ## Step relations -/

/-- Every run of `x`, finished or interrupted by an exception, moves the state along `R`. -/
def Steps (R : σ → σ → Prop) (x : Prog ε σ α) : Prop :=
  ∀ s, R s (final (x s))

/-- The relations that describe runs: nothing done is allowed, and two runs compose. -/
structure StepOrder (R : σ → σ → Prop) : Prop where
  refl : ∀ s, R s s
  trans : ∀ {s s' s''}, R s s' → R s' s'' → R s s''

/-- What is never written is one such relation: a view of the state that stays the same. -/
theorem StepOrder.unchanged {γ : Type} (view : σ → γ) :
    StepOrder (fun s s' => view s' = view s) where
  refl _ := rfl
  trans h h' := h'.trans h

/-- What once holds keeps holding: an invariant of the state. -/
theorem StepOrder.invariant (P : σ → Prop) : StepOrder (fun s s' => P s → P s') where
  refl _ h := h
  trans h h' hp := h' (h hp)

section Rules

variable {R : σ → σ → Prop} (hR : StepOrder R)
include hR

theorem StepOrder.pure (a : α) : Steps R (Pure.pure a : Prog ε σ α) := fun s => hR.refl s

theorem StepOrder.throw (e : ε) : Steps R (MonadExcept.throw e : Prog ε σ α) := fun s => hR.refl s

theorem StepOrder.fromExcept (y : Except ε α) : Steps R (Prog.fromExcept y : Prog ε σ α) := by
  intro s
  cases y with
  | ok | error => exact hR.refl s

variable {x : Prog ε σ α}

theorem StepOrder.bind (hx : Steps R x) (hf : ∀ a, Steps R (f a)) : Steps R (x >>= f) := by
  intro s
  have hs := hx s
  rw [bind_run]
  cases h : x s with rw [h] at hs
  | ok a s' =>
    exact hR.trans hs (hf a s')
  | error e s' =>
    exact hs

/-- What follows a computation without a state needs to be known for its result only. -/
theorem StepOrder.fromExcept_bind
    (hf : ∀ a, y = .ok a → Steps R (f a)) : Steps R (Prog.fromExcept y >>= f) := by
  intro s
  cases y with
  | ok a => exact hf a rfl s
  | error e => exact hR.refl s

omit hR in
theorem Steps.ok {s : σ} (h : Steps R x) (hrun : x s = .ok a s') : R s s' := by
  have hs := h s
  rwa [hrun] at hs

omit hR in
/-- A finer relation may be used for a part. -/
theorem Steps.mono {R' : σ → σ → Prop} (h : ∀ s s', R' s s' → R s s') (hx : Steps R' x) :
    Steps R x := fun s => h s _ (hx s)

/-- A loop over a list: one step per element. -/
theorem StepOrder.forM {γ : Type} {f : γ → Prog ε σ PUnit} {l : List γ}
    (hf : ∀ c ∈ l, Steps R (f c)) : Steps R (l.forM f) := by
  induction l with
  | nil => exact hR.pure _
  | cons c l ih =>
    refine hR.bind (hf c List.mem_cons_self) fun _ => ih fun d hd => ?_
    exact hf d (List.mem_cons_of_mem c hd)

omit hR in
theorem Steps.get_bind {f : σ → Prog ε σ β} (hf : ∀ s, Steps R (f s)) :
    Steps R ((get : Prog ε σ σ) >>= f) := fun s => hf s s

omit hR in
theorem Steps.modify {f : σ → σ} (h : ∀ s, R s (f s)) : Steps R (modify f : Prog ε σ PUnit) := h

omit hR in
theorem Steps.ite {c : Prop} [Decidable c] {y : Prog ε σ α} (hx : Steps R x) (hy : Steps R y) :
    Steps R (if c then x else y) := by
  split
  · exact hx
  · exact hy

end Rules

/-! ## Programs that compute a value

A program may write to its state and still answer what a function of its surroundings
would: what it writes is only what it may write anyway. -/

/-- The answer of a pure computation, given in the state `s`. -/
def answer (y : Except ε α) (s : σ) : EStateM.Result ε σ α :=
  match y with
  | .ok a => .ok a s
  | .error e => .error e s

/-- Wherever `J` holds, `x` answers as `y` does, and `J` still holds. -/
def Computes (J : σ → Prop) (x : Prog ε σ α) (y : Except ε α) : Prop :=
  ∀ s, J s → ∃ s', J s' ∧ x s = answer y s'

section Computing

variable {J : σ → Prop}

theorem Computes.pure (a : α) : Computes J (Pure.pure a : Prog ε σ α) (.ok a) :=
  fun s hs => ⟨s, hs, rfl⟩

theorem Computes.fromExcept (y : Except ε α) : Computes J (Prog.fromExcept y : Prog ε σ α) y := by
  intro s hs
  refine ⟨s, hs, ?_⟩
  cases y with
  | ok | error => rfl

variable {x : Prog ε σ α} {y : Except ε α} {s : σ}

/-- Sequences of programs compute sequences of answers. -/
theorem Computes.bind {g : α → Except ε β} (hx : Computes J x y)
    (hf : ∀ a, Computes J (f a) (g a)) :
    Computes J (x >>= f) (y >>= g) := by
  intro s hs
  obtain ⟨s₁, hs₁, hrun⟩ := hx s hs
  cases y with
  | error e => exact ⟨s₁, hs₁, bind_of_error hrun⟩
  | ok a =>
    obtain ⟨s₂, hs₂, hrun'⟩ := hf a s₁ hs₁
    exact ⟨s₂, hs₂, (bind_of_ok hrun).trans hrun'⟩

/-- What the program returned is what was to be computed. -/
theorem Computes.eq_ok (h : Computes J x y) (hs : J s) (hrun : x s = .ok a s') : y = .ok a := by
  obtain ⟨s₁, -, hx⟩ := h s hs
  rw [hx] at hrun
  cases y with
  | error e => cases hrun
  | ok b =>
    cases hrun
    rfl

/-- A program computes one value. -/
theorem Computes.unique {J' : σ → Prop} {y' : Except ε α} (h : Computes J x y)
    (h' : Computes J' x y') (hs : J s) (hs' : J' s) : y = y' := by
  obtain ⟨s₁, -, hrun⟩ := h s hs
  obtain ⟨s₂, -, hrun'⟩ := h' s hs'
  rw [hrun] at hrun'
  cases y <;> cases y' <;> cases hrun' <;> rfl

/-- What was to be computed is returned. -/
theorem Computes.returns (h : Computes J x (.ok a)) (hs : J s) : ∃ s', x s = .ok a s' := by
  obtain ⟨s', -, hx⟩ := h s hs
  exact ⟨s', hx⟩

end Computing

/-! ## Bounded loops -/

/-- Run `body` until it answers `false`. The bound is there for the definition to be
structural; running into it raises `stuck`. -/
def iterate (stuck : ε) (body : Prog ε σ Bool) : Nat → Prog ε σ PUnit
  | 0 => throw stuck
  | n + 1 => do
    if ← body then iterate stuck body n

section Loop

variable {stuck : ε} {body : Prog ε σ Bool} {n : Nat} {s s' : σ}

theorem iterate_succ_true (h : body s = .ok true s') :
    iterate stuck body (n + 1) s = iterate stuck body n s' := by
  rw [iterate, bind_of_ok h]
  rfl

theorem iterate_succ_false (h : body s = .ok false s') :
    iterate stuck body (n + 1) s = .ok ⟨⟩ s' := by
  rw [iterate, bind_of_ok h]
  rfl

theorem iterate_succ_error (h : body s = .error e s') :
    iterate stuck body (n + 1) s = .error e s' := by
  rw [iterate, bind_of_error h]

theorem StepOrder.iterate {R : σ → σ → Prop} (hR : StepOrder R) (hbody : Steps R body) (n : Nat) :
    Steps R (Prog.iterate stuck body n) := by
  induction n with
  | zero => exact hR.throw _
  | succ n ih =>
    refine hR.bind hbody fun b => ?_
    cases b
    · exact hR.pure _
    · exact ih

/-- If every round that asks for another one lowers `μ`, all bounds above `μ` give the same
run: none of them is used up. -/
theorem iterate_enough (μ : σ → Nat) (hμ : ∀ s s', body s = .ok true s' → μ s' < μ s) {m : Nat}
    (hn : μ s < n) (hm : μ s < m) :
    iterate stuck body n s = iterate stuck body m s := by
  induction n generalizing m s with
  | zero => omega
  | succ n ih =>
    obtain ⟨k, rfl⟩ : ∃ k, m = k + 1 := ⟨m - 1, by omega⟩
    cases hb : body s with
    | error e s' => rw [iterate_succ_error hb, iterate_succ_error hb]
    | ok b s' =>
      cases b
      · rw [iterate_succ_false hb, iterate_succ_false hb]
      · rw [iterate_succ_true hb, iterate_succ_true hb]
        have hlt := hμ s s' hb
        exact ih (by omega) (by omega)

/-- Bodies that agree where an invariant of the rounds holds make the same loop there. -/
theorem iterate_congr {body' : Prog ε σ Bool} (J : σ → Prop) (hagree : ∀ s, J s → body s = body' s)
    (hJ : ∀ s s', J s → body' s = .ok true s' → J s') (hs : J s) :
    iterate stuck body n s = iterate stuck body' n s := by
  induction n generalizing s with
  | zero => rfl
  | succ n ih =>
    have hbody := hagree s hs
    cases hb : body' s with rw [hb] at hbody
    | error e s' =>
      rw [iterate_succ_error hb, iterate_succ_error hbody]
    | ok b s' =>
      cases b
      · rw [iterate_succ_false hb, iterate_succ_false hbody]
      · rw [iterate_succ_true hb, iterate_succ_true hbody]
        exact ih (hJ s s' hs hb)

end Loop

end Prog
