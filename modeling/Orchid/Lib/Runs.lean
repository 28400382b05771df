import Mathlib

/-!
# Runs of a system

A system is a step function that takes an event in a state to the next state, or refuses it. A
run is a list of events none of which is refused.

* `Meets G s es`: every event of the run meets the condition `G` in the state it happens in.
* **`invariant`**: what holds at first, and is preserved by every step that meets the condition,
  holds at the end of every run that meets it. As runs are closed under prefixes, this is a
  statement about every state a run passes through.
* **`length_add_le`**: runs are no longer than a measure that every step lowers.
-/

namespace Runs

variable {σ ε : Type}

/-- The state after the events, unless one of them is refused. -/
def run (step : σ → ε → Option σ) : σ → List ε → Option σ
  | s, [] => some s
  | s, e :: es => (step s e).bind fun s' => run step s' es

/-- Every event meets the condition in the state it happens in. -/
def Meets (step : σ → ε → Option σ) (G : σ → ε → Prop) : σ → List ε → Prop
  | _, [] => True
  | s, e :: es => G s e ∧ ∀ s', step s e = some s' → Meets step G s' es

instance decidableMeets {step : σ → ε → Option σ} {G : σ → ε → Prop} [∀ s e, Decidable (G s e)] :
    ∀ (s : σ) (es : List ε), Decidable (Meets step G s es)
  | _, [] => .isTrue trivial
  | s, e :: es =>
    have : ∀ s', Decidable (Meets step G s' es) := fun s' => decidableMeets s' es
    inferInstanceAs (Decidable (G s e ∧ ∀ s' ∈ step s e, Meets step G s' es))

/-- Whether a run comes to a state with a property is decided by running it. -/
instance decidableEnds {o : Option σ} {p : σ → Prop} [DecidablePred p] :
    Decidable (∃ s, o = some s ∧ p s) :=
  decidable_of_iff (o.any fun s => decide (p s)) (by simp [Option.any_eq_true])

variable {step : σ → ε → Option σ} {es es' : List ε} {s s' : σ} {G : σ → ε → Prop}

theorem run_cons {s'' : σ} {e : ε} :
    run step s (e :: es) = some s'' ↔ ∃ s', step s e = some s' ∧ run step s' es = some s'' :=
  Option.bind_eq_some_iff

theorem run_append {s'' : σ} :
    run step s (es ++ es') = some s'' ↔
      ∃ s', run step s es = some s' ∧ run step s' es' = some s'' := by
  induction es generalizing s with
  | nil =>
    constructor
    · intro h
      exact ⟨s, rfl, h⟩
    · rintro ⟨s', h, hrest⟩
      cases h
      exact hrest
  | cons e es ih =>
    rw [List.cons_append, run_cons]
    constructor
    · rintro ⟨s₁, hstep, hrest⟩
      obtain ⟨s', hrun, hrun'⟩ := ih.mp hrest
      exact ⟨s', run_cons.mpr ⟨s₁, hstep, hrun⟩, hrun'⟩
    · rintro ⟨s', hrun, hrun'⟩
      obtain ⟨s₁, hstep, hrest⟩ := run_cons.mp hrun
      exact ⟨s₁, hstep, ih.mpr ⟨s', hrest, hrun'⟩⟩

/-- **Invariants.** -/
theorem invariant {I : σ → Prop} (hstep : ∀ s e s', I s → G s e → step s e = some s' → I s')
    (hs : I s) (hmeets : Meets step G s es) (hrun : run step s es = some s') : I s' := by
  induction es generalizing s with
  | nil =>
    cases hrun
    exact hs
  | cons e es ih =>
    obtain ⟨s₁, hs₁, hrest⟩ := run_cons.mp hrun
    exact ih (hstep s e s₁ hs hmeets.1 hs₁) (hmeets.2 s₁ hs₁) hrest

/-- **Termination.** A measure that every step lowers, from the states that steps lead to, bounds the
length of a run. -/
theorem length_add_le_of_invariant {I : σ → Prop} {μ : σ → Nat}
    (hI : ∀ s e s', I s → step s e = some s' → I s')
    (hstep : ∀ s e s', I s → step s e = some s' → μ s' < μ s) (hs : I s)
    (hrun : run step s es = some s') : es.length + μ s' ≤ μ s := by
  induction es generalizing s with
  | nil =>
    cases hrun
    simp
  | cons e es ih =>
    obtain ⟨s₁, hs₁, hrest⟩ := run_cons.mp hrun
    have hlower := hstep s e s₁ hs hs₁
    have hbound := ih (hI s e s₁ hs hs₁) hrest
    rw [List.length_cons]
    omega

theorem length_add_le {μ : σ → Nat} (hstep : ∀ s e s', step s e = some s' → μ s' < μ s)
    (hrun : run step s es = some s') : es.length + μ s' ≤ μ s :=
  length_add_le_of_invariant (I := fun _ => True) (fun _ _ _ _ _ => trivial)
    (fun s e s' _ => hstep s e s') trivial hrun

/-- A run that meets the condition meets it in its parts. -/
theorem Meets.split (h : Meets step G s (es ++ es')) (hrun : run step s es = some s') :
    Meets step G s es ∧ Meets step G s' es' := by
  induction es generalizing s with
  | nil =>
    cases hrun
    exact ⟨trivial, h⟩
  | cons e es ih =>
    obtain ⟨s₁, hs₁, hrest⟩ := run_cons.mp hrun
    obtain ⟨hfirst, hlast⟩ := ih (h.2 s₁ hs₁) hrest
    refine ⟨⟨h.1, fun s₂ hs₂ => ?_⟩, hlast⟩
    have heq : s₁ = s₂ := Option.some.inj (hs₁.symm.trans hs₂)
    exact heq ▸ hfirst

/-- And one whose parts meet it meets it. -/
theorem Meets.append (h : Meets step G s es)
    (h' : ∀ s', run step s es = some s' → Meets step G s' es') : Meets step G s (es ++ es') := by
  induction es generalizing s with
  | nil => exact h' s rfl
  | cons e es ih =>
    refine ⟨h.1, fun s₁ hs₁ => ih (h.2 s₁ hs₁) fun s' hrun => ?_⟩
    exact h' s' (run_cons.mpr ⟨s₁, hs₁, hrun⟩)

/-- A condition that every event meets is met by every run. -/
theorem meets_of_forall (h : ∀ s e, G s e) (s : σ) (es : List ε) : Meets step G s es := by
  induction es generalizing s with
  | nil => exact trivial
  | cons e es ih => exact ⟨h s e, fun s' _ => ih s'⟩

end Runs
