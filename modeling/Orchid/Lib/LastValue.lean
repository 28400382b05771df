import Mathlib

/-!
# The last value assigned

A run of assignments leaves a field with the value assigned last, or with what it had. `pick`
says which events assign to the field.

* **`foldl_lastSome`**: the field after a fold, given what one event does to it.
-/

namespace LastValue

variable {σ ε β : Type}

/-- The value the last event that has one assigns. -/
def lastSome (pick : ε → Option β) (events : List ε) : Option β := events.reverse.findSome? pick

theorem lastSome_cons (pick : ε → Option β) (e : ε) (events : List ε) :
    lastSome pick (e :: events) = (lastSome pick events).or (pick e) := by
  unfold lastSome
  rw [List.reverse_cons, List.findSome?_append]
  cases events.reverse.findSome? pick with
  | some b => rfl
  | none => cases hp : pick e <;> simp [hp]

/-- If each event assigns what `pick` says or leaves the field, a run leaves the last value
assigned or what was there. -/
theorem foldl_lastSome {get : σ → Option β} {step : σ → ε → σ} {pick : ε → Option β}
    (hstep : ∀ s e, get (step s e) = (pick e).or (get s)) (events : List ε) (s : σ) :
    get (events.foldl step s) = (lastSome pick events).or (get s) := by
  induction events generalizing s with
  | nil => rfl
  | cons e events ih => rw [List.foldl_cons, ih, hstep, lastSome_cons, Option.or_assoc]

/-- If each event appends, a run appends everything. -/
theorem foldl_append {get : σ → List β} {step : σ → ε → σ} {pick : ε → List β}
    (hstep : ∀ s e, get (step s e) = get s ++ pick e) (events : List ε) (s : σ) :
    get (events.foldl step s) = get s ++ events.flatMap pick := by
  induction events generalizing s with
  | nil => rw [List.foldl_nil, List.flatMap_nil, List.append_nil]
  | cons e events ih => rw [List.foldl_cons, ih, hstep, List.flatMap_cons, List.append_assoc]

end LastValue
