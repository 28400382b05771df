import Orchid.Lib.Prog

/-!
# Programs that read a queue from the front

A parser holds the records of its input that it has not read yet. Two inputs that share a
front part are treated alike for as long as the program stays inside that part. To say so
once, for every program, the unread records are a view of the state (`QueueView`) and:

* `Silent x`: `x` never looks at the queue, it commutes with replacing it;
* `Reads x s q a s'`: from `s`, `x` takes exactly `q` off the front, **whatever follows**;
* `Front x`: every returning run of `x` is a `Reads` run;
* `drain`: the loop that takes a record and runs a step on it until the queue is empty.
  **`drain_append`**: a loop that got through `q` goes on with what follows `q` from the
  state it had reached.
-/

namespace Prog

variable {ε σ α β τ : Type}

/-- The unread records, as a view of the state. -/
structure QueueView (σ τ : Type) where
  get : σ → List τ
  set : List τ → σ → σ
  get_set : ∀ b s, get (set b s) = b
  set_set : ∀ b c s, set b (set c s) = set b s
  set_get : ∀ s, set (get s) s = s

/-- Replace the state of a result. -/
def mapState {σ' : Type} (f : σ → σ') : EStateM.Result ε σ α → EStateM.Result ε σ' α
  | .ok a s => .ok a (f s)
  | .error e s => .error e (f s)

variable (V : QueueView σ τ)

/-- `x` does not depend on the unread records and leaves them alone. -/
def Silent (x : Prog ε σ α) : Prop :=
  ∀ b s, x (V.set b s) = mapState (V.set b) (x s)

/-- From `s`, `x` takes `q` off the front of the queue and returns `a` in `s'`,
independently of what stands behind `q`. -/
def Reads (x : Prog ε σ α) (s : σ) (q : List τ) (a : α) (s' : σ) : Prop :=
  ∀ r, x (V.set (q ++ r) s) = .ok a (V.set r s')

/-- Every returning run took some `q` off the front and would have done so whatever
stood behind `q`. -/
def Front (x : Prog ε σ α) : Prop :=
  ∀ s a s', x s = .ok a s' → ∃ q, V.get s = q ++ V.get s' ∧ Reads V x s q a s'

variable {V} {x : Prog ε σ α} {a : α} {s s' : σ}

/-- A silent program keeps the queue it was started with. -/
theorem Silent.get_final (hx : Silent V x) (s : σ) : V.get (final (x s)) = V.get s := by
  have h := hx (V.get s) s
  rw [V.set_get] at h
  rw [h]
  cases x s <;> simp [mapState, V.get_set]

theorem Silent.reads (hx : Silent V x) (h : x s = .ok a s') : Reads V x s [] a s' := by
  intro r
  rw [List.nil_append, hx r s, h]
  rfl

variable {f : α → Prog ε σ β}

theorem Reads.bind {s'' : σ} {b : β} {q p : List τ} (hx : Reads V x s q a s')
    (hf : Reads V (f a) s' p b s'') :
    Reads V (x >>= f) s (q ++ p) b s'' := by
  intro r
  rw [List.append_assoc, bind_of_ok (hx (p ++ r))]
  exact hf r

/-! ## The rules for `Front` -/

theorem Silent.front (hx : Silent V x) : Front V x := by
  intro s a s' h
  have hget := hx.get_final s
  rw [h, final_ok] at hget
  exact ⟨[], by rw [hget]; rfl, hx.reads h⟩

theorem Front.pure (a : α) : Front V (Pure.pure a : Prog ε σ α) :=
  Silent.front fun _ _ => rfl

theorem Front.throw (e : ε) : Front V (MonadExcept.throw e : Prog ε σ α) :=
  Silent.front fun _ _ => rfl

theorem Front.fromExcept (x : Except ε α) : Front V (Prog.fromExcept x : Prog ε σ α) := by
  cases x with
  | ok a => exact Front.pure a
  | error e => exact Front.throw e

theorem Front.bind (hx : Front V x) (hf : ∀ a, Front V (f a)) : Front V (x >>= f) := by
  intro s b s'' h
  obtain ⟨a, s', hxs, hfs⟩ := bind_eq_ok.mp h
  obtain ⟨q, hq, hqr⟩ := hx s a s' hxs
  obtain ⟨p, hp, hpr⟩ := hf a s' b s'' hfs
  exact ⟨q ++ p, by rw [hq, hp, List.append_assoc], hqr.bind hpr⟩

theorem Front.map (hx : Front V x) (f : α → β) : Front V (f <$> x) :=
  hx.bind fun a => Front.pure (f a)

theorem Front.ite {c : Prop} [Decidable c] {y : Prog ε σ α} (hx : Front V x) (hy : Front V y) :
    Front V (if c then x else y) := by
  split
  · exact hx
  · exact hy

theorem Front.iterate {stuck : ε} {body : Prog ε σ Bool} (h : Front V body) (n : Nat) :
    Front V (Prog.iterate stuck body n) := by
  induction n with
  | zero => exact Front.throw _
  | succ n ih =>
    refine h.bind fun b => ?_
    cases b
    · exact Front.pure _
    · exact ih

/-- The queue only shrinks. -/
theorem Front.length_le (hx : Front V x) (h : x s = .ok a s') :
    (V.get s').length ≤ (V.get s).length := by
  obtain ⟨q, hq, -⟩ := hx s a s' h
  rw [hq, List.length_append]
  omega

/-! ## Draining the queue -/

section Drain

variable (V) (stuck : ε) (step : τ → Prog ε σ PUnit) (done : Prog ε σ PUnit)

/-- One round: take a record and run the step, or finish. -/
def drainRound : Prog ε σ Bool := fun s =>
  match V.get s with
  | [] => (do done; return false : Prog ε σ Bool) s
  | t :: rest => (do step t; return true : Prog ε σ Bool) (V.set rest s)

/-- Take records off the queue until it is empty, then finish with `done`. -/
def drain : Prog ε σ PUnit := fun s =>
  iterate stuck (drainRound V step done) ((V.get s).length + 1) s

variable {V stuck step done} {s : σ}

theorem drainRound_cons {t : τ} {rest : List τ} (h : V.get s = t :: rest) :
    drainRound V step done s = (do step t; return true : Prog ε σ Bool) (V.set rest s) := by
  simp only [drainRound, h]

theorem drain_nil (h : V.get s = []) : drain V stuck step done s = done s := by
  unfold drain
  rw [h, List.length_nil]
  have hround : drainRound V step done s = (do done; return false : Prog ε σ Bool) s := by
    simp only [drainRound, h]
  cases hd : done s with
  | ok u s' => rw [iterate_succ_false (hround.trans (bind_of_ok hd))]
  | error e s' => rw [iterate_succ_error (hround.trans (bind_of_error hd))]

/-- A round that asks for another one has made the queue shorter. -/
theorem drainRound_length (hstep : ∀ t, Front V (step t))
    (h : drainRound V step done s = .ok true s') : (V.get s').length < (V.get s).length := by
  cases hq : V.get s with
  | nil =>
    simp only [drainRound, hq] at h
    obtain ⟨u, s₁, -, hfalse⟩ := bind_eq_ok.mp h
    cases hfalse
  | cons t rest =>
    rw [drainRound_cons hq] at h
    obtain ⟨u, s₁, hs₁, hpure⟩ := bind_eq_ok.mp h
    cases hpure
    have hle := (hstep t).length_le hs₁
    rw [V.get_set] at hle
    simp only [List.length_cons]
    omega

theorem drain_cons (hstep : ∀ t, Front V (step t)) {t : τ} {rest : List τ} (h : V.get s = t :: rest)
    :
    drain V stuck step done s = (step t >>= fun _ => drain V stuck step done) (V.set rest s) := by
  have hround : drainRound V step done s = _ := drainRound_cons h
  cases hs : step t (V.set rest s) with
  | error e s' =>
    rw [bind_of_error hs]
    exact iterate_succ_error (hround.trans (bind_of_error hs))
  | ok u s' =>
    have htrue : drainRound V step done s = .ok true s' := hround.trans (bind_of_ok hs)
    rw [bind_of_ok hs]
    unfold drain
    rw [iterate_succ_true htrue]
    have hlt := drainRound_length hstep htrue
    exact iterate_enough (fun s => (V.get s).length)
      (fun _ _ => drainRound_length hstep) hlt (Nat.lt_succ_self _)

/-- What follows the records already taken is taken from the state reached. -/
theorem drain_append (hstep : ∀ t, Front V (step t)) {q : List τ} (hq : V.get s = q)
    (h : drain V stuck step (Pure.pure ⟨⟩) s = .ok ⟨⟩ s') (r : List τ) :
    drain V stuck step done (V.set (q ++ r) s) = drain V stuck step done (V.set r s') := by
  induction hn : q.length using Nat.strongRecOn generalizing q s with
  | ind n ih =>
    cases q with
    | nil =>
      rw [drain_nil hq] at h
      cases h
      rfl
    | cons t rest =>
      rw [drain_cons hstep hq] at h
      obtain ⟨u, s₁, hs₁, hdrain⟩ := bind_eq_ok.mp h
      obtain ⟨p, hp, hreads⟩ := hstep t _ _ _ hs₁
      rw [V.get_set] at hp
      have hlong : V.get (V.set (t :: rest ++ r) s) = t :: (rest ++ r) := V.get_set _ _
      rw [drain_cons hstep hlong, V.set_set]
      -- the step took `p` off `rest`, so it takes `p` off `rest ++ r` as well
      have hrun := hreads (V.get s₁ ++ r)
      rw [V.set_set, ← List.append_assoc, ← hp] at hrun
      rw [bind_of_ok hrun]
      have hlen : (V.get s₁).length < n := by
        rw [← hn, hp, List.length_cons, List.length_append]
        omega
      exact ih _ hlen rfl hdrain rfl

end Drain

end Prog
