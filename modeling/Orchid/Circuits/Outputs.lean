import Orchid.Circuits.Windows

/-!
# Orchid — what is left to send on a stream

A stream is closed for good, and the cell that its output stream holds is sent or dropped; only a write
gives it another.

* **`step_quieter`**: so every other step leaves a closed stream closed, and one with nothing to send
  with nothing to send.
* **`flushPending_step`**: a stream that is flushed has something to send, as nobody else touches it
  meanwhile.
-/

namespace Orchid

open RelayCell CreditWindow Locks Function

/-! ## Streams get quieter -/

/-- What nothing undoes but a write: a stream is closed, and has nothing to send. -/
structure StreamImpl.Quieter (stream stream' : StreamImpl) : Prop where
  closed : stream.isClosed = true → stream'.isClosed = true
  pending : stream.outputStream.pending = none → stream'.outputStream.pending = none

theorem StreamImpl.Quieter.refl (stream : StreamImpl) : stream.Quieter stream := ⟨id, id⟩

theorem StreamImpl.flushed_pending (stream : StreamImpl) (circuitId : Nat) :
    (stream.flushed circuitId).outputStream.pending = none := rfl

namespace Threads

variable {s s' : Threads} {st : StreamId} {stream : StreamImpl}

theorem quieter_update (hquieter : (s.streams st).Quieter stream) (st' : StreamId) :
    (s.streams st').Quieter (update s.streams st stream st') := by
  by_cases hst : st' = st
  · subst hst
    rw [update_self]
    exact hquieter
  · rw [update_of_ne hst]
    exact .refl _

theorem Advances.quieter {i : Nat} (hadvances : s.Advances i s') (st : StreamId) :
    (s.streams st).Quieter (s'.streams st) := by
  cases hadvances with
  | takeStream =>
    refine quieter_update ?_ st
    exact ⟨id, id⟩
  | passNode | lock | takeHop => exact .refl _
  | @send st' =>
    have hflushed : (s.streams st').Quieter ((s.streams st').flushed st'.1) :=
      ⟨id, fun _ => StreamImpl.flushed_pending _ _⟩
    by_cases husable : s.usable st'.1 = true
    · rw [if_pos husable]
      exact quieter_update hflushed st
    · rw [if_neg husable]
      exact quieter_update hflushed st

theorem addInputCell_quieter (s : Threads) (c : Nat) (cell : RelayCell) (st : StreamId) :
    (s.streams st).Quieter ((s.addInputCell c cell).streams st) := by
  unfold addInputCell
  dsimp only
  split
  · exact .refl _
  · rename_i stream happly
    have hnoted := StreamImpl.applyCell_noted happly
    refine quieter_update ⟨fun h => hnoted.isClosed.trans h, fun h => ?_⟩ st
    rw [hnoted.outputStream]
    exact h

theorem closeOutput_quieter (s : Threads) (c n : Nat) (todo : List Nat) (st : StreamId) :
    (s.streams st).Quieter ((s.closeOutput c n todo).streams st) := by
  unfold closeOutput
  split
  · exact .refl _
  · split
    · exact .refl _
    · refine quieter_update ?_ st
      exact ⟨id, fun _ => rfl⟩

theorem Reads.quieter (hreads : s.Reads s') (st : StreamId) :
    (s.streams st).Quieter (s'.streams st) := by
  cases hreads with
  | ignored | toStream | data | sendme | destroy | noStream | consider | destroyed | skipStream
  | leave => exact .refl _
  | acknowledge =>
    have hstreams : ∀ h, (s.acknowledge h).streams = s.streams := by
      intro h
      unfold Threads.acknowledge
      split <;> rfl
    rw [hstreams]
    exact .refl _
  | addInput => exact addInputCell_quieter s _ _ st
  | acknowledgeStream =>
    refine quieter_update ?_ st
    exact ⟨id, id⟩
  | closeStream =>
    refine quieter_update ?_ st
    exact ⟨fun _ => rfl, id⟩
  | closeOutput => exact closeOutput_quieter s _ _ _ st
  | flush _ hadvances => exact hadvances.quieter st
  | flushed =>
    refine quieter_update ?_ st
    exact ⟨id, fun _ => rfl⟩

theorem step_quieter {e : Event} (hstep : s.step e = some s') (hwrite : ∀ cell, e ≠ .write st cell)
    : (s.streams st).Quieter (s'.streams st) := by
  cases e with
  | write st' cell =>
    obtain ⟨-, hstep⟩ := Option.ite_none_right_eq_some.mp hstep
    cases hstep
    have hst : st ≠ st' := by
      intro h
      subst h
      exact hwrite cell rfl
    show (s.streams st).Quieter (update s.streams st' _ st)
    rw [update_of_ne hst]
    exact .refl _
  | flush i st' | removeStream st' =>
    obtain ⟨-, hstep⟩ := Option.ite_none_right_eq_some.mp hstep
    cases hstep
    exact .refl _
  | thread i =>
    exact (step_thread.mp hstep).2.quieter st
  | interrupt i =>
    obtain ⟨-, f, -, rfl⟩ := step_interrupt hstep
    exact .refl _
  | read st' size off len =>
    cases hstep
    refine quieter_update ?_ st
    exact ⟨id, id⟩
  | arrives arriving | circuitEnds c =>
    cases hstep
    exact .refl _
  | reader => exact (reads_of_step hstep).quieter st
  | closeStream st' =>
    cases hstep
    refine quieter_update ?_ st
    exact ⟨fun _ => rfl, id⟩
  | closeOutput st' =>
    obtain ⟨-, hstep⟩ := Option.ite_none_right_eq_some.mp hstep
    cases hstep
    refine quieter_update ?_ st
    exact ⟨id, fun _ => rfl⟩

/-! ## A stream that is flushed has something to send -/

def FlushPending (s : Threads) : Prop :=
  ∀ (i : Nat) (f : Flush) (st : StreamId), s.flushes[i]? = some f → f.stream? = some st →
    (s.pending st).isSome = true

/-- One thread moves. If it starts to flush it needs something to send, and nothing is taken from a
stream that is flushed. -/
theorem FlushPending.set {i : Nat} {f : Flush} (hs : s.FlushPending)
    (hflushes : s'.flushes = s.flushes.set i f)
    (hnew : ∀ st, f.stream? = some st → (s'.pending st).isSome = true)
    (hpending : ∀ st, s'.pending st = s.pending st ∨ Free Flush.stream? s'.flushes st) :
    s'.FlushPending := by
  intro j g st hj hst
  have hmoved : (s.flushes.set i f)[j]? = some g := hflushes ▸ hj
  rcases Lists.getElem?_set_cases hmoved with ⟨-, rfl⟩ | ⟨-, hold⟩
  · exact hnew st hst
  · rcases hpending st with hsame | hfree
    · rw [hsame]
      exact hs j g st hold hst
    · exact absurd hst (hfree g (List.mem_of_getElem? hj))

/-- No thread moves. -/
theorem FlushPending.of_same (hs : s.FlushPending) (hflushes : s'.flushes = s.flushes)
    (hpending : ∀ st, s'.pending st = s.pending st ∨ Free Flush.stream? s.flushes st) :
    s'.FlushPending := by
  intro i f st hi hst
  rw [hflushes] at hi
  rcases hpending st with hsame | hfree
  · rw [hsame]
    exact hs i f st hi hst
  · exact absurd hst (hfree f (List.mem_of_getElem? hi))

/-- A stream that nobody flushes is changed. -/
theorem pending_setStream_free (hfree : Free Flush.stream? s.flushes st) (st' : StreamId) :
    (s.setStream st stream).pending st' = s.pending st' ∨ Free Flush.stream? s.flushes st' := by
  by_cases hst : st' = st
  · subst hst
    exact Or.inr hfree
  · refine Or.inl ?_
    show (update s.streams st stream st').outputStream.pending = s.pending st'
    rw [update_of_ne hst]
    rfl

/-- A stream is changed, but for its output. -/
theorem pending_setStream_same (houtput : stream.outputStream = (s.streams st).outputStream)
    (st' : StreamId) :
    (s.setStream st stream).pending st' = s.pending st' := by
  show (update s.streams st stream st').outputStream.pending = s.pending st'
  by_cases hst : st' = st
  · subst hst
    rw [update_self, houtput]
    rfl
  · rw [update_of_ne hst]
    rfl

theorem Advances.flushPending {i : Nat} (hs : s.FlushPending)
    (hexclusive : Exclusive Flush.stream? s.flushes) (hadvances : s.Advances i s') :
    s'.FlushPending := by
  -- a thread that goes on flushes the same stream
  have hgoes : ∀ {f f' : Flush} {st : StreamId} {s' : Threads}, s.flushes[i]? = some f →
      f.stream? = some st → f'.stream? = some st → s'.flushes = s.flushes.set i f' →
      (∀ st, s'.pending st = s.pending st) → s'.FlushPending := by
    intro f f' st s' hi hf hf' hflushes hpending
    refine hs.set hflushes (fun st' hst' => ?_) fun st' => Or.inl (hpending st')
    cases hf'.symm.trans hst'
    rw [hpending]
    exact hs i f st hi hf
  cases hadvances with
  | takeStream hi => exact hgoes hi rfl rfl rfl (pending_setStream_same rfl)
  | passNode hi | lock hi | takeHop hi => exact hgoes hi rfl rfl rfl fun _ => rfl
  | @send st hi =>
    have hfree : Free Flush.stream? (s.flushes.set i .idle) st :=
      hexclusive.free_of_release hi rfl nofun
    have hdone : ∀ s₁ : Threads, s₁.streams = s.streams → s₁.flushes = s.flushes →
        ((s₁.setStream st ((s.streams st).flushed st.1)).setFlush i .idle).FlushPending := by
      intro s₁ hstreams hflushes
      refine hs.set (congrArg (·.set i .idle) hflushes) nofun fun st' => ?_
      show (update s₁.streams st _ st').outputStream.pending = _ ∨
        Free Flush.stream? (s₁.flushes.set i .idle) st'
      rw [hflushes, hstreams]
      rcases eq_or_ne st' st with rfl | hst
      · exact Or.inr hfree
      · rw [update_of_ne hst]
        exact Or.inl rfl
    by_cases husable : s.usable st.1 = true
    · rw [if_pos husable]
      exact hdone _ rfl rfl
    · rw [if_neg husable]
      exact hdone _ rfl rfl

theorem closeOutput_flushPending {c n : Nat} (todo : List Nat) (hs : s.FlushPending)
    (hfree : s.outputBusy (c, n) = false) : (s.closeOutput c n todo).FlushPending := by
  have hnobody : Free Flush.stream? s.flushes (c, n) := free_of_not_busy hfree
  unfold closeOutput
  split
  · exact hs.of_same rfl fun _ => Or.inl rfl
  · split
    · rename_i hpending
      refine hs.set rfl (fun st hst => ?_) fun _ => Or.inl rfl
      cases hst
      exact hpending
    · exact hs.of_same rfl (pending_setStream_free hnobody)

/-- While the reading thread does not flush. -/
theorem Reads.flushPending (hs : s.FlushPending)
    (hreader : ∀ c n todo, s.reader ≠ .closingFlush c n todo) (hreads : s.Reads s') :
    s'.FlushPending := by
  cases hreads with
  | ignored | toStream | data | sendme | destroy | noStream | consider | destroyed | skipStream
  | leave => exact hs.of_same rfl fun _ => Or.inl rfl
  | @acknowledge c cell =>
    have hkept : (s.acknowledge (c, cell.circuitNode)).FlushPending := by
      unfold Threads.acknowledge
      split <;> exact hs.of_same rfl fun _ => Or.inl rfl
    exact hkept.of_same rfl fun _ => Or.inl rfl
  | @addInput c cell =>
    unfold Threads.addInputCell
    dsimp only
    split
    · exact hs.of_same rfl fun _ => Or.inl rfl
    · rename_i happly
      exact hs.of_same rfl fun st =>
        Or.inl (pending_setStream_same (StreamImpl.applyCell_noted happly).outputStream st)
  | acknowledgeStream | closeStream =>
    exact hs.of_same rfl fun st => Or.inl (pending_setStream_same (by exact rfl) st)
  | closeOutput _ hfree => exact closeOutput_flushPending _ hs hfree
  | flush hflush => exact absurd hflush (hreader _ _ _)
  | flushed hflush => exact absurd hflush (hreader _ _ _)

theorem flushPending_step {e : Event} (hs : s.FlushPending)
    (hexclusive : Exclusive Flush.stream? s.flushes)
    (hreader : ∀ c n todo, s.reader ≠ .closingFlush c n todo) (hstep : s.step e = some s') :
    s'.FlushPending := by
  cases e with
  | write st cell | closeOutput st =>
    obtain ⟨⟨-, hfree⟩, hstep⟩ := Option.ite_none_right_eq_some.mp hstep
    cases hstep
    exact hs.of_same rfl (pending_setStream_free (free_of_not_busy (by simpa using hfree)))
  | flush i st =>
    obtain ⟨⟨-, -, -, -, hpending⟩, hstep⟩ := Option.ite_none_right_eq_some.mp hstep
    cases hstep
    refine hs.set rfl (fun st' hst' => ?_) fun _ => Or.inl rfl
    cases hst'
    exact hpending
  | thread i =>
    exact (step_thread.mp hstep).2.flushPending hs hexclusive
  | interrupt i =>
    obtain ⟨-, f, -, rfl⟩ := step_interrupt hstep
    exact hs.set rfl nofun fun _ => Or.inl rfl
  | read st size off len | closeStream st =>
    cases hstep
    exact hs.of_same rfl fun st' => Or.inl (pending_setStream_same (by exact rfl) st')
  | arrives arriving | circuitEnds c =>
    cases hstep
    exact hs.of_same rfl fun _ => Or.inl rfl
  | reader => exact (reads_of_step hstep).flushPending hs hreader
  | removeStream st =>
    obtain ⟨-, hstep⟩ := Option.ite_none_right_eq_some.mp hstep
    cases hstep
    exact hs.of_same rfl fun _ => Or.inl rfl

end Threads

end Orchid
