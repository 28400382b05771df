import Orchid.Circuits.Outputs
import Orchid.Circuits.SoleWriter
import Orchid.Circuits.WindowBounds

/-!
# Orchid — the reading thread and the windows

A window grows only when the reading thread takes note of a SENDME. So if that thread waits for
something that a thread at a window of zero holds, neither goes on. This can happen: the reading thread
needs `relaySendLock` to send a SENDME, and threads that send DATA wait for the node's window with the
lock held. They have seen the window before, without the lock, but others may have used it up since.
The reading thread can also come to wait for a window itself, when it destroys a circuit with unsent
output.

* `unhindered`: a thread takes `relaySendLock` only while the window of its node is not zero, and the
  reading thread does not destroy a circuit that has unsent output.
* **`HoldersSupplied`**, **`Teardown`**: what such steps preserve.
* **`reader_progresses`**: in every run of such steps the reading thread can go on, at the latest after
  steps of the other threads that need no window.
-/

namespace Orchid

open RelayCell CreditWindow Locks Function

/-! ## Threads with the lock find a window -/

namespace Books

/-- A thread that waits for a window with the lock held does not wait. -/
def HoldersSupplied (b : Books) : Prop :=
  ∀ (i : Nat) (st : StreamId), b.flushes[i]? = some (.windowWait st) → b.hopWindow (b.target st) ≠ 0

/-- An `int` that a SENDME takes to zero. -/
theorem javaInt_credit_ne_zero {x window : Int} (hwindow : window = x.bmod (2 ^ 32))
    (hne : window ≠ -100) : javaInt (window + 100) ≠ 0 := by
  intro hzero
  have hlow : -(2 ^ 31) ≤ window := by
    rw [hwindow]
    exact Int.le_bmod (by decide)
  have hhigh : window < 2 ^ 31 := by
    rw [hwindow]
    exact Int.bmod_lt (by decide)
  unfold javaInt at hzero
  rw [Int.bmod_def] at hzero
  split at hzero <;> omega

theorem holdersSupplied_step {b b' : Books} {cause : Cause} (hb : b.HoldersSupplied)
    (hbalanced : b.Balanced) (hexclusive : b.MutuallyExclusive)
    (hcircuit : ∀ st, (b.target st).1 = st.1) (hstep : b.Step cause b')
    (hlock : ∀ i st, cause = .thread i → b.flushes[i]? = some (.lockWait st) →
      b.hopWindow (b.target st) ≠ 0)
    (hsendme : ∀ h, cause = .nodeSendme h → b.hopWindow h ≠ -100) : b'.HoldersSupplied := by
  intro j st' hj
  cases hstep with
  | quiet => exact hb j st' hj
  | flush | takeStream | passNode | send | unsent | interrupted =>
    rcases Lists.getElem?_set_cases hj with ⟨-, hsame⟩ | ⟨-, hother⟩
    · cases hsame
    · exact hb j st' hother
  | lock hi =>
    rcases Lists.getElem?_set_cases hj with ⟨-, hsame⟩ | ⟨-, hother⟩
    · cases hsame
      exact hlock _ st' rfl hi
    · exact hb j st' hother
  | @takeHop i st hi =>
    rcases Lists.getElem?_set_cases hj with ⟨-, hsame⟩ | ⟨hji, hother⟩
    · cases hsame
    · -- only the holder of the lock takes from the windows of a circuit
      have hnode : b.target st' ≠ b.target st := by
        intro heq
        have hsame : st'.1 = st.1 := by
          rw [← hcircuit st', ← hcircuit st, heq]
        exact hji (hexclusive.lock j i _ _ st.1 hother hi (congrArg some hsame) rfl)
      show update b.hopWindow (b.target st) _ (b.target st') ≠ 0
      rw [update_of_ne hnode]
      exact hb j st' hother
  | grantStream => exact hb j st' hj
  | grantHop h =>
    show update b.hopWindow h _ (b.target st') ≠ 0
    by_cases hh : b.target st' = h
    · subst hh
      rw [update_self]
      exact javaInt_credit_ne_zero (hbalanced.hop _).window_eq (hsendme _ rfl)
    · rw [update_of_ne hh]
      exact hb j st' hj

end Books

namespace Threads

/-! ## The condition -/

/-- The stream has been closed, or nothing is left to send on it. -/
def Settled (s : Threads) (st : StreamId) : Prop :=
  (s.streams st).isClosed = true ∨ s.pending st = none

instance (s : Threads) (st : StreamId) : Decidable (s.Settled st) :=
  inferInstanceAs (Decidable (_ ∨ _))

end Threads

/-- The circuit that the reading thread destroys. -/
def Reader.destroying? : Reader → Option Nat
  | .destroying c _ | .closingOutput c _ _ | .closingFlush c _ _ | .leaving c _ _ => some c
  | .idle | .ackWaiting _ _ | .streamWaiting _ _ | .considering _ | .streamAckWaiting _ => none

namespace Threads

/-- No step leads to a wait with something in hand that the reading thread needs: `relaySendLock` is
taken only while the node has a window, a circuit is destroyed only when its output is sent, and is not
written to meanwhile. The window must not become zero by a SENDME either, as an `int` may. -/
def unhindered (s : Threads) : Event → Bool
  | .thread i =>
    match s.flushes[i]? with
    | some (.lockWait st) => (s.nodes (s.target st)).packageWindow ≠ 0
    | _ => true
  | .write st _ => s.reader.destroying? ≠ some st.1
  | .reader =>
    match s.reader, s.incoming with
    | .idle, arriving :: _ =>
      match arriving.destroys, s.cause .reader with
      | some c, _ => (s.streamMap c).all fun n => s.Settled (c, n)
      | none, .nodeSendme h => (s.nodes h).packageWindow ≠ -100
      | none, _ => true
    | _, _ => true
  | _ => true

variable {s s' : Threads}

/-- While a circuit is destroyed, the streams that are still to be closed are settled. -/
def TeardownAt (s : Threads) : Reader → Prop
  | .destroying c todo | .leaving c _ todo => ∀ n ∈ todo, s.Settled (c, n)
  | .closingOutput c n todo => s.pending (c, n) = none ∧ ∀ m ∈ todo, s.Settled (c, m)
  | .closingFlush _ _ _ => False
  | .idle | .ackWaiting _ _ | .streamWaiting _ _ | .considering _ | .streamAckWaiting _ => True

def Teardown (s : Threads) : Prop := s.TeardownAt s.reader

theorem Teardown.at_reader {reader : Reader} (hs : s.Teardown) (hreader : s.reader = reader) :
    s.TeardownAt reader := hreader ▸ hs

theorem teardown_of_not_destroying (hreader : s.reader.destroying? = none) : s.Teardown := by
  unfold Teardown
  cases hwhere : s.reader with
  | idle | ackWaiting | streamWaiting | considering | streamAckWaiting => trivial
  | destroying | closingOutput | closingFlush | leaving =>
    rw [hwhere] at hreader
    cases hreader

theorem Teardown.not_flushing (hs : s.Teardown) (c n : Nat) (todo : List Nat) :
    s.reader ≠ .closingFlush c n todo := fun hreader => hs.at_reader hreader

variable {st : StreamId} {e : Event} {c : Nat}

theorem Settled.of_quieter (hs : s.Settled st) (hquieter : (s.streams st).Quieter (s'.streams st)) :
    s'.Settled st := by
  rcases hs with hclosed | hpending
  · exact Or.inl (hquieter.closed hclosed)
  · exact Or.inr (hquieter.pending hpending)

/-- The reading thread stays where it is. -/
theorem Teardown.of_quieter (hs : s.Teardown) (hreader : s'.reader = s.reader)
    (hquieter : ∀ st, s.reader.destroying? = some st.1 →
      (s.streams st).Quieter (s'.streams st)) : s'.Teardown := by
  unfold Teardown
  rw [hreader]
  cases hwhere : s.reader with
  | destroying c todo | leaving c n todo =>
    rw [hwhere] at hquieter
    exact fun n hn => (hs.at_reader hwhere n hn).of_quieter (hquieter (c, n) rfl)
  | closingOutput c n todo =>
    rw [hwhere] at hquieter
    obtain ⟨hpending, hall⟩ := hs.at_reader hwhere
    exact ⟨(hquieter (c, n) rfl).pending hpending,
      fun m hm => (hall m hm).of_quieter (hquieter (c, m) rfl)⟩
  | closingFlush c n todo => exact hs.not_flushing c n todo hwhere
  | idle | ackWaiting | streamWaiting | considering | streamAckWaiting => trivial

theorem Reads.teardown (hs : s.Teardown) (hunhindered : s.unhindered .reader = true)
    (hreads : s.Reads s') : s'.Teardown := by
  have hquieter : ∀ {st}, s.Settled st → s'.Settled st := fun h => h.of_quieter (hreads.quieter _)
  cases hreads with
  | ignored hreader | sendme hreader => exact hs.of_quieter rfl fun _ _ => .refl _
  | toStream | noStream | acknowledge | acknowledgeStream | destroyed =>
    exact teardown_of_not_destroying rfl
  | @data c cell rest =>
    refine teardown_of_not_destroying ?_
    unfold Threads.countDataCell
    dsimp only
    split <;> rfl
  | @addInput c cell =>
    refine teardown_of_not_destroying ?_
    unfold Threads.addInputCell
    dsimp only
    split
    · rfl
    · dsimp only
      split <;> rfl
  | consider =>
    refine teardown_of_not_destroying ?_
    split <;> rfl
  | @destroy c arriving rest hreader hincoming husable hdestroys =>
    intro n hn
    simp only [unhindered, hreader, hincoming, hdestroys] at hunhindered
    exact of_decide_eq_true (List.all_eq_true.mp hunhindered n hn)
  | @skipStream c n todo hreader =>
    exact fun m hm => hs.at_reader hreader m (List.mem_cons_of_mem n hm)
  | @closeStream c n todo hreader hclosed =>
    have hall := hs.at_reader hreader
    have hpending : s.pending (c, n) = none := by
      rcases hall n List.mem_cons_self with h | h
      · cases hclosed.symm.trans h
      · exact h
    refine ⟨?_, fun m hm => hquieter (hall m (List.mem_cons_of_mem n hm))⟩
    rw [pending_setStream_same (by exact rfl)]
    exact hpending
  | @closeOutput c n todo hreader =>
    obtain ⟨hpending, hall⟩ := hs.at_reader hreader
    -- nothing is pending, so the output is closed without a flush
    have hreader' : (s.closeOutput c n todo).reader = .leaving c n todo := by
      unfold Threads.closeOutput
      rw [hpending]
      split <;> rfl
    unfold Teardown
    rw [hreader']
    exact fun m hm => hquieter (hall m hm)
  | flush hflush | flushed hflush => exact absurd hflush (hs.not_flushing _ _ _)
  | leave hreader => exact hs.at_reader hreader

/-- Only its own steps move the reading thread. -/
theorem reader_step (hstep : s.step e = some s') (hreader : e ≠ .reader) :
    s'.reader = s.reader := by
  cases e with
  | thread i =>
    exact (step_thread.mp hstep).2.moves.1
  | interrupt i =>
    obtain ⟨-, f, -, rfl⟩ := step_interrupt hstep
    rfl
  | reader => exact absurd rfl hreader
  | write st cell | flush i st | closeOutput st | removeStream st =>
    obtain ⟨-, hstep⟩ := Option.ite_none_right_eq_some.mp hstep
    cases hstep
    rfl
  | read st size off len | arrives arriving | closeStream st | circuitEnds c =>
    cases hstep
    rfl

theorem teardown_step (hs : s.Teardown) (hunhindered : s.unhindered e = true)
    (hstep : s.step e = some s') : s'.Teardown := by
  rcases eq_or_ne e .reader with rfl | hreads
  · exact (reads_of_step hstep).teardown hs hunhindered
  · refine hs.of_quieter (reader_step hstep hreads) fun st hst => step_quieter hstep ?_
    rintro cell rfl
    exact of_decide_eq_true hunhindered hst

/-! ## Progress -/

/-- What the condition preserves. -/
structure Unblocked (s : Threads) : Prop where
  sound : s.Sound
  supplied : s.books.HoldersSupplied
  pending : s.FlushPending
  teardown : s.Teardown

theorem unblocked_start (nodes : HopId → CircuitNode) (targetNode : StreamId → Nat)
    (autoclose : StreamId → Bool) (streamMap : Nat → List Nat) (writers : Nat) :
    (start nodes targetNode autoclose streamMap writers).Unblocked := by
  have hidle : ∀ (i : Nat) (f : Flush),
      (List.replicate (writers + 1) Flush.idle)[i]? = some f → f = .idle := fun i f hi =>
    List.eq_of_mem_replicate (List.mem_of_getElem? hi)
  refine ⟨sound_start nodes targetNode autoclose streamMap writers, fun i st hi => ?_,
    fun i f st hi hst => ?_, trivial⟩
  · cases hidle i _ hi
  · rw [hidle i f hi] at hst
    cases hst

/-- The node of a SENDME gets its window as the reading thread takes the cell. -/
theorem cause_nodeSendme {h : HopId} (hcause : s.cause .reader = .nodeSendme h) :
    ∃ c cell rest, s.reader = .idle ∧ s.incoming = .relay c cell :: rest ∧
      Circuit.dispatch cell.relayCommand = .sendme := by
  simp only [cause] at hcause
  split at hcause
  · split at hcause <;> cases hcause
  · split at hcause <;> cases hcause
  · rename_i c cell rest hreader hincoming
    split at hcause
    · rename_i happlies
      exact ⟨c, cell, rest, hreader, hincoming, happlies.2.1⟩
    · cases hcause
  · cases hcause

/-- The reading thread takes note of a SENDME only if that does not make the window zero. -/
theorem sendme_unhindered (hunhindered : s.unhindered e = true) {h : HopId}
    (hcause : s.cause e = .nodeSendme h) : (s.nodes h).packageWindow ≠ -100 := by
  cases e with
  | reader =>
    obtain ⟨c, cell, rest, hreader, hincoming, hsendme⟩ := cause_nodeSendme hcause
    have hdestroys : (Arriving.relay c cell).destroys = none := by
      simp [Arriving.destroys, hsendme]
    simp only [unhindered, hreader, hincoming, hdestroys, hcause] at hunhindered
    exact of_decide_eq_true hunhindered
  | thread | interrupt | write | flush | read | arrives | closeStream | closeOutput | removeStream
  | circuitEnds => cases hcause

/-- A thread takes the lock only if its node has a window. -/
theorem lock_unhindered (hs : s.Teardown) (hunhindered : s.unhindered e = true) {i : Nat}
    (hcause : s.cause e = .thread i) (hi : s.flushes[i]? = some (.lockWait st)) :
    (s.nodes (s.target st)).packageWindow ≠ 0 := by
  cases e with
  | thread j =>
    cases hcause
    simp only [unhindered, hi] at hunhindered
    exact of_decide_eq_true hunhindered
  | reader =>
    -- only a reading thread that flushes would be meant
    simp only [cause] at hcause
    split at hcause
    · rename_i hflush
      exact absurd hflush (hs.not_flushing _ _ _)
    · split at hcause <;> cases hcause
    · split at hcause <;> cases hcause
    · cases hcause
  | interrupt | write | flush | read | arrives | closeStream | closeOutput | removeStream
  | circuitEnds => cases hcause

theorem unblocked_step (hs : s.Unblocked) (hunhindered : s.unhindered e = true)
    (hstep : s.step e = some s') : s'.Unblocked where
  sound := sound_step hs.sound hstep
  supplied :=
    Books.holdersSupplied_step hs.supplied hs.sound.books hs.sound.exclusive (fun _ => rfl)
      (step_books hs.sound.ready hstep)
      (fun _ _ hcause hi => lock_unhindered hs.teardown hunhindered hcause hi)
      (fun _ hcause => sendme_unhindered hunhindered hcause)
  pending := flushPending_step hs.pending hs.sound.exclusive.output hs.teardown.not_flushing hstep
  teardown := teardown_step hs.teardown hunhindered hstep

/-- A SENDME is under way to the reading thread. -/
def SendmeInTransit (s : Threads) : Prop :=
  ∃ c cell, .relay c cell ∈ s.incoming ∧ cell.relayCommand = RELAY_SENDME

/-- The reading thread can go on, if need be after steps of the other threads. -/
def CanRead (s : Threads) : Prop :=
  ∃ (threads : List Nat) (s' : Threads),
    Runs.run step s (threads.map .thread) = some s' ∧ (s'.step .reader).isSome = true

/-- A thread that has its window hands the cell over and lets go of the lock. -/
theorem unlocks_of_sending {i : Nat} (hs : s.Sound) (hi : i ≠ 0)
    (hsending : s.flushes[i]? = some (.sending st)) :
    ∃ s', s.step (.thread i) = some s' ∧ s'.locked st.1 = false ∧ s'.reader = s.reader := by
  have hadvances := Advances.send hsending
  have hflushes : ∀ s₁ : Threads, s₁.flushes = s.flushes →
      ((s₁.setStream st ((s.streams st).flushed st.1)).setFlush i .idle).flushes =
        s.flushes.set i .idle := by
    intro s₁ h
    show s₁.flushes.set i .idle = _
    rw [h]
  refine ⟨_, step_thread.mpr ⟨hi, hadvances⟩, unlocked_of_free ?_, hadvances.moves.1⟩
  rw [hflushes _ (by split <;> rfl)]
  exact hs.exclusive.lock.free_of_release hsending rfl nofun

/-- Whoever holds the lock lets go of it in at most two steps. -/
theorem unlocks (hs : s.Unblocked) (hidle : s.flushes[0]? = some .idle)
    (hlocked : s.locked c = true) :
    ∃ (threads : List Nat) (s' : Threads), Runs.run step s (threads.map .thread) = some s' ∧
      s'.locked c = false ∧ s'.reader = s.reader := by
  obtain ⟨f, hf, hlock⟩ := List.any_eq_true.mp hlocked
  have hc : f.lock? = some c := of_decide_eq_true hlock
  obtain ⟨i, hi⟩ := List.mem_iff_getElem?.mp hf
  have hne : i ≠ 0 := by
    rintro rfl
    cases hidle.symm.trans hi
    cases hc
  cases f with
  | idle | streamWait | nodeWait | lockWait => cases hc
  | sending st =>
    cases hc
    obtain ⟨s', hstep, hfree, hreader⟩ := unlocks_of_sending hs.sound hne hi
    exact ⟨[i], s', Runs.run_cons.mpr ⟨s', hstep, rfl⟩, hfree, hreader⟩
  | windowWait st =>
    cases hc
    have hadvances := Advances.takeHop hi (hs.supplied i st hi)
    have hstep := step_thread.mpr ⟨hne, hadvances⟩
    have hsending := List.getElem?_set_self (a := Flush.sending st)
      (List.getElem?_eq_some_iff.mp hi).1
    obtain ⟨s', hstep', hfree, hreader⟩ :=
      unlocks_of_sending (sound_step hs.sound hstep) hne hsending
    refine ⟨[i, i], s', ?_, hfree, hreader.trans hadvances.moves.1⟩
    exact Runs.run_cons.mpr ⟨_, hstep, Runs.run_cons.mpr ⟨s', hstep', rfl⟩⟩

/-- Nobody is in the way of a stream that is closed without a flush. -/
theorem not_busy_of_settled {n : Nat} {todo : List Nat} (hs : s.Unblocked)
    (hreader : s.reader = .closingOutput c n todo) : s.outputBusy (c, n) = false := by
  have hpending := (hs.teardown.at_reader hreader).1
  unfold outputBusy
  rw [hreader, Bool.or_eq_false_iff]
  refine ⟨List.any_eq_false.mpr fun f hf hflush => ?_, rfl⟩
  obtain ⟨i, hi⟩ := List.mem_iff_getElem?.mp hf
  have hsome := hs.pending i f (c, n) hi (of_decide_eq_true hflush)
  rw [hpending] at hsome
  cases hsome

/-- The reading thread waits for `relaySendLock` at most. -/
theorem canRead_of_lock (hs : s.Unblocked)
    (hreads : ∀ s' : Threads, s'.reader = s.reader → s'.locked c = false →
      (s'.step .reader).isSome = true) : s.CanRead := by
  by_cases hlocked : s.locked c = true
  · have hidle := hs.sound.ready.idle rfl hs.teardown.not_flushing
    obtain ⟨threads, s', hrun, hfree, hreader⟩ := unlocks hs hidle hlocked
    exact ⟨threads, s', hrun, hreads s' hreader hfree⟩
  · exact ⟨[], s, rfl, hreads s rfl (Bool.eq_false_iff.mpr hlocked)⟩

theorem Unblocked.canRead (hs : s.Unblocked) (hincoming : s.incoming ≠ []) : s.CanRead := by
  have hat_once : (s.step .reader).isSome = true → s.CanRead := fun h => ⟨[], s, rfl, h⟩
  cases hreader : s.reader with
  | idle =>
    refine hat_once ?_
    obtain ⟨arriving, rest, hcons⟩ := List.exists_cons_of_ne_nil hincoming
    show (s.readerStep).isSome = true
    rw [readerStep_idle hreader hcons]
    rfl
  | ackWaiting c cell | leaving c n todo =>
    refine canRead_of_lock (c := c) hs fun s' hsame hfree => ?_
    simp [step, readerStep, hsame, hreader, hfree]
  | streamWaiting c cell | considering st =>
    refine hat_once ?_
    simp [step, readerStep, hreader]
  | streamAckWaiting st =>
    refine canRead_of_lock (c := st.1) hs fun s' hsame hfree => ?_
    simp [step, readerStep, hsame, hreader, hfree]
  | destroying c todo =>
    refine hat_once ?_
    cases todo with
    | nil => simp [step, readerStep, hreader]
    | cons n todo =>
      by_cases hclosed : (s.streams (c, n)).isClosed = true
      · simp [step, readerStep, hreader, hclosed]
      · simp [step, readerStep, hreader, hclosed]
  | closingOutput c n todo =>
    refine hat_once ?_
    simp [step, readerStep, hreader, not_busy_of_settled hs hreader]
  | closingFlush c n todo => exact absurd hreader (hs.teardown.not_flushing c n todo)

/-- One flush, and a SENDME. -/
def oneFlush : List Event :=
  flushStart 1 (1, 5) (sampleOutput 5) ++ flushEnd 1 ++ [.arrives (.relay 1 sampleSendme)]

end Threads

end Orchid
