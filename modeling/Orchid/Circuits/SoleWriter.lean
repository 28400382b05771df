import Orchid.Circuits.Windows

/-!
# Orchid — a flush that nobody interferes with

When the other threads rest and neither window is zero, a flush runs from beginning to end.

* **`flush_alone`**: it takes one off the window of the stream and one off the window of its node.
-/

namespace Orchid

open RelayCell CreditWindow Locks Function

namespace Threads

variable {s s' : Threads} {i : Nat} {st : StreamId}

theorem unlocked_of_free {c : Nat} (hfree : Free Flush.lock? s.flushes c) : s.locked c = false := by
  refine Bool.eq_false_iff.mpr fun hlocked => ?_
  obtain ⟨f, hf, hlock⟩ := List.any_eq_true.mp hlocked
  exact hfree f hf (of_decide_eq_true hlock)

/-- What some steps of one flush leave behind: the thread is elsewhere, and the windows have changed. -/
structure Moved (s : Threads) (i : Nat) (st : StreamId) (f : Flush) (streamWindow hopWindow : Int)
    (s' : Threads) : Prop where
  flushes : s'.flushes = s.flushes.set i f
  reader : s'.reader = s.reader
  incoming : s'.incoming = s.incoming
  usable : s'.usable = s.usable
  streamMap : s'.streamMap = s.streamMap
  nodes : s'.nodes = update s.nodes (s.target st)
    { s.nodes (s.target st) with packageWindow := hopWindow }
  streams : ∃ stream, s'.streams = update s.streams st stream ∧
    stream.packageWindow = streamWindow ∧
    stream.targetNode = (s.streams st).targetNode ∧
    stream.outputStream.isClosed = (s.streams st).outputStream.isClosed

namespace Moved

variable {i : Nat} {st : StreamId} {f f' : Flush} {streamWindow streamWindow' hopWindow hopWindow' : Int}
  {s'' : Threads}

theorem target_eq (hmoved : s.Moved i st f streamWindow hopWindow s') : s'.target = s.target := by
  obtain ⟨stream, hstreams, -, htarget, -⟩ := hmoved.streams
  have hset : s'.target = (s.setStream st stream).target := by
    unfold target setStream
    rw [hstreams]
  rw [hset, target_setStream htarget]

theorem hopWindow_eq (hmoved : s.Moved i st f streamWindow hopWindow s') :
    (s'.nodes (s'.target st)).packageWindow = hopWindow := by
  rw [hmoved.target_eq, hmoved.nodes, update_self]

theorem streamWindow_eq (hmoved : s.Moved i st f streamWindow hopWindow s') :
    (s'.streams st).packageWindow = streamWindow := by
  obtain ⟨stream, hstreams, hwindow, -, -⟩ := hmoved.streams
  rw [hstreams, update_self, hwindow]

theorem output_eq (hmoved : s.Moved i st f streamWindow hopWindow s') :
    (s'.streams st).outputStream.isClosed = (s.streams st).outputStream.isClosed := by
  obtain ⟨stream, hstreams, -, -, hclosed⟩ := hmoved.streams
  rw [hstreams, update_self, hclosed]

theorem thread_eq (hmoved : s.Moved i st f streamWindow hopWindow s') (hi : i < s.flushes.length) :
    s'.flushes[i]? = some f := by
  rw [hmoved.flushes, List.getElem?_set_self hi]

theorem trans (hmoved : s.Moved i st f streamWindow hopWindow s')
    (hmoved' : s'.Moved i st f' streamWindow' hopWindow' s'') :
    s.Moved i st f' streamWindow' hopWindow' s'' := by
  obtain ⟨stream, hstreams, hwindow, htarget, hclosed⟩ := hmoved.streams
  obtain ⟨stream', hstreams', hwindow', htarget', hclosed'⟩ := hmoved'.streams
  have hst : s'.streams st = stream := by rw [hstreams, update_self]
  rw [hst] at htarget' hclosed'
  refine ⟨?_, hmoved'.reader.trans hmoved.reader, hmoved'.incoming.trans hmoved.incoming,
    hmoved'.usable.trans hmoved.usable, hmoved'.streamMap.trans hmoved.streamMap, ?_, stream', ?_,
    hwindow', htarget'.trans htarget, hclosed'.trans hclosed⟩
  · rw [hmoved'.flushes, hmoved.flushes, List.set_set]
  · rw [hmoved'.nodes, hmoved.target_eq, hmoved.nodes, update_self, update_idem]
  · rw [hstreams', hstreams, update_idem]

theorem windows (hmoved : s.Moved i st f streamWindow hopWindow s')
    (hstream : streamWindow = streamWindow') (hhop : hopWindow = hopWindow') :
    s.Moved i st f streamWindow' hopWindow' s' := by
  rw [← hstream, ← hhop]
  exact hmoved

/-- A step that changes only the stream. -/
theorem of_stream {stream : StreamImpl} (hi : s.flushes[i]? = some f)
    (hwindow : stream.packageWindow = (s.streams st).packageWindow)
    (htarget : stream.targetNode = (s.streams st).targetNode)
    (hclosed : stream.outputStream.isClosed = (s.streams st).outputStream.isClosed) :
    s.Moved i st f (s.streams st).packageWindow (s.nodes (s.target st)).packageWindow
      (s.setStream st stream) := by
  refine ⟨?_, rfl, rfl, rfl, rfl, ?_, stream, rfl, hwindow, htarget, hclosed⟩
  · obtain ⟨hlt, hget⟩ := List.getElem?_eq_some_iff.mp hi
    show s.flushes = s.flushes.set i f
    rw [← hget, List.set_getElem_self]
  · exact (update_eq_self (s.target st) s.nodes).symm

/-- A step that changes only where the thread is. -/
theorem of_flush (s : Threads) (i : Nat) (st : StreamId) (f : Flush) :
    s.Moved i st f (s.streams st).packageWindow (s.nodes (s.target st)).packageWindow
      (s.setFlush i f) :=
  ⟨rfl, rfl, rfl, rfl, rfl, (update_eq_self (s.target st) s.nodes).symm, s.streams st,
    (update_eq_self st s.streams).symm, rfl, rfl, rfl⟩

end Moved

/-- Where a thread goes, and what becomes of the windows. -/
theorem takeStream_moved (s : Threads) :
    s.Moved i st (.nodeWait st) (javaInt ((s.streams st).packageWindow - 1))
      (s.nodes (s.target st)).packageWindow
      (({ s with streamLedger := update s.streamLedger st (s.streamLedger st).take
        : Threads }.setStream st { s.streams st with
          packageWindow := javaInt ((s.streams st).packageWindow - 1) }).setFlush i (.nodeWait st)) :=
  ⟨rfl, rfl, rfl, rfl, rfl, (update_eq_self (s.target st) s.nodes).symm, _, rfl, rfl, rfl, rfl⟩

theorem takeHop_moved (s : Threads) :
    s.Moved i st (.sending st) (s.streams st).packageWindow
      (javaInt ((s.nodes (s.target st)).packageWindow - 1))
      (({ s with
        hopLedger := update s.hopLedger (s.target st) (s.hopLedger (s.target st)).take
        : Threads }.setNode (s.target st) { s.nodes (s.target st) with
          packageWindow := javaInt ((s.nodes (s.target st)).packageWindow - 1) }).setFlush i
            (.sending st)) :=
  ⟨rfl, rfl, rfl, rfl, rfl, rfl, s.streams st, (update_eq_self st s.streams).symm, rfl, rfl, rfl⟩

theorem send_moved (s : Threads) :
    s.Moved i st .idle (s.streams st).packageWindow (s.nodes (s.target st)).packageWindow
      (((if s.usable st.1 then s.recordSent st else s).setStream st
        ((s.streams st).flushed st.1)).setFlush i .idle) := by
  have hsame := (update_eq_self (s.target st) s.nodes).symm
  split
  · exact ⟨rfl, rfl, rfl, rfl, rfl, hsame, (s.streams st).flushed st.1, rfl, rfl, rfl, rfl⟩
  · exact ⟨rfl, rfl, rfl, rfl, rfl, hsame, (s.streams st).flushed st.1, rfl, rfl, rfl, rfl⟩

/-- A write, and the call of a flush. -/
def flushCall (i : Nat) (st : StreamId) (cell : RelayCell) : List Event :=
  [.write st cell, .flush i st]

/-- That, and the two waits in front of `relaySendLock`. -/
def flushStart (i : Nat) (st : StreamId) (cell : RelayCell) : List Event :=
  flushCall i st cell ++ [.thread i, .thread i]

/-- The rest of a flush. -/
def flushEnd (i : Nat) : List Event := [.thread i, .thread i, .thread i]

theorem flushCall_run (st : StreamId) (cell : RelayCell) (hi : i ≠ 0)
    (hidle : s.flushes[i]? = some .idle) (hfree : s.outputBusy st = false)
    (hopen : (s.streams st).outputStream.isClosed = false)
    (hcell : HEADER_SIZE < cell.cellBytesConsumed) :
    ∃ s', Runs.run step s (flushCall i st cell) = some s' ∧
      s.Moved i st (.streamWait st) (s.streams st).packageWindow
        (s.nodes (s.target st)).packageWindow s' := by
  have hthread : i < s.flushes.length := (List.getElem?_eq_some_iff.mp hidle).1
  have hwrite : ∃ s₁, s.step (.write st cell) = some s₁ ∧
      s.Moved i st .idle (s.streams st).packageWindow (s.nodes (s.target st)).packageWindow s₁ ∧
      (s₁.pending st).isSome = true ∧ s₁.outputBusy st = false := by
    refine ⟨_, if_pos ⟨by rw [hopen]; rfl, by rw [hfree]; rfl⟩, .of_stream hidle rfl rfl rfl, ?_, hfree⟩
    show ((update s.streams st _ st).outputStream.pending).isSome = true
    rw [update_self]
    simp [TorOutputStream.pending, hcell]
  obtain ⟨s₁, hwrite, hmoved₁, hpending, hfree₁⟩ := hwrite
  have hflush : s₁.step (.flush i st) = some (s₁.setFlush i (.streamWait st)) := by
    refine if_pos ⟨hi, hmoved₁.thread_eq hthread, ?_, by rw [hfree₁]; rfl, hpending⟩
    rw [hmoved₁.output_eq, hopen]
    rfl
  refine ⟨_, Runs.run_cons.mpr ⟨s₁, hwrite, Runs.run_cons.mpr ⟨_, hflush, rfl⟩⟩,
    (hmoved₁.trans (.of_flush s₁ i st (.streamWait st))).windows ?_ ?_⟩
  · rw [hmoved₁.streamWindow_eq]
  · rw [hmoved₁.hopWindow_eq]

theorem flushStart_run (st : StreamId) (cell : RelayCell) (hi : i ≠ 0)
    (hidle : s.flushes[i]? = some .idle) (hfree : s.outputBusy st = false)
    (hreader : s.reader ≠ .streamAckWaiting st)
    (hopen : (s.streams st).outputStream.isClosed = false)
    (hcell : HEADER_SIZE < cell.cellBytesConsumed) (hstream : (s.streams st).packageWindow ≠ 0)
    (hnode : (s.nodes (s.target st)).packageWindow ≠ 0) :
    ∃ s', Runs.run step s (flushStart i st cell) = some s' ∧
      s.Moved i st (.lockWait st) (javaInt ((s.streams st).packageWindow - 1))
        (s.nodes (s.target st)).packageWindow s' := by
  have hthread : i < s.flushes.length := (List.getElem?_eq_some_iff.mp hidle).1
  obtain ⟨s₁, hrun₁, hmoved₁⟩ := flushCall_run st cell hi hidle hfree hopen hcell
  have htake := Advances.takeStream (hmoved₁.thread_eq hthread) (by rw [hmoved₁.reader]; exact hreader)
    (by rw [hmoved₁.streamWindow_eq]; exact hstream)
  have hmoved₂ := hmoved₁.trans (takeStream_moved s₁)
  have hpass := Advances.passNode (hmoved₂.thread_eq hthread)
    (by rw [hmoved₂.hopWindow_eq, hmoved₁.hopWindow_eq]; exact hnode)
  have hmoved₃ := hmoved₂.trans (.of_flush _ i st (.lockWait st))
  refine ⟨_, Runs.run_append.mpr ⟨s₁, hrun₁, Runs.run_cons.mpr ⟨_, step_thread.mpr ⟨hi, htake⟩,
    Runs.run_cons.mpr ⟨_, step_thread.mpr ⟨hi, hpass⟩, rfl⟩⟩⟩, hmoved₃.windows ?_ ?_⟩
  · rw [hmoved₂.streamWindow_eq, hmoved₁.streamWindow_eq]
  · rw [hmoved₂.hopWindow_eq, hmoved₁.hopWindow_eq]

theorem flushEnd_run (hi : i ≠ 0) (hlock : s.flushes[i]? = some (.lockWait st))
    (hfree : s.locked st.1 = false) (hnode : (s.nodes (s.target st)).packageWindow ≠ 0) :
    ∃ s', Runs.run step s (flushEnd i) = some s' ∧
      s.Moved i st .idle (s.streams st).packageWindow
        (javaInt ((s.nodes (s.target st)).packageWindow - 1)) s' := by
  have hthread : i < s.flushes.length := (List.getElem?_eq_some_iff.mp hlock).1
  have hlocks := Advances.lock hlock hfree
  have hmoved₁ := Moved.of_flush s i st (.windowWait st)
  have htake := Advances.takeHop (hmoved₁.thread_eq hthread)
    (by rw [hmoved₁.hopWindow_eq]; exact hnode)
  have hmoved₂ := hmoved₁.trans (takeHop_moved (s.setFlush i (.windowWait st)))
  have hsend := Advances.send (hmoved₂.thread_eq hthread)
  have hmoved₃ := hmoved₂.trans (send_moved _)
  refine ⟨_, Runs.run_cons.mpr ⟨_, step_thread.mpr ⟨hi, hlocks⟩, Runs.run_cons.mpr
    ⟨_, step_thread.mpr ⟨hi, htake⟩, Runs.run_cons.mpr ⟨_, step_thread.mpr ⟨hi, hsend⟩, rfl⟩⟩⟩,
    hmoved₃.windows ?_ ?_⟩
  · rw [hmoved₂.streamWindow_eq, hmoved₁.streamWindow_eq]
  · rw [hmoved₂.hopWindow_eq, hmoved₁.hopWindow_eq]

/-- **A flush that nobody interferes with.** -/
theorem flush_alone (st : StreamId) (cell : RelayCell) (hi : i ≠ 0)
    (hidle : s.flushes[i]? = some .idle) (hrest : ∀ f ∈ s.flushes, f = .idle)
    (hreader : s.reader = .idle) (hopen : (s.streams st).outputStream.isClosed = false)
    (hcell : HEADER_SIZE < cell.cellBytesConsumed) (hstream : (s.streams st).packageWindow ≠ 0)
    (hnode : (s.nodes (s.target st)).packageWindow ≠ 0) :
    ∃ s', Runs.run step s (flushStart i st cell ++ flushEnd i) = some s' ∧
      s.Moved i st .idle (javaInt ((s.streams st).packageWindow - 1))
        (javaInt ((s.nodes (s.target st)).packageWindow - 1)) s' := by
  have hfree : s.outputBusy st = false := by
    unfold outputBusy
    rw [hreader, Bool.or_eq_false_iff]
    refine ⟨List.any_eq_false.mpr fun f hf hflush => ?_, rfl⟩
    rw [hrest f hf] at hflush
    cases of_decide_eq_true hflush
  obtain ⟨s₁, hrun₁, hmoved₁⟩ := flushStart_run st cell hi hidle hfree (by rw [hreader]; nofun) hopen
    hcell hstream hnode
  have hunlocked : s₁.locked st.1 = false := by
    refine unlocked_of_free fun f hf hlock => ?_
    rw [hmoved₁.flushes] at hf
    rcases List.mem_or_eq_of_mem_set hf with hold | rfl
    · rw [hrest f hold] at hlock
      cases hlock
    · cases hlock
  have hthread : i < s.flushes.length := (List.getElem?_eq_some_iff.mp hidle).1
  obtain ⟨s₂, hrun₂, hmoved₂⟩ := flushEnd_run hi (hmoved₁.thread_eq hthread) hunlocked
    (by rw [hmoved₁.hopWindow_eq]; exact hnode)
  refine ⟨s₂, Runs.run_append.mpr ⟨s₁, hrun₁, hrun₂⟩, (hmoved₁.trans hmoved₂).windows ?_ ?_⟩
  · rw [hmoved₁.streamWindow_eq]
  · rw [hmoved₁.hopWindow_eq]

end Threads

end Orchid
