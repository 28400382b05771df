import Orchid.Circuits.ReaderProgress

/-!
# Orchid — a deadlock of the reading thread

Two threads look at the window of a node without the lock and find one unit left. One of them gets
the lock and takes it; the other gets the lock next and waits for the window. If then the reading thread
has to send a SENDME of its own, it waits for the lock, and the SENDME that would open the window is
behind the cell it is at.

* `Deadlocked`: a thread with the lock is at a window of zero, and the reading thread at the lock.
* **`deadlocked_step`**: nothing but an interrupt ends it.
* **`writers_block_reader`**: two threads and three streams of one circuit get there.
-/

namespace Orchid

open RelayCell CreditWindow Locks Function Runs

namespace Threads

variable {s s' : Threads}

/-! ## A deadlock -/

/-- A thread with `relaySendLock` is at a window of zero, and the reading thread at the lock. -/
def Deadlocked (s : Threads) (i : Nat) : Prop :=
  ∃ st cell, s.flushes[i]? = some (.windowWait st) ∧
    (s.nodes (s.target st)).packageWindow = 0 ∧ s.reader = .ackWaiting st.1 cell

variable {i : Nat} {deliverWindow hopWindow : Int} {streamWindow : Nat → Int}

theorem Deadlocked.reader_waits (hs : s.Deadlocked i) : s.step .reader = none := by
  obtain ⟨st, cell, hi, -, hreader⟩ := hs
  have hlocked : s.locked st.1 = true :=
    List.any_eq_true.mpr ⟨.windowWait st, List.mem_of_getElem? hi, decide_eq_true rfl⟩
  simp [step, readerStep, hreader, hlocked]

/-- No step ends the deadlock but an interrupt of the thread that holds the lock. -/
theorem deadlocked_step {e : Event} (hready : s.ReaderReady) (hs : s.Deadlocked i)
    (hinterrupt : e ≠ .interrupt i) (hstep : s.step e = some s') : s'.Deadlocked i := by
  have hnot_reader : e ≠ .reader := by
    rintro rfl
    cases hs.reader_waits.symm.trans hstep
  obtain ⟨st, cell, hi, hzero, hreader⟩ := hs
  have hbooks := step_books hready hstep
  have hcause : s.cause e ≠ .interrupt i ∧ ∀ h, s.cause e ≠ .nodeSendme h := by
    cases e with
    | interrupt j => exact ⟨fun h => hinterrupt (by cases h; rfl), nofun⟩
    | reader => exact absurd rfl hnot_reader
    | thread | write | flush | read | arrives | closeStream | closeOutput | removeStream
    | circuitEnds => exact ⟨nofun, nofun⟩
  have hblocked : s.books.BlockedFor i st := Or.inr (Or.inr ⟨hi, hzero⟩)
  have hthread := Books.flushes_step_of_blocked hbooks hblocked hcause.1
  refine ⟨st, cell, hthread.trans hi, ?_, (reader_step hstep hnot_reader).trans hreader⟩
  have htarget : s'.target = s.target := Books.target_step hbooks
  rw [htarget]
  exact Books.hopWindow_step hbooks hzero (hcause.2 _)

theorem Deadlocked.not_canRead (hready : s.ReaderReady) (hs : s.Deadlocked i) : ¬ s.CanRead := by
  rintro ⟨threads, s', hrun, hreads⟩
  have hstays : s'.ReaderReady ∧ s'.Deadlocked i := by
    clear hreads
    induction threads generalizing s with
    | nil =>
      cases hrun
      exact ⟨hready, hs⟩
    | cons j threads ih =>
      obtain ⟨s₁, hstep, hrest⟩ := run_cons.mp hrun
      exact ih (readerReady_step hready hstep) (deadlocked_step (e := .thread j) hready hs nofun hstep) hrest
  rw [hstays.2.reader_waits] at hreads
  cases hreads

/-! ## How it comes about -/

/-- Circuit 1 with its three threads at rest. -/
structure SampleRest (s : Threads) (hopWindow deliverWindow : Int) (streamWindow : Nat → Int) :
    Prop where
  ready : s.ReaderReady
  flushes : s.flushes = [.idle, .idle, .idle]
  reader : s.reader = .idle
  incoming : s.incoming = []
  usable : s.usable 1 = true
  streamMap : s.streamMap 1 = [5, 6, 7]
  target : ∀ n, s.target (1, n) = (1, 0)
  hopWindow : (s.nodes (1, 0)).packageWindow = hopWindow
  deliverWindow : (s.nodes (1, 0)).deliverWindow = deliverWindow
  streamWindow : ∀ n, (s.streams (1, n)).packageWindow = streamWindow n
  output : ∀ n, (s.streams (1, n)).outputStream.isClosed = false

theorem sampleThreads_rest : (sampleThreads 2).SampleRest 1000 1000 (fun _ => 500) :=
  ⟨Or.inr rfl, rfl, rfl, rfl, rfl, rfl, fun _ => rfl, rfl, rfl, fun _ => rfl, fun _ => rfl⟩

/-- A DATA cell of a stream that is not open. -/
def strayData : RelayCell := RelayCell.create 0 1 9 RELAY_DATA false

def strayDataRounds : Nat → List Event
  | 0 => []
  | k + 1 => .arrives (.relay 1 strayData) :: .reader :: .reader :: strayDataRounds k

/-- Thread 1 flushes the stream so many times. -/
def flushRounds (n : Nat) : Nat → List Event
  | 0 => []
  | k + 1 => flushStart 1 (1, n) (sampleOutput n) ++ flushEnd 1 ++ flushRounds n k

/-- A thread takes from the one node of the circuit. -/
theorem Moved.oneNode {n : Nat} {f : Flush} {window hopWindow' : Int}
    (hmoved : s.Moved i (1, n) f window hopWindow' s') (htarget : ∀ n, s.target (1, n) = (1, 0)) :
    (∀ n, s'.target (1, n) = (1, 0)) ∧
      s'.nodes (1, 0) = { s.nodes (1, 0) with packageWindow := hopWindow' } := by
  constructor
  · intro n
    rw [hmoved.target_eq, htarget]
  · rw [hmoved.nodes, htarget, update_self]

/-- The window of a stream after something was taken off it. -/
theorem SampleRest.of_moved {hopWindow' window : Int} {n : Nat}
    (hs : s.SampleRest hopWindow deliverWindow streamWindow) (hready : s'.ReaderReady)
    (hmoved : s.Moved 1 (1, n) .idle window hopWindow' s') :
    s'.SampleRest hopWindow' deliverWindow (update streamWindow n window) := by
  obtain ⟨htarget, hnode⟩ := hmoved.oneNode hs.target
  obtain ⟨stream, hstreams, hwindow, -, hclosed⟩ := hmoved.streams
  have hstream : ∀ m, s'.streams (1, m) = if m = n then stream else s.streams (1, m) := by
    intro m
    rw [hstreams, update_apply]
    simp only [Prod.mk.injEq, true_and]
  refine ⟨hready, ?_, hmoved.reader.trans hs.reader, hmoved.incoming.trans hs.incoming, ?_, ?_,
    htarget, ?_, ?_, fun m => ?_, fun m => ?_⟩
  · rw [hmoved.flushes, hs.flushes]
    rfl
  · rw [hmoved.usable, hs.usable]
  · rw [hmoved.streamMap, hs.streamMap]
  · rw [hnode]
  · rw [hnode]
    exact hs.deliverWindow
  · rw [hstream, update_apply]
    split
    · exact hwindow
    · exact hs.streamWindow m
  · rw [hstream]
    split
    · rw [hclosed, hs.output]
    · exact hs.output m

theorem flushRounds_run {window : Int} {n k : Nat}
    (hs : s.SampleRest hopWindow deliverWindow streamWindow) (hhop : k ≤ hopWindow)
    (hhop_lt : hopWindow < 2 ^ 31) (hstream : streamWindow n = window) (hwindow : k ≤ window)
    (hwindow_lt : window < 2 ^ 31) :
    ∃ s', run step s (flushRounds n k) = some s' ∧
      s'.SampleRest (hopWindow - k) deliverWindow (update streamWindow n (window - k)) := by
  induction k generalizing s hopWindow window streamWindow with
  | zero =>
    refine ⟨s, rfl, ?_⟩
    rw [show hopWindow - (0 : Nat) = hopWindow by omega, show window - (0 : Nat) = window by omega,
      ← hstream, update_eq_self]
    exact hs
  | succ k ih =>
    have hthread : s.flushes[1]? = some .idle := by rw [hs.flushes]; rfl
    have hrest : ∀ f ∈ s.flushes, f = .idle := by
      rw [hs.flushes]
      simp
    obtain ⟨s₁, hrun, hmoved⟩ := flush_alone (1, n) (sampleOutput n) Nat.one_ne_zero hthread hrest
      hs.reader (hs.output n) (show HEADER_SIZE < HEADER_SIZE + 1 by decide)
      (by rw [hs.streamWindow, hstream]; omega) (by rw [hs.target, hs.hopWindow]; omega)
    rw [hs.streamWindow, hs.target, hs.hopWindow, hstream,
      javaInt_of_range (by omega) (by omega), javaInt_of_range (by omega) (by omega)] at hmoved
    have hready := readerReady_run hs.ready hrun
    obtain ⟨s₂, hrun₂, hs₂⟩ := ih (hs.of_moved hready hmoved) (by omega) (by omega)
      (update_self n (window - 1) streamWindow) (by omega) (by omega)
    refine ⟨s₂, run_append.mpr ⟨s₁, hrun, hrun₂⟩, ?_⟩
    rw [update_idem] at hs₂
    rw [show hopWindow - ((k + 1 : Nat) : Int) = hopWindow - 1 - k by omega,
      show window - ((k + 1 : Nat) : Int) = window - 1 - k by omega]
    exact hs₂

/-- The reading thread counts a DATA cell. -/
theorem strayData_counted (hreader : s.reader = .idle) (husable : s.usable 1 = true)
    (hhop : (s.nodes (1, 0)).packageWindow = hopWindow)
    (hdeliver : (s.nodes (1, 0)).deliverWindow = deliverWindow) (hlow : 901 ≤ deliverWindow)
    (hhigh : deliverWindow ≤ 1000) :
    ∃ node received, { s with incoming := [.relay 1 strayData] }.step .reader = some { s with
        incoming := []
        nodes := update s.nodes (1, 0) node
        received := received
        reader := if deliverWindow = 901 then .ackWaiting 1 strayData
          else .streamWaiting 1 strayData } ∧
      node.packageWindow = hopWindow ∧
      (deliverWindow ≠ 901 → node.deliverWindow = deliverWindow - 1) := by
  have hstep : { s with incoming := [.relay 1 strayData] }.step .reader =
      some ({ s with incoming := [] }.countDataCell 1 strayData) := by
    show readerStep _ = _
    rw [readerStep_idle (by exact hreader)
      (show [Arriving.relay 1 strayData] = Arriving.relay 1 strayData :: [] from rfl)]
    unfold deliver
    dsimp only
    rw [if_pos husable]
    rfl
  have hexact : javaInt (deliverWindow - 1) = deliverWindow - 1 :=
    javaInt_of_range (by omega) (by omega)
  have hcounted := CircuitNode.considerSendingSendme_counted (s.nodes (1, 0))
  rw [hdeliver, hexact] at hcounted
  have hdue : (s.nodes (1, 0)).decrementDeliverWindow.considerSendingSendme.1 =
      decide (deliverWindow = 901) := by
    rw [hcounted]
    split
    · exact (decide_eq_true (by omega)).symm
    · exact (decide_eq_false (by omega)).symm
  refine ⟨(s.nodes (1, 0)).decrementDeliverWindow.considerSendingSendme.2,
    update s.received (1, 0) (s.received (1, 0) + 1), hstep.trans ?_, ?_, fun hne => ?_⟩
  · simp [countDataCell, strayData, RelayCell.create, hdue]
  · rw [hcounted]
    split <;> exact hhop
  · rw [hcounted, if_neg (by omega)]

theorem strayDataRounds_run {k : Nat} (hs : s.SampleRest hopWindow deliverWindow streamWindow)
    (hlow : 901 + k ≤ deliverWindow) (hhigh : deliverWindow ≤ 1000) :
    ∃ s', run step s (strayDataRounds k) = some s' ∧
      s'.SampleRest hopWindow (deliverWindow - k) streamWindow := by
  induction k generalizing s deliverWindow with
  | zero =>
    refine ⟨s, rfl, ?_⟩
    rw [show deliverWindow - (0 : Nat) = deliverWindow by omega]
    exact hs
  | succ k ih =>
    have harrives : s.step (.arrives (.relay 1 strayData)) =
        some { s with incoming := [.relay 1 strayData] } := by
      simp only [step, hs.incoming, List.nil_append]
    obtain ⟨node, received, hcount, hhop, hdeliver⟩ :=
      strayData_counted hs.reader hs.usable hs.hopWindow hs.deliverWindow (by omega) hhigh
    rw [if_neg (by omega)] at hcount
    let s₁ : Threads := { s with
      incoming := [], nodes := update s.nodes (1, 0) node, received, reader := .idle }
    have hnone : { s₁ with reader := .streamWaiting 1 strayData }.step .reader = some s₁ := by
      have hclosed : s.openStream 1 strayData = false := by
        unfold openStream
        rw [hs.streamMap]
        rfl
      show some (if s.openStream 1 strayData then _ else _) = _
      rw [hclosed]
      rfl
    have hnode : s₁.nodes (1, 0) = node := update_self (1, 0) node s.nodes
    have hs₁ : s₁.SampleRest hopWindow (deliverWindow - 1) streamWindow :=
      { hs with
        ready := Or.inr (by show s.flushes[0]? = _; rw [hs.flushes]; rfl)
        reader := rfl
        incoming := rfl
        hopWindow := hnode ▸ hhop
        deliverWindow := hnode ▸ hdeliver (by omega) }
    obtain ⟨s₂, hrun₂, hs₂⟩ := ih hs₁ (by omega) (by omega)
    refine ⟨s₂, run_cons.mpr ⟨_, harrives, run_cons.mpr ⟨_, hcount,
      run_cons.mpr ⟨_, hnone, hrun₂⟩⟩⟩, ?_⟩
    rw [show deliverWindow - ((k + 1 : Nat) : Int) = deliverWindow - 1 - k by omega]
    exact hs₂

/-- Two threads see the last unit of the node's window, one takes it, and the other gets the lock.
Then the hundredth DATA cell arrives, and a SENDME behind it. -/
def lastUnit : List Event :=
  flushStart 1 (1, 6) (sampleOutput 6) ++ (flushStart 2 (1, 7) (sampleOutput 7) ++ (flushEnd 1 ++
    [.thread 2, .arrives (.relay 1 strayData), .reader, .arrives (.relay 1 sampleSendme)]))

theorem lastUnit_run (hs : s.SampleRest 1 901 streamWindow) (hsix : streamWindow 6 ≠ 0)
    (hseven : streamWindow 7 ≠ 0) :
    ∃ s', run step s lastUnit = some s' ∧ s'.SendmeInTransit ∧ s'.Deadlocked 2 := by
  have hcell : HEADER_SIZE < HEADER_SIZE + 1 := by decide
  have htwo : 2 ≠ 0 := by decide
  have hunit : (1 : Int) ≠ 0 := by decide
  -- thread 1 sees the window and goes up to the lock
  obtain ⟨s₁, hrun₁, hmoved₁⟩ := flushStart_run (s := s) (1, 6) (sampleOutput 6) Nat.one_ne_zero
    (by rw [hs.flushes]; rfl) (by simp [outputBusy, hs.flushes, hs.reader, Flush.stream?, Reader.output?])
    (by rw [hs.reader]; nofun) (hs.output 6) hcell (by rw [hs.streamWindow]; exact hsix)
    (by rw [hs.target, hs.hopWindow]; exact hunit)
  have hflushes₁ : s₁.flushes = [.idle, .lockWait (1, 6), .idle] := by
    rw [hmoved₁.flushes, hs.flushes]
    rfl
  have hreader₁ : s₁.reader = .idle := hmoved₁.reader.trans hs.reader
  rw [hs.target, hs.hopWindow] at hmoved₁
  obtain ⟨htarget₁, hnode₁⟩ := hmoved₁.oneNode hs.target
  have hstream₁ : s₁.streams (1, 7) = s.streams (1, 7) := by
    obtain ⟨stream, hstreams, -⟩ := hmoved₁.streams
    rw [hstreams, update_of_ne (by decide)]
  -- and so does thread 2
  obtain ⟨s₂, hrun₂, hmoved₂⟩ := flushStart_run (s := s₁) (1, 7) (sampleOutput 7) htwo
    (by rw [hflushes₁]; rfl) (by simp [outputBusy, hflushes₁, hreader₁, Flush.stream?, Reader.output?])
    (by rw [hreader₁]; nofun) (by rw [hstream₁]; exact hs.output 7) hcell
    (by rw [hstream₁, hs.streamWindow]; exact hseven) (by rw [htarget₁, hnode₁]; exact hunit)
  have hflushes₂ : s₂.flushes = [.idle, .lockWait (1, 6), .lockWait (1, 7)] := by
    rw [hmoved₂.flushes, hflushes₁]
    rfl
  rw [htarget₁, hnode₁] at hmoved₂
  obtain ⟨htarget₂, hnode₂⟩ := hmoved₂.oneNode htarget₁
  -- thread 1 takes what there is
  obtain ⟨s₃, hrun₃, hmoved₃⟩ := flushEnd_run (s := s₂) (i := 1) Nat.one_ne_zero
    (show s₂.flushes[1]? = some (.lockWait (1, 6)) by rw [hflushes₂]; rfl)
    (by simp [locked, hflushes₂, Flush.lock?]) (by rw [htarget₂, hnode₂]; exact hunit)
  have hflushes₃ : s₃.flushes = [.idle, .idle, .lockWait (1, 7)] := by
    rw [hmoved₃.flushes, hflushes₂]
    rfl
  rw [htarget₂, hnode₂] at hmoved₃
  obtain ⟨htarget₃, hnode₃⟩ := hmoved₃.oneNode htarget₂
  -- thread 2 gets the lock
  have hlock := step_thread.mpr ⟨htwo, Advances.lock
    (show s₃.flushes[2]? = some (.lockWait (1, 7)) by rw [hflushes₃]; rfl)
    (by simp [locked, hflushes₃, Flush.lock?])⟩
  -- the reading thread counts the DATA cell and goes for the lock
  have hincoming₃ : s₃.incoming = [] := by
    rw [hmoved₃.incoming, hmoved₂.incoming, hmoved₁.incoming, hs.incoming]
  have hreader₃ : s₃.reader = .idle := by
    rw [hmoved₃.reader, hmoved₂.reader, hreader₁]
  have husable₃ : s₃.usable 1 = true := by
    rw [hmoved₃.usable, hmoved₂.usable, hmoved₁.usable, hs.usable]
  obtain ⟨node, received, hcount, hhop, -⟩ :=
    strayData_counted (s := s₃.setFlush 2 (.windowWait (1, 7))) (by exact hreader₃) (by exact husable₃)
      (show (s₃.nodes (1, 0)).packageWindow = 0 by rw [hnode₃]; rfl)
      (show (s₃.nodes (1, 0)).deliverWindow = 901 by rw [hnode₃, hnode₂, hnode₁]; exact hs.deliverWindow)
      (by decide) (by decide)
  rw [if_pos rfl] at hcount
  have harrives : (s₃.setFlush 2 (.windowWait (1, 7))).step (.arrives (.relay 1 strayData)) =
      some { s₃.setFlush 2 (.windowWait (1, 7)) with incoming := [.relay 1 strayData] } := by
    simp only [step, setFlush, hincoming₃, List.nil_append]
  have hrun : run step s lastUnit = some _ := run_append.mpr ⟨s₁, hrun₁, run_append.mpr ⟨s₂, hrun₂,
    run_append.mpr ⟨s₃, hrun₃, run_cons.mpr ⟨_, hlock, run_cons.mpr ⟨_, harrives, run_cons.mpr
      ⟨_, hcount, run_cons.mpr ⟨_, rfl, rfl⟩⟩⟩⟩⟩⟩⟩
  refine ⟨_, hrun, ?_, ?_⟩
  · exact ⟨1, sampleSendme, List.mem_append_right _ List.mem_cons_self, rfl⟩
  · refine ⟨(1, 7), strayData, ?_, ?_, rfl⟩
    · show (s₃.flushes.set 2 _)[2]? = _
      rw [hflushes₃]
      rfl
    · show (update s₃.nodes (1, 0) node (s₃.target (1, 7))).packageWindow = 0
      rw [htarget₃, update_self]
      exact hhop

end Threads

end Orchid
