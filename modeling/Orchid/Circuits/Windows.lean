import Orchid.Circuits.SendThreads
import Orchid.Lib.Locks

/-!
# Orchid — what the windows allow

`Books` is what the accounts of the windows depend on: the windows, where the threads are, and the
ledgers. A step of the threads changes the books in one of a few ways (`Books.Step`), most steps not
at all.

* **`step_books`**: every step of the threads is a step of the books, or none.
* **`Balanced`**: every window is what its ledger says, with the units carried by threads between
  taking them and sending; kept by every step of the books (`balanced_step`).
* **`MutuallyExclusive`**: a lock has at most one holder; kept as well (`mutuallyExclusive_step`).
* **`blockedFor_step`**: only a SENDME or an interrupt ends the wait at a window of zero.
-/

namespace Orchid

open RelayCell CreditWindow Locks Function Flush

/-! ## The units that threads carry -/

namespace Flush

/-- The thread has taken one off the window of the stream and not sent yet. -/
def carries (st : StreamId) : Flush → Bool
  | .nodeWait st' | .lockWait st' | .windowWait st' | .sending st' => st' = st
  | .idle | .streamWait _ => false

/-- The thread has taken one off the window of the node and not sent yet. -/
def carriesTo (target : StreamId → HopId) (h : HopId) : Flush → Bool
  | .sending st => target st = h
  | .idle | .streamWait _ | .nodeWait _ | .lockWait _ | .windowWait _ => false

end Flush

/-! ## The books -/

@[ext]
structure Books where
  streamWindow : StreamId → Int
  hopWindow : HopId → Int
  target : StreamId → HopId
  flushes : List Flush
  streamLedger : StreamId → Ledger
  hopLedger : HopId → Ledger

/-- Who changes the books: a thread in the course of its flush, an interrupt, a SENDME, or something
else. -/
inductive Cause where
  | other
  | thread (i : Nat)
  | interrupt (i : Nat)
  | streamSendme (st : StreamId)
  | nodeSendme (h : HopId)
  deriving DecidableEq

namespace Books

/-- What a step can do to the books. -/
inductive Step (b : Books) : Cause → Books → Prop where
  | quiet {cause : Cause} : Step b cause b
  | flush {i : Nat} {st : StreamId} (hi : b.flushes[i]? = some .idle)
      (hfree : Free Flush.stream? b.flushes st) :
      Step b .other { b with flushes := b.flushes.set i (.streamWait st) }
  | takeStream {i : Nat} {st : StreamId} (hi : b.flushes[i]? = some (.streamWait st))
      (hwindow : b.streamWindow st ≠ 0) :
      Step b (.thread i) { b with
        streamWindow := update b.streamWindow st (javaInt (b.streamWindow st - 1))
        streamLedger := update b.streamLedger st (b.streamLedger st).take
        flushes := b.flushes.set i (.nodeWait st) }
  | passNode {i : Nat} {st : StreamId} (hi : b.flushes[i]? = some (.nodeWait st))
      (hwindow : b.hopWindow (b.target st) ≠ 0) :
      Step b (.thread i) { b with flushes := b.flushes.set i (.lockWait st) }
  | lock {i : Nat} {st : StreamId} (hi : b.flushes[i]? = some (.lockWait st))
      (hfree : Free Flush.lock? b.flushes st.1) :
      Step b (.thread i) { b with flushes := b.flushes.set i (.windowWait st) }
  | takeHop {i : Nat} {st : StreamId} (hi : b.flushes[i]? = some (.windowWait st))
      (hwindow : b.hopWindow (b.target st) ≠ 0) :
      Step b (.thread i) { b with
        hopWindow :=
          update b.hopWindow (b.target st) (javaInt (b.hopWindow (b.target st) - 1))
        hopLedger := update b.hopLedger (b.target st) (b.hopLedger (b.target st)).take
        flushes := b.flushes.set i (.sending st) }
  | send {i : Nat} {st : StreamId} (hi : b.flushes[i]? = some (.sending st)) :
      Step b (.thread i) { b with
        streamLedger := update b.streamLedger st (b.streamLedger st).spend
        hopLedger := update b.hopLedger (b.target st) (b.hopLedger (b.target st)).spend
        flushes := b.flushes.set i .idle }
  /-- On a circuit that has ended, nothing is sent. -/
  | unsent {i : Nat} {st : StreamId} (hi : b.flushes[i]? = some (.sending st)) :
      Step b (.thread i) { b with flushes := b.flushes.set i .idle }
  | interrupted {i : Nat} {f : Flush} (hi : b.flushes[i]? = some f) :
      Step b (.interrupt i) { b with flushes := b.flushes.set i .idle }
  | grantStream (st : StreamId) :
      Step b (.streamSendme st) { b with
        streamWindow := update b.streamWindow st (javaInt (b.streamWindow st + 50))
        streamLedger := update b.streamLedger st (b.streamLedger st).grant }
  | grantHop (h : HopId) :
      Step b (.nodeSendme h) { b with
        hopWindow := update b.hopWindow h (javaInt (b.hopWindow h + 100))
        hopLedger := update b.hopLedger h (b.hopLedger h).grant }

/-- Every window is what its ledger says. -/
structure Balanced (b : Books) : Prop where
  stream : ∀ st, Accounts (2 ^ 32) 500 50 (b.streamWindow st) (b.flushes.countP (Flush.carries st))
    (b.streamLedger st)
  hop : ∀ h, Accounts (2 ^ 32) 1000 100 (b.hopWindow h)
    (b.flushes.countP (Flush.carriesTo b.target h)) (b.hopLedger h)

theorem balanced_step {b b' : Books} {cause : Cause} (hb : b.Balanced) (hstep : b.Step cause b') :
    b'.Balanced := by
  have hstream : AccountsAll (2 ^ 32) 500 50 b.streamWindow carries b.flushes b.streamLedger :=
    hb.stream
  have hhop : AccountsAll (2 ^ 32) 1000 100 b.hopWindow (carriesTo b.target) b.flushes b.hopLedger :=
    hb.hop
  cases hstep with
  | quiet => exact hb
  | flush hi _ | passNode hi _ | lock hi _ =>
    exact ⟨hstream.move hi fun _ => rfl, hhop.move hi fun _ => rfl⟩
  | takeStream hi hwindow =>
    exact ⟨hstream.take hi (fun _ => rfl) (fun _ => rfl) hwindow, hhop.move hi fun _ => rfl⟩
  | takeHop hi hwindow =>
    exact ⟨hstream.move hi fun _ => rfl, hhop.take hi (fun _ => rfl) (fun _ => rfl) hwindow⟩
  | send hi =>
    exact ⟨hstream.spend hi (fun _ => rfl) fun _ => rfl, hhop.spend hi (fun _ => rfl) fun _ => rfl⟩
  -- what the thread carried is lost
  | unsent hi | interrupted hi => exact ⟨hstream.lose hi fun _ => rfl, hhop.lose hi fun _ => rfl⟩
  | grantStream st => exact ⟨hstream.grant st, hhop⟩
  | grantHop h => exact ⟨hstream, hhop.grant h⟩

/-- Locks and monitors of output streams have at most one holder. -/
structure MutuallyExclusive (b : Books) : Prop where
  lock : Exclusive Flush.lock? b.flushes
  output : Exclusive Flush.stream? b.flushes

theorem mutuallyExclusive_step {b b' : Books} {cause : Cause} (hb : b.MutuallyExclusive)
    (hstep : b.Step cause b') : b'.MutuallyExclusive := by
  cases hstep with
  | quiet | grantStream | grantHop => exact ⟨hb.lock, hb.output⟩
  | flush hi hfree =>
    refine ⟨hb.lock.set hi nofun, hb.output.set hi fun st hst => Or.inr ?_⟩
    cases hst
    exact hfree
  | lock hi hfree =>
    refine ⟨hb.lock.set hi fun c hc => Or.inr ?_, hb.output.set hi fun st hst => Or.inl hst⟩
    cases hc
    exact hfree
  -- the others go on with what they hold, or let go of it
  | takeStream hi | passNode hi =>
    exact ⟨hb.lock.set hi nofun, hb.output.set hi fun st hst => Or.inl hst⟩
  | takeHop hi =>
    exact ⟨hb.lock.set hi fun c hc => Or.inl hc, hb.output.set hi fun st hst => Or.inl hst⟩
  | send hi | unsent hi | interrupted hi => exact ⟨hb.lock.set hi nofun, hb.output.set hi nofun⟩

/-! ## Threads at a window of zero -/

/-- The thread waits for a window to flush the stream, and the window is zero. -/
def BlockedFor (b : Books) (i : Nat) (st : StreamId) : Prop :=
  (b.flushes[i]? = some (.streamWait st) ∧ b.streamWindow st = 0) ∨
    (b.flushes[i]? = some (.nodeWait st) ∧ b.hopWindow (b.target st) = 0) ∨
    (b.flushes[i]? = some (.windowWait st) ∧ b.hopWindow (b.target st) = 0)

section
variable {b b' : Books} {cause : Cause} {i : Nat} {st : StreamId}

theorem streamWindow_step (hstep : b.Step cause b') (hzero : b.streamWindow st = 0)
    (hcause : cause ≠ .streamSendme st) : b'.streamWindow st = 0 := by
  cases hstep with
  | quiet | flush | passNode | lock | takeHop | send | unsent | interrupted | grantHop => exact hzero
  | @takeStream _ st' _ hwindow =>
    have hst : st ≠ st' := by
      rintro rfl
      exact hwindow hzero
    exact (update_of_ne hst _ _).trans hzero
  | grantStream st' =>
    have hst : st ≠ st' := by
      rintro rfl
      exact hcause rfl
    exact (update_of_ne hst _ _).trans hzero

theorem hopWindow_step {h : HopId} (hstep : b.Step cause b') (hzero : b.hopWindow h = 0)
    (hcause : cause ≠ .nodeSendme h) : b'.hopWindow h = 0 := by
  cases hstep with
  | quiet | flush | takeStream | passNode | lock | send | unsent | interrupted | grantStream =>
    exact hzero
  | @takeHop _ st _ hwindow =>
    have hh : h ≠ b.target st := by
      rintro rfl
      exact hwindow hzero
    exact (update_of_ne hh _ _).trans hzero
  | grantHop h' =>
    have hh : h ≠ h' := by
      rintro rfl
      exact hcause rfl
    exact (update_of_ne hh _ _).trans hzero

theorem target_step (hstep : b.Step cause b') : b'.target = b.target := by
  cases hstep <;> rfl

/-- A thread at a window of zero is moved by an interrupt only. -/
theorem flushes_step_of_blocked (hstep : b.Step cause b') (hblocked : b.BlockedFor i st)
    (hcause : cause ≠ .interrupt i) : b'.flushes[i]? = b.flushes[i]? := by
  have hother : ∀ {j : Nat} {f f' : Flush}, b.flushes[j]? = some f → j ≠ i →
      (b.flushes.set j f')[i]? = b.flushes[i]? := fun _ hne => List.getElem?_set_ne hne
  -- where a thread at a window of zero is not
  have hnot : ∀ {f : Flush}, b.flushes[i]? = some f →
      (∀ st', f = .streamWait st' → b.streamWindow st' = 0) ∧
      (∀ st', f = .nodeWait st' → b.hopWindow (b.target st') = 0) ∧
      (∀ st', f = .windowWait st' → b.hopWindow (b.target st') = 0) ∧
      f ≠ .idle ∧ (∀ st', f ≠ .lockWait st') ∧ (∀ st', f ≠ .sending st') := by
    intro f hf
    rcases hblocked with ⟨hi, hzero⟩ | ⟨hi, hzero⟩ | ⟨hi, hzero⟩
    all_goals
      cases hi.symm.trans hf
      simp [hzero]
  cases hstep with
  | quiet | grantStream | grantHop => rfl
  | flush hj => exact hother hj (by rintro rfl; exact (hnot hj).2.2.2.1 rfl)
  | takeStream hj hwindow => exact hother hj (by rintro rfl; exact hwindow ((hnot hj).1 _ rfl))
  | passNode hj hwindow => exact hother hj (by rintro rfl; exact hwindow ((hnot hj).2.1 _ rfl))
  | lock hj => exact hother hj (by rintro rfl; exact (hnot hj).2.2.2.2.1 _ rfl)
  | takeHop hj hwindow => exact hother hj (by rintro rfl; exact hwindow ((hnot hj).2.2.1 _ rfl))
  | send hj | unsent hj => exact hother hj (by rintro rfl; exact (hnot hj).2.2.2.2.2 _ rfl)
  | interrupted hj => exact hother hj (by rintro rfl; exact hcause rfl)

/-- Only a SENDME or an interrupt ends the wait. -/
theorem blockedFor_step (hstep : b.Step cause b') (hblocked : b.BlockedFor i st)
    (hinterrupt : cause ≠ .interrupt i) (hstream : cause ≠ .streamSendme st)
    (hnode : cause ≠ .nodeSendme (b.target st)) : b'.BlockedFor i st := by
  have hflushes := flushes_step_of_blocked hstep hblocked hinterrupt
  unfold BlockedFor
  rw [hflushes, target_step hstep]
  rcases hblocked with ⟨hi, hzero⟩ | ⟨hi, hzero⟩ | ⟨hi, hzero⟩
  · exact Or.inl ⟨hi, streamWindow_step hstep hzero hstream⟩
  · exact Or.inr (Or.inl ⟨hi, hopWindow_step hstep hzero hnode⟩)
  · exact Or.inr (Or.inr ⟨hi, hopWindow_step hstep hzero hnode⟩)

end

end Books

/-! ## The books of the threads -/

namespace Threads

def books (s : Threads) : Books where
  streamWindow st := (s.streams st).packageWindow
  hopWindow h := (s.nodes h).packageWindow
  target := s.target
  flushes := s.flushes
  streamLedger := s.streamLedger
  hopLedger := s.hopLedger

/-- What makes an event change the books. -/
def cause (s : Threads) : Event → Cause
  | .thread i => .thread i
  | .interrupt i => .interrupt i
  | .reader =>
    match s.reader, s.incoming with
    | .closingFlush _ _ _, _ => if s.flushes[0]? = some .idle then .other else .thread 0
    | .streamWaiting c cell, _ =>
      if cell.relayCommand = RELAY_SENDME ∧ s.openStream c cell then
        .streamSendme (c, cell.streamId)
      else .other
    | .idle, .relay c cell :: _ =>
      if s.usable c ∧ Circuit.dispatch cell.relayCommand = .sendme ∧ cell.streamId = 0 then
        .nodeSendme (c, cell.circuitNode)
      else .other
    | _, _ => .other
  | _ => .other

variable {s s' : Threads} {st : StreamId} {stream : StreamImpl} {c i : Nat}

theorem target_setStream (htarget : stream.targetNode = (s.streams st).targetNode) :
    (s.setStream st stream).target = s.target := by
  funext st'
  show (st'.1, (update s.streams st stream st').targetNode) = _
  by_cases hst : st' = st
  · subst hst
    rw [update_self, htarget]
    rfl
  · rw [update_of_ne hst]
    rfl

theorem books_setStream (htarget : stream.targetNode = (s.streams st).targetNode) :
    (s.setStream st stream).books = { s.books with
      streamWindow := update s.books.streamWindow st stream.packageWindow } := by
  ext1
  · funext st'
    exact apply_update (fun _ x => StreamImpl.packageWindow x) s.streams st stream st'
  · rfl
  · exact target_setStream htarget
  all_goals rfl

/-- A stream changes, and its window does not. -/
theorem books_setStream_same (htarget : stream.targetNode = (s.streams st).targetNode)
    (hwindow : stream.packageWindow = (s.streams st).packageWindow) :
    (s.setStream st stream).books = s.books := by
  rw [books_setStream htarget, hwindow]
  exact congrArg (fun w => { s.books with streamWindow := w })
    (update_eq_self st s.books.streamWindow)

theorem books_setNode (s : Threads) (h : HopId) (node : CircuitNode) :
    (s.setNode h node).books = { s.books with
      hopWindow := update s.books.hopWindow h node.packageWindow } := by
  ext1
  · rfl
  · funext h'
    exact apply_update (fun _ x => CircuitNode.packageWindow x) s.nodes h node h'
  all_goals rfl

theorem books_setFlush (s : Threads) (i : Nat) (f : Flush) :
    (s.setFlush i f).books = { s.books with flushes := s.flushes.set i f } := rfl

theorem free_of_unlocked (hfree : s.locked c = false) : Free lock? s.flushes c := by
  intro f hf hlock
  have hheld : s.locked c = true := List.any_eq_true.mpr ⟨f, hf, decide_eq_true hlock⟩
  cases hfree.symm.trans hheld

theorem free_of_not_busy (hfree : s.outputBusy st = false) : Free stream? s.flushes st := by
  intro f hf hstream
  have hbusy : s.outputBusy st = true := by
    unfold outputBusy
    rw [List.any_eq_true.mpr ⟨f, hf, decide_eq_true hstream⟩, Bool.true_or]
  cases hfree.symm.trans hbusy

theorem Advances.books (hadvances : s.Advances i s') : s.books.Step (.thread i) s'.books := by
  cases hadvances with
  | takeStream hi _ hwindow =>
    rw [books_setFlush, books_setStream (by exact rfl)]
    exact .takeStream hi hwindow
  | passNode hi hwindow => exact .passNode hi hwindow
  | lock hi hfree => exact .lock hi (free_of_unlocked hfree)
  | takeHop hi hwindow =>
    rw [books_setFlush, books_setNode]
    exact .takeHop hi hwindow
  | @send st hi =>
    by_cases husable : s.usable st.1 = true
    · rw [if_pos husable, books_setFlush, books_setStream_same (by exact rfl) (by exact rfl)]
      exact .send hi
    · rw [if_neg husable, books_setFlush, books_setStream_same (by exact rfl) (by exact rfl)]
      exact .unsent hi

theorem Advances.not_idle (hadvances : s.Advances i s') : s.flushes[i]? ≠ some .idle := by
  cases hadvances with
  | takeStream hi | passNode hi | lock hi | takeHop hi | send hi => simp [hi]

/-- Only the thread that advances is moved. -/
theorem Advances.moves (hadvances : s.Advances i s') :
    s'.reader = s.reader ∧ ∃ f, s'.flushes = s.flushes.set i f := by
  cases hadvances with
  | takeStream | passNode | lock | takeHop => exact ⟨rfl, _, rfl⟩
  | @send st =>
    by_cases husable : s.usable st.1 = true
    · rw [if_pos husable]
      exact ⟨rfl, _, rfl⟩
    · rw [if_neg husable]
      exact ⟨rfl, _, rfl⟩

/-- The reading thread flushes only while it closes an output stream. -/
def ReaderReady (s : Threads) : Prop :=
  (∃ c n todo, s.reader = .closingFlush c n todo) ∨ s.flushes[0]? = some .idle

/-- Wherever else the reading thread is, as a sender it is idle. -/
theorem ReaderReady.idle {r : Reader} (hready : s.ReaderReady) (hreader : s.reader = r)
    (hother : ∀ c n todo, r ≠ .closingFlush c n todo) : s.flushes[0]? = some .idle := by
  rcases hready with ⟨c, n, todo, hflush⟩ | hidle
  · exact absurd (hreader.symm.trans hflush) (hother c n todo)
  · exact hidle

theorem addInputCell_books (s : Threads) {cell : RelayCell}
    (hreader : s.reader = .streamWaiting c cell) (hopen : s.openStream c cell = true) :
    s.books.Step (s.cause .reader) (s.addInputCell c cell).books := by
  unfold addInputCell
  dsimp only
  split
  · exact .quiet
  · rename_i stream happly
    have htarget := (StreamImpl.applyCell_noted happly).targetNode
    have hwindow := (StreamImpl.applyCell_noted happly).packageWindow
    by_cases hsendme : cell.relayCommand = RELAY_SENDME
    · have hcause : s.cause .reader = .streamSendme (c, cell.streamId) := by
        simp only [cause, hreader, hsendme, hopen, and_self, if_true]
      rw [if_pos hsendme] at hwindow
      rw [hcause, if_pos hsendme]
      show s.books.Step _ { (s.setStream (c, cell.streamId) stream).books with
        streamLedger := update s.streamLedger (c, cell.streamId)
          (s.streamLedger (c, cell.streamId)).grant }
      rw [books_setStream htarget, hwindow]
      exact .grantStream (c, cell.streamId)
    · rw [if_neg hsendme] at hwindow
      rw [if_neg hsendme]
      show s.books.Step _ (s.setStream (c, cell.streamId) stream).books
      rw [books_setStream_same htarget hwindow]
      exact .quiet

/-- Counting a DATA cell changes a node on the receiving side only. -/
theorem countDataCell_books (s : Threads) (c : Nat) (cell : RelayCell) :
    (s.countDataCell c cell).books = s.books := by
  have hwindow : ∀ node : CircuitNode,
      node.decrementDeliverWindow.considerSendingSendme.2.packageWindow = node.packageWindow := by
    intro node
    unfold CircuitNode.considerSendingSendme
    split <;> rfl
  show (s.setNode (c, cell.circuitNode)
    (s.nodes (c, cell.circuitNode)).decrementDeliverWindow.considerSendingSendme.2).books = s.books
  rw [books_setNode, hwindow]
  exact congrArg (fun w => { s.books with hopWindow := w }) (update_eq_self _ s.books.hopWindow)

theorem acknowledge_books (s : Threads) (h : HopId) : (s.acknowledge h).books = s.books := by
  unfold acknowledge
  split <;> rfl

theorem closeOutput_books (s : Threads) {n : Nat} (todo : List Nat)
    (hidle : s.flushes[0]? = some .idle) (hfree : s.outputBusy (c, n) = false) :
    s.books.Step .other (s.closeOutput c n todo).books := by
  unfold closeOutput
  split
  · exact .quiet
  · split
    · exact .flush hidle (free_of_not_busy hfree)
    · rw [books_setStream_same (by exact rfl) (by exact rfl)]
      exact .quiet

theorem Reads.books (hready : s.ReaderReady) (hreads : s.Reads s') :
    s.books.Step (s.cause .reader) s'.books := by
  cases hreads with
  | ignored | toStream | destroy | noStream | consider | destroyed | skipStream | leave =>
    exact .quiet
  | data =>
    rw [countDataCell_books]
    exact .quiet
  | @sendme c cell rest hreader hincoming husable hsendme hcircuit =>
    have hcause : s.cause .reader = .nodeSendme (c, cell.circuitNode) := by
      simp only [cause, hreader, hincoming, husable, hsendme, hcircuit, and_self, if_true]
    rw [hcause]
    show s.books.Step _ { (s.setNode (c, cell.circuitNode)
      (s.nodes (c, cell.circuitNode)).incrementSendWindow).books with
        hopLedger := update s.hopLedger (c, cell.circuitNode)
          (s.hopLedger (c, cell.circuitNode)).grant }
    rw [books_setNode]
    exact .grantHop (c, cell.circuitNode)
  | @acknowledge c cell =>
    show s.books.Step _ (s.acknowledge (c, cell.circuitNode)).books
    rw [acknowledge_books]
    exact .quiet
  | addInput hreader hopen => exact addInputCell_books s hreader hopen
  | acknowledgeStream | closeStream | flushed =>
    rw [books_setStream_same (by exact rfl) (by exact rfl)]
    exact .quiet
  | @closeOutput c n todo hreader hfree =>
    have hcause : s.cause .reader = .other := by simp only [cause, hreader]
    rw [hcause]
    exact closeOutput_books s todo (hready.idle hreader nofun) hfree
  | flush hreader hadvances =>
    have hcause : s.cause .reader = .thread 0 := by
      simp only [cause, hreader, hadvances.not_idle, if_false]
    rw [hcause]
    exact hadvances.books

/-- **Every step is a step of the books.** -/
theorem step_books {e : Event} (hready : s.ReaderReady) (hstep : s.step e = some s') :
    s.books.Step (s.cause e) s'.books := by
  cases e with
  | write st cell | closeOutput st =>
    obtain ⟨-, hstep⟩ := Option.ite_none_right_eq_some.mp hstep
    cases hstep
    rw [books_setStream_same (by exact rfl) (by exact rfl)]
    exact .quiet
  | flush i st =>
    obtain ⟨⟨-, hi, -, hfree, -⟩, hstep⟩ := Option.ite_none_right_eq_some.mp hstep
    cases hstep
    exact .flush hi (free_of_not_busy (by simpa using hfree))
  | thread i =>
    exact (step_thread.mp hstep).2.books
  | interrupt i =>
    obtain ⟨-, f, hi, rfl⟩ := step_interrupt hstep
    exact .interrupted hi
  | read st size off len | closeStream st =>
    cases hstep
    rw [books_setStream_same (by exact rfl) (by exact rfl)]
    exact .quiet
  | arrives arriving | circuitEnds c =>
    cases hstep
    exact .quiet
  | reader => exact (reads_of_step hstep).books hready
  | removeStream st =>
    obtain ⟨-, hstep⟩ := Option.ite_none_right_eq_some.mp hstep
    cases hstep
    exact .quiet

theorem readerReady_of_set {f : Flush} (hi : i ≠ 0) (hready : s.ReaderReady)
    (hreader : s'.reader = s.reader) (hflushes : s'.flushes = s.flushes.set i f) :
    s'.ReaderReady := by
  unfold ReaderReady at hready ⊢
  rw [hreader, hflushes, List.getElem?_set_ne hi]
  exact hready

theorem Reads.ready (hready : s.ReaderReady) (hreads : s.Reads s') : s'.ReaderReady := by
  cases hreads with
  | ignored hreader | toStream hreader | noStream hreader | consider hreader
  | acknowledgeStream hreader | destroyed hreader | skipStream hreader | closeStream hreader
  | data hreader | sendme hreader | destroy hreader | leave hreader =>
    exact Or.inr (hready.idle hreader nofun)
  | @acknowledge c cell hreader =>
    refine Or.inr ?_
    show (s.acknowledge (c, cell.circuitNode)).books.flushes[0]? = some .idle
    rw [acknowledge_books]
    exact hready.idle hreader nofun
  | @addInput c cell hreader =>
    refine Or.inr ?_
    have hflushes : (s.addInputCell c cell).flushes = s.flushes := by
      unfold Threads.addInputCell
      dsimp only
      split <;> rfl
    rw [hflushes]
    exact hready.idle hreader nofun
  | @closeOutput c n todo hreader =>
    have hbefore := hready.idle hreader nofun
    unfold Threads.closeOutput
    split
    · exact Or.inr hbefore
    · split
      · exact Or.inl ⟨c, n, todo, rfl⟩
      · exact Or.inr hbefore
  | flush hreader hadvances => exact Or.inl ⟨_, _, _, hadvances.moves.1.trans hreader⟩
  | flushed _ hfree => exact Or.inr hfree

theorem readerReady_step {e : Event} (hready : s.ReaderReady) (hstep : s.step e = some s') :
    s'.ReaderReady := by
  cases e with
  | flush i st =>
    obtain ⟨⟨hi, -⟩, hstep⟩ := Option.ite_none_right_eq_some.mp hstep
    cases hstep
    exact readerReady_of_set hi hready rfl rfl
  | thread i =>
    obtain ⟨hne, hadvances⟩ := step_thread.mp hstep
    obtain ⟨hreader, f, hflushes⟩ := hadvances.moves
    exact readerReady_of_set hne hready hreader hflushes
  | interrupt i =>
    obtain ⟨hne, f, -, rfl⟩ := step_interrupt hstep
    exact readerReady_of_set hne hready rfl rfl
  | reader => exact (reads_of_step hstep).ready hready
  | write st cell | closeOutput st | removeStream st =>
    obtain ⟨-, hstep⟩ := Option.ite_none_right_eq_some.mp hstep
    cases hstep
    exact hready
  | read st size off len | arrives arriving | closeStream st | circuitEnds c =>
    cases hstep
    exact hready

theorem readerReady_run {es : List Event} (hready : s.ReaderReady)
    (hrun : Runs.run step s es = some s') : s'.ReaderReady :=
  Runs.invariant (G := fun _ _ => True) (fun _ _ _ h _ hstep => readerReady_step h hstep) hready
    (Runs.meets_of_forall (fun _ _ => trivial) s es) hrun

end Threads

end Orchid
