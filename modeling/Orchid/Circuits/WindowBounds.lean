import Orchid.Circuits.Backward
import Orchid.Circuits.Windows

/-!
# Orchid — bounds on what is sent and acknowledged

The sending side follows from the books. The receiving side is one thread's work: it takes one off the
delivery window of a node for each DATA cell, and when a hundred are gone it puts them back and
owes the node a SENDME. `Receipts` is what this depends on.

* `Receipts.Settled`: the delivery window counts the cells since the last SENDME.
* **`windows_accounted`**: in every state of every run no more is sent than the windows were granted,
  a window is its credit as a Java `int`, and a SENDME is sent for every hundred cells.

A window is negative only if its credit has left the range of an `int`: nothing refuses a SENDME that
was not due, so a peer that sends enough of them gets there (`unrefused_sendmes`).
-/

namespace Orchid

open RelayCell CreditWindow Function

/-! ## Receiving -/

/-- The SENDME that is due. -/
def Reader.owed : Reader → Option HopId
  | .ackWaiting c cell => some (c, cell.circuitNode)
  | .idle | .streamWaiting _ _ | .considering _ | .streamAckWaiting _ | .destroying _ _
  | .closingOutput _ _ _ | .closingFlush _ _ _ | .leaving _ _ _ => none

@[ext]
structure Receipts where
  window : HopId → Int
  received : HopId → Nat
  acknowledged : HopId → Nat
  unsent : HopId → Nat
  owed : Option HopId

namespace Receipts

/-- What a step can do to the receipts. -/
inductive Step (r : Receipts) : Receipts → Prop where
  | quiet : Step r r
  /-- A DATA cell, and no SENDME is due. -/
  | counted (h : HopId) (howed : r.owed = none) (hwindow : ¬ javaInt (r.window h - 1) ≤ 900) :
      Step r { r with
        window := update r.window h (javaInt (r.window h - 1))
        received := update r.received h (r.received h + 1) }
  /-- A DATA cell for which a SENDME is due. -/
  | credited (h : HopId) (howed : r.owed = none) (hwindow : javaInt (r.window h - 1) ≤ 900) :
      Step r { r with
        window := update r.window h (javaInt (javaInt (r.window h - 1) + 100))
        received := update r.received h (r.received h + 1)
        owed := some h }
  | sent (h : HopId) (howed : r.owed = some h) :
      Step r { r with
        acknowledged := update r.acknowledged h (r.acknowledged h + 1)
        owed := none }
  | unsent (h : HopId) (howed : r.owed = some h) :
      Step r { r with
        unsent := update r.unsent h (r.unsent h + 1)
        owed := none }

structure Settled (r : Receipts) : Prop where
  window : ∀ h, r.window h = 1000 - ((r.received h % 100 : Nat) : Int)
  acknowledged : ∀ h, r.acknowledged h + r.unsent h + (if r.owed = some h then 1 else 0) =
    r.received h / 100

theorem settled_step {r r' : Receipts} (hr : r.Settled) (hstep : r.Step r') : r'.Settled := by
  cases hstep with
  | quiet => exact hr
  | counted h howed hwindow =>
    have hbefore := hr.window h
    have hexact : javaInt (r.window h - 1) = r.window h - 1 :=
      javaInt_of_range (by omega) (by omega)
    rw [hexact] at hwindow
    constructor
    · intro h'
      dsimp only
      rcases eq_or_ne h' h with rfl | hh
      · rw [update_self, update_self, hexact]
        omega
      · rw [update_of_ne hh, update_of_ne hh]
        exact hr.window h'
    · intro h'
      have hacks := hr.acknowledged h'
      dsimp only
      rcases eq_or_ne h' h with rfl | hh
      · rw [update_self]
        omega
      · rw [update_of_ne hh]
        exact hacks
  | credited h howed hwindow =>
    have hbefore := hr.window h
    have hexact : javaInt (r.window h - 1) = r.window h - 1 :=
      javaInt_of_range (by omega) (by omega)
    rw [hexact] at hwindow
    have hcredit : javaInt (r.window h - 1 + 100) = r.window h - 1 + 100 :=
      javaInt_of_range (by omega) (by omega)
    constructor
    · intro h'
      dsimp only
      rcases eq_or_ne h' h with rfl | hh
      · rw [update_self, update_self, hexact, hcredit]
        omega
      · rw [update_of_ne hh, update_of_ne hh]
        exact hr.window h'
    · intro h'
      have hacks := hr.acknowledged h'
      rw [howed, if_neg (by simp)] at hacks
      dsimp only
      rcases eq_or_ne h' h with rfl | hh
      · rw [update_self, if_pos rfl]
        omega
      · rw [update_of_ne hh, if_neg (by simpa using Ne.symm hh)]
        exact hacks
  | sent h howed | unsent h howed =>
    refine ⟨hr.window, fun h' => ?_⟩
    have hacks := hr.acknowledged h'
    rw [howed] at hacks
    dsimp only
    rcases eq_or_ne h' h with rfl | hh
    · rw [if_pos rfl] at hacks
      rw [update_self, if_neg (by simp)]
      omega
    · rw [if_neg (by simpa using Ne.symm hh)] at hacks
      rw [update_of_ne hh, if_neg (by simp)]
      exact hacks

end Receipts

theorem CircuitNode.considerSendingSendme_counted (node : CircuitNode) :
    node.decrementDeliverWindow.considerSendingSendme =
      if javaInt (node.deliverWindow - 1) ≤ 900 then
        (true, { node with deliverWindow := javaInt (javaInt (node.deliverWindow - 1) + 100) })
      else (false, { node with deliverWindow := javaInt (node.deliverWindow - 1) }) := rfl

namespace Threads

variable {s s' : Threads}

def receipts (s : Threads) : Receipts where
  window h := (s.nodes h).deliverWindow
  received := s.received
  acknowledged := s.acknowledged
  unsent := s.unsent
  owed := s.reader.owed

/-- A node changes, and its delivery window does not. -/
theorem receipts_setNode_same {h : HopId} {node : CircuitNode}
    (hwindow : node.deliverWindow = (s.nodes h).deliverWindow) :
    (s.setNode h node).receipts = s.receipts := by
  ext1
  · funext h'
    show (update s.nodes h node h').deliverWindow = (s.nodes h').deliverWindow
    rcases eq_or_ne h' h with rfl | hh
    · rw [update_self, hwindow]
    · rw [update_of_ne hh]
  all_goals rfl

/-- The reading thread goes on with nothing counted, and no SENDME due before or after. -/
theorem receipts_quiet {reader : Reader} (hreader : s.reader = reader) (hbefore : reader.owed = none)
    (hafter : s'.reader.owed = none) (hnodes : s'.nodes = s.nodes)
    (hreceived : s'.received = s.received) (hacknowledged : s'.acknowledged = s.acknowledged)
    (hunsent : s'.unsent = s.unsent) : s.receipts.Step s'.receipts := by
  have hsame : s'.receipts = s.receipts := by
    ext1
    case window => exact congrArg (fun nodes h => CircuitNode.deliverWindow (nodes h)) hnodes
    case received => exact hreceived
    case acknowledged => exact hacknowledged
    case unsent => exact hunsent
    case owed =>
      show s'.reader.owed = s.reader.owed
      rw [hafter, hreader, hbefore]
  rw [hsame]
  exact .quiet

theorem Advances.receipts {i : Nat} (hadvances : s.Advances i s') : s'.receipts = s.receipts := by
  cases hadvances with
  | takeStream | passNode | lock => rfl
  | @takeHop st => exact receipts_setNode_same (s := s) (h := s.target st) rfl
  | @send st =>
    by_cases husable : s.usable st.1 = true
    · rw [if_pos husable]
      rfl
    · rw [if_neg husable]
      rfl

theorem countDataCell_receipts (s : Threads) (c : Nat) (cell : RelayCell)
    (howed : s.reader.owed = none) : s.receipts.Step (s.countDataCell c cell).receipts := by
  have hnode : ∀ (h : HopId) (node : CircuitNode),
      (fun h' => (update s.nodes h node h').deliverWindow) =
        update s.receipts.window h node.deliverWindow := fun h node =>
    funext fun h' => apply_update (fun _ x => CircuitNode.deliverWindow x) s.nodes h node h'
  by_cases hdue : javaInt ((s.nodes (c, cell.circuitNode)).deliverWindow - 1) ≤ 900
  · have hreceipts : (s.countDataCell c cell).receipts = { s.receipts with
        window := update s.receipts.window (c, cell.circuitNode)
          (javaInt (javaInt (s.receipts.window (c, cell.circuitNode) - 1) + 100))
        received := update s.received (c, cell.circuitNode) (s.received (c, cell.circuitNode) + 1)
        owed := some (c, cell.circuitNode) } := by
      unfold countDataCell
      dsimp only
      rw [CircuitNode.considerSendingSendme_counted, if_pos hdue]
      ext1
      case window => exact hnode _ _
      all_goals rfl
    rw [hreceipts]
    exact .credited (c, cell.circuitNode) howed hdue
  · have hreceipts : (s.countDataCell c cell).receipts = { s.receipts with
        window := update s.receipts.window (c, cell.circuitNode)
          (javaInt (s.receipts.window (c, cell.circuitNode) - 1))
        received := update s.received (c, cell.circuitNode)
          (s.received (c, cell.circuitNode) + 1) } := by
      unfold countDataCell
      dsimp only
      rw [CircuitNode.considerSendingSendme_counted, if_neg hdue]
      ext1
      case window => exact hnode _ _
      case owed => exact howed.symm
      all_goals rfl
    rw [hreceipts]
    exact .counted (c, cell.circuitNode) howed hdue

theorem acknowledge_receipts (s : Threads) {c : Nat} {cell : RelayCell}
    (hreader : s.reader = .ackWaiting c cell) :
    s.receipts.Step { s.acknowledge (c, cell.circuitNode) with
      reader := .streamWaiting c cell }.receipts := by
  have howed : s.receipts.owed = some (c, cell.circuitNode) := by
    show s.reader.owed = _
    rw [hreader]
    rfl
  unfold acknowledge
  split
  · exact .sent (c, cell.circuitNode) howed
  · exact .unsent (c, cell.circuitNode) howed

theorem Reads.receipts (hreads : s.Reads s') : s.receipts.Step s'.receipts := by
  cases hreads with
  | ignored => exact .quiet
  | toStream hreader | destroy hreader | noStream hreader | acknowledgeStream hreader
  | destroyed hreader | skipStream hreader | closeStream hreader | flushed hreader | leave hreader =>
    exact receipts_quiet hreader rfl rfl rfl rfl rfl rfl
  | data hreader =>
    refine countDataCell_receipts { s with incoming := _ } _ _ ?_
    show s.reader.owed = none
    rw [hreader]
    rfl
  | @sendme c cell rest =>
    have hsame : ({ s with incoming := rest }.processCircuitSendme c cell).receipts = s.receipts :=
      receipts_setNode_same (s := s) (h := (c, cell.circuitNode)) rfl
    rw [hsame]
    exact .quiet
  | acknowledge hreader => exact acknowledge_receipts s hreader
  | @addInput c cell hreader =>
    unfold Threads.addInputCell
    dsimp only
    split
    · exact receipts_quiet hreader rfl rfl rfl rfl rfl rfl
    · refine receipts_quiet hreader rfl ?_ rfl rfl rfl rfl
      dsimp only
      split <;> rfl
  | consider hreader =>
    refine receipts_quiet hreader rfl ?_ rfl rfl rfl rfl
    split <;> rfl
  | @closeOutput c n todo hreader =>
    unfold Threads.closeOutput
    split
    · exact receipts_quiet hreader rfl rfl rfl rfl rfl rfl
    · split
      · exact receipts_quiet hreader rfl rfl rfl rfl rfl rfl
      · exact receipts_quiet hreader rfl rfl rfl rfl rfl rfl
  | flush _ hadvances =>
    rw [hadvances.receipts]
    exact .quiet

theorem step_receipts {e : Event} (hstep : s.step e = some s') : s.receipts.Step s'.receipts := by
  cases e with
  | thread i =>
    rw [(step_thread.mp hstep).2.receipts]
    exact .quiet
  | interrupt i =>
    obtain ⟨-, f, -, rfl⟩ := step_interrupt hstep
    exact .quiet
  | reader => exact (reads_of_step hstep).receipts
  | write st cell | flush i st | closeOutput st | removeStream st =>
    obtain ⟨-, hstep⟩ := Option.ite_none_right_eq_some.mp hstep
    cases hstep
    exact .quiet
  | read st size off len | arrives arriving | closeStream st | circuitEnds c =>
    cases hstep
    exact .quiet

/-! ## Every run -/

/-- The bounds that the windows are for. -/
structure Accounted (s : Threads) : Prop where
  sentTo : ∀ h, (s.hopLedger h).spent ≤ 1000 + 100 * (s.hopLedger h).granted
  sentOn : ∀ st, (s.streamLedger st).spent ≤ 500 + 50 * (s.streamLedger st).granted
  /-- A window is its credit, and so not negative, while that is in the range of an `int`. -/
  hopWindow : ∀ h, (s.nodes h).packageWindow = javaInt ((s.hopLedger h).credit 1000 100) ∧
    ((s.hopLedger h).credit 1000 100 < 2 ^ 31 → 0 ≤ (s.nodes h).packageWindow)
  streamWindow : ∀ st, (s.streams st).packageWindow = javaInt ((s.streamLedger st).credit 500 50) ∧
    ((s.streamLedger st).credit 500 50 < 2 ^ 31 → 0 ≤ (s.streams st).packageWindow)
  deliverWindow : ∀ h, 901 ≤ (s.nodes h).deliverWindow ∧ (s.nodes h).deliverWindow ≤ 1000
  /-- Once the DATA cell is processed. -/
  acknowledged : s.reader.owed = none → ∀ h, s.acknowledged h + s.unsent h = s.received h / 100

/-- A window that is a Java `int`. -/
theorem int_window {start increment carried : Nat} {window : Int} {l : Ledger}
    (h : Accounts (2 ^ 32) start increment window carried l) :
    window = javaInt (l.credit start increment) ∧
      (l.credit start increment < 2 ^ 31 → 0 ≤ window) := by
  refine ⟨h.window_eq, fun hrange => ?_⟩
  have hmodulus : ((2 ^ 32 : Nat) : Int) = 4294967296 := by decide
  rw [h.window_of_lt (by omega)]
  exact h.credit_nonneg

theorem accounted_of_books (hbooks : s.books.Balanced) (hreceipts : s.receipts.Settled) :
    s.Accounted where
  sentTo h := (hbooks.hop h).spent_le
  sentOn st := (hbooks.stream st).spent_le
  hopWindow h := int_window (hbooks.hop h)
  streamWindow st := int_window (hbooks.stream st)
  deliverWindow h := by
    have hwindow : (s.nodes h).deliverWindow = _ := hreceipts.window h
    omega
  acknowledged howed h := by
    have hacks := hreceipts.acknowledged h
    rw [show s.receipts.owed = none from howed, if_neg (by simp)] at hacks
    exact hacks

/-- What holds of the books and receipts in every run. -/
structure Sound (s : Threads) : Prop where
  ready : s.ReaderReady
  books : s.books.Balanced
  exclusive : s.books.MutuallyExclusive
  receipts : s.receipts.Settled

theorem sound_start (nodes : HopId → CircuitNode) (targetNode : StreamId → Nat)
    (autoclose : StreamId → Bool) (streamMap : Nat → List Nat) (writers : Nat) :
    (start nodes targetNode autoclose streamMap writers).Sound := by
  have hcarried : ∀ p : Flush → Bool, p .idle = false →
      (List.replicate (writers + 1) Flush.idle).countP p = 0 := by
    intro p hp
    rw [List.countP_replicate, hp, if_neg Bool.false_ne_true]
  have hidle : ∀ f ∈ List.replicate (writers + 1) Flush.idle, f = .idle := fun f hf =>
    List.eq_of_mem_replicate hf
  refine ⟨Or.inr ?_, ⟨fun st => ?_, fun h => ?_⟩, ⟨?_, ?_⟩, ⟨fun h => ?_, fun h => ?_⟩⟩
  · exact List.getElem?_replicate_of_lt (Nat.zero_lt_succ writers)
  · show Accounts _ _ _ _ ((List.replicate (writers + 1) Flush.idle).countP _) _
    rw [hcarried _ rfl]
    exact accounts_start (2 ^ 32) 500 50
  · show Accounts _ _ _ _ ((List.replicate (writers + 1) Flush.idle).countP _) _
    rw [hcarried _ rfl]
    exact accounts_start (2 ^ 32) 1000 100
  · exact Locks.exclusive_of_free fun c f hf hlock => by rw [hidle f hf] at hlock; cases hlock
  · exact Locks.exclusive_of_free fun st f hf hstream => by rw [hidle f hf] at hstream; cases hstream
  · rfl
  · show 0 + 0 + (if (none : Option HopId) = some h then 1 else 0) = 0 / 100
    rw [if_neg (by simp)]

theorem sound_step {e : Event} (hs : s.Sound) (hstep : s.step e = some s') : s'.Sound :=
  ⟨readerReady_step hs.ready hstep, Books.balanced_step hs.books (step_books hs.ready hstep),
    Books.mutuallyExclusive_step hs.exclusive (step_books hs.ready hstep),
    Receipts.settled_step hs.receipts (step_receipts hstep)⟩

theorem sound_run {es : List Event} (hs : s.Sound) (hrun : Runs.run step s es = some s') :
    s'.Sound :=
  Runs.invariant (G := fun _ _ => True) (fun _ _ _ h _ hstep => sound_step h hstep) hs
    (Runs.meets_of_forall (fun _ _ => trivial) s es) hrun

/-- **What is sent is bounded, and what is received acknowledged**, for any nodes and streams, any
number of threads, and in every order of their steps. -/
theorem windows_accounted (nodes : HopId → CircuitNode) (targetNode : StreamId → Nat)
    (autoclose : StreamId → Bool) (streamMap : Nat → List Nat) (writers : Nat) (es : List Event)
    (s : Threads)
    (hrun : Runs.run step (start nodes targetNode autoclose streamMap writers) es = some s) :
    s.Accounted := by
  have hsound := sound_run (sound_start nodes targetNode autoclose streamMap writers) hrun
  exact accounted_of_books hsound.books hsound.receipts

/-! ## An example -/

/-- New streams 5, 6 and 7 on circuit 1, all of them ending at its first node. -/
def sampleThreads (writers : Nat) : Threads :=
  start (fun _ => sampleNode 1) (fun _ => 0) (fun _ => false)
    (fun c => if c = 1 then [5, 6, 7] else []) writers

/-- A cell with a byte of data, as an output stream keeps it. -/
def sampleOutput (n : Nat) : RelayCell :=
  { RelayCell.create 0 1 n RELAY_DATA false with position := HEADER_SIZE + 1 }

/-- Thread `i` flushes stream `n` of circuit 1 up to the end. -/
def flushAll (i n : Nat) : List Event :=
  [.write (1, n) (sampleOutput n), .flush i (1, n), .thread i, .thread i, .thread i, .thread i,
    .thread i]

/-- A SENDME from the first node. -/
def sampleSendme : RelayCell := RelayCell.create 0 1 0 RELAY_SENDME false

def sendmes : Nat → List Event
  | 0 => []
  | n + 1 => .arrives (.relay 1 sampleSendme) :: .reader :: sendmes n

/-- Two threads, one after the other, and a SENDME. -/
theorem two_writers_accounted :
    ∃ s, Runs.run step (sampleThreads 2) (flushAll 1 5 ++ flushAll 2 6 ++ sendmes 1) = some s ∧
      s.Accounted := by
  have hruns : (Runs.run step (sampleThreads 2)
      (flushAll 1 5 ++ flushAll 2 6 ++ sendmes 1)).isSome = true := by
    decide +kernel
  obtain ⟨s, hrun⟩ := Option.isSome_iff_exists.mp hruns
  exact ⟨s, hrun, windows_accounted (fun _ => sampleNode 1) (fun _ => 0) (fun _ => false)
    (fun c => if c = 1 then [5, 6, 7] else []) 2 _ s hrun⟩

theorem sendmes_run (n : Nat) (hreader : s.reader = .idle) (hincoming : s.incoming = [])
    (husable : s.usable 1 = true) :
    ∃ s', Runs.run step s (sendmes n) = some s' ∧
      s'.hopLedger (1, 0) = { s.hopLedger (1, 0) with
        granted := (s.hopLedger (1, 0)).granted + n } := by
  induction n generalizing s with
  | zero => exact ⟨s, rfl, rfl⟩
  | succ n ih =>
    have hread : { s with incoming := [.relay 1 sampleSendme] }.readerStep =
        some ({ s with incoming := [] }.processCircuitSendme 1 sampleSendme) := by
      rw [readerStep_idle (by exact hreader)
        (show [Arriving.relay 1 sampleSendme] = Arriving.relay 1 sampleSendme :: [] from rfl)]
      unfold deliver
      dsimp only
      rw [if_pos husable]
      rfl
    obtain ⟨s', hrun, hledger⟩ := ih
      (s := { s with incoming := [] }.processCircuitSendme 1 sampleSendme) hreader rfl husable
    refine ⟨s', ?_, ?_⟩
    · refine Runs.run_cons.mpr ⟨{ s with incoming := [.relay 1 sampleSendme] }, ?_,
        Runs.run_cons.mpr ⟨_, hread, hrun⟩⟩
      simp only [step, hincoming, List.nil_append]
    · rw [hledger]
      show ({ update s.hopLedger (1, 0) (s.hopLedger (1, 0)).grant (1, 0) with
        granted := (update s.hopLedger (1, 0) (s.hopLedger (1, 0)).grant (1, 0)).granted + n }
        : Ledger) = _
      rw [update_self]
      simp only [Ledger.grant, Ledger.mk.injEq, and_self, and_true]
      omega

/-- SENDMEs that nothing was sent for drive a window out of the range of an `int`. -/
theorem unrefused_sendmes :
    ∃ s, Runs.run step (sampleThreads 0) (sendmes 21474827) = some s ∧
      (s.nodes (1, 0)).packageWindow < 0 := by
  obtain ⟨s, hrun, hledger⟩ := sendmes_run (s := sampleThreads 0) 21474827 rfl rfl rfl
  have hsound := sound_run (sound_start _ _ _ _ 0) hrun
  have hwindow := ((accounted_of_books hsound.books hsound.receipts).hopWindow (1, 0)).1
  have hcredit : (s.hopLedger (1, 0)).credit 1000 100 = 2147483700 := by
    rw [hledger]
    rfl
  refine ⟨s, hrun, ?_⟩
  rw [hwindow, hcredit]
  decide

end Threads

end Orchid
