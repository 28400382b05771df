import Mathlib
import Orchid.Circuits.CircuitIO
import Orchid.Lib.CreditWindow
import Orchid.Lib.Runs

/-!
# Orchid — threads that send and the thread that reads

Any number of threads write to streams of any number of circuits, while the reading thread of the
connection delivers what arrives. A `flush` is not one step: it waits for the window of the stream
and takes one off it, waits for the window of the target node without taking anything, waits for
`relaySendLock`, waits for the node's window a second time, now holding the lock, takes one off it,
and then hands the cell to the connection. Other threads run in between.

Who holds a lock is read off where the threads are:

* `relaySendLock` of a circuit (`locked`): a thread between taking the lock and handing over.
* `streamLock` of a circuit (`streamLocked`): the reading thread, while it adds a cell to a stream or
  destroys the circuit.
* the monitor of an output stream (`outputBusy`): the thread that flushes or closes it.
* the monitor of a stream's windows: the reading thread, while it sends a SENDME for the stream. A
  thread that waits for the window has released it.

The reading thread flushes too: when it destroys a circuit it closes the streams, and closing a stream
flushes it. It is thread 0.

The functions on nodes and streams are those of the circuit, called with waits that nothing ends: a
step that would have to wait is refused, and taken later or never. A thread that holds
`relaySendLock` encrypts the cell; what comes of that does not depend on the other threads, and only
the windows are kept here. Errors of the connection enter as the end of the circuit. The ledgers and
the numbers of cells received and acknowledged are records that no step reads.
-/

namespace Orchid

open RelayCell CreditWindow Function

/-! ## State -/

/-- A node: its circuit, and its position there. -/
abbrev HopId := Nat × Nat

/-- A stream: its circuit, and its id there. -/
abbrev StreamId := Nat × Nat

/-- Where a thread is in `flushCurrentOutputCell`. -/
inductive Flush where
  | idle
  /-- At the window of the stream. -/
  | streamWait (st : StreamId)
  /-- At the window of the target node, for the first time. -/
  | nodeWait (st : StreamId)
  /-- At `relaySendLock`. -/
  | lockWait (st : StreamId)
  /-- With the lock, at the window of the target node again. -/
  | windowWait (st : StreamId)
  /-- With the lock, before `sendCell`. -/
  | sending (st : StreamId)
  deriving DecidableEq

namespace Flush

/-- The stream that is flushed. -/
def stream? : Flush → Option StreamId
  | .idle => none
  | .streamWait st | .nodeWait st | .lockWait st | .windowWait st | .sending st => some st

/-- The circuit whose `relaySendLock` the thread holds. -/
def lock? : Flush → Option Nat
  | .windowWait st | .sending st => some st.1
  | .idle | .streamWait _ | .nodeWait _ | .lockWait _ => none

end Flush

/-- Where the reading thread is. -/
inductive Reader where
  | idle
  /-- A SENDME for the circuit is due, on a DATA cell. -/
  | ackWaiting (c : Nat) (cell : RelayCell)
  /-- At the stream of a cell. -/
  | streamWaiting (c : Nat) (cell : RelayCell)
  /-- At `considerSendingSendme` of a stream. -/
  | considering (st : StreamId)
  /-- A SENDME for the stream is due. -/
  | streamAckWaiting (st : StreamId)
  /-- In the loop of `destroyCircuit`. -/
  | destroying (c : Nat) (todo : List Nat)
  /-- In `StreamImpl.close`, before the output stream is closed. -/
  | closingOutput (c n : Nat) (todo : List Nat)
  /-- In the flush of an output stream that is closed. -/
  | closingFlush (c n : Nat) (todo : List Nat)
  /-- In `StreamImpl.close`, after the output stream is closed. -/
  | leaving (c n : Nat) (todo : List Nat)
  deriving DecidableEq

/-- The circuit whose `streamLock` the reading thread holds. -/
def Reader.streamLock? : Reader → Option Nat
  | .considering st | .streamAckWaiting st => some st.1
  | .destroying c _ | .closingOutput c _ _ | .closingFlush c _ _ | .leaving c _ _ => some c
  | .idle | .ackWaiting _ _ | .streamWaiting _ _ => none

/-- The output stream whose monitor the reading thread holds. -/
def Reader.output? : Reader → Option StreamId
  | .closingFlush c n _ => some (c, n)
  | .idle | .ackWaiting _ _ | .streamWaiting _ _ | .considering _ | .streamAckWaiting _
  | .destroying _ _ | .closingOutput _ _ _ | .leaving _ _ _ => none

/-- What arrives: a relay cell that was recognised, or something that ends the circuit, which is a
DESTROY cell or a relay cell that nobody recognises. -/
inductive Arriving where
  | relay (c : Nat) (cell : RelayCell)
  | destroy (c : Nat)
  deriving DecidableEq

structure Threads where
  nodes : HopId → CircuitNode
  streams : StreamId → StreamImpl
  streamMap : Nat → List Nat
  /-- The circuit is connected or building, and in the circuit map. -/
  usable : Nat → Bool
  /-- Where each thread is. The first is the reading thread. -/
  flushes : List Flush
  reader : Reader
  incoming : List Arriving
  streamLedger : StreamId → Ledger
  hopLedger : HopId → Ledger
  received : HopId → Nat
  acknowledged : HopId → Nat
  /-- SENDMEs that were due and not sent, as the circuit had ended by then. -/
  unsent : HopId → Nat

namespace Threads

/-- The node at which a stream ends. -/
def target (s : Threads) (st : StreamId) : HopId := (st.1, (s.streams st).targetNode)

def locked (s : Threads) (c : Nat) : Bool := s.flushes.any fun f => f.lock? = some c

def streamLocked (s : Threads) (c : Nat) : Bool := s.reader.streamLock? = some c

def outputBusy (s : Threads) (st : StreamId) : Bool :=
  s.flushes.any (fun f => f.stream? = some st) || s.reader.output? = some st

/-- The cell that a flush of the stream has to send. -/
def pending (s : Threads) (st : StreamId) : Option RelayCell := (s.streams st).outputStream.pending

/-- Any nodes and streams, all of them new, and so many threads besides the reading thread. -/
def start (nodes : HopId → CircuitNode) (targetNode : StreamId → Nat) (autoclose : StreamId → Bool)
    (streamMap : Nat → List Nat) (writers : Nat) : Threads where
  nodes h := { nodes h with
    packageWindow := CircuitNode.CIRCWINDOW_START
    deliverWindow := CircuitNode.CIRCWINDOW_START }
  streams st := { streamId := st.2, targetNode := targetNode st, autoclose := autoclose st }
  streamMap := streamMap
  usable _ := true
  flushes := List.replicate (writers + 1) .idle
  reader := .idle
  incoming := []
  streamLedger _ := { }
  hopLedger _ := { }
  received _ := 0
  acknowledged _ := 0
  unsent _ := 0

/-! ## Writing -/

def setFlush (s : Threads) (i : Nat) (f : Flush) : Threads :=
  { s with flushes := s.flushes.set i f }

def setStream (s : Threads) (st : StreamId) (stream : StreamImpl) : Threads :=
  { s with streams := update s.streams st stream }

def setNode (s : Threads) (h : HopId) (node : CircuitNode) : Threads :=
  { s with nodes := update s.nodes h node }

/-- The cell was handed to the connection. -/
def recordSent (s : Threads) (st : StreamId) : Threads :=
  { s with
    streamLedger := update s.streamLedger st (s.streamLedger st).spend
    hopLedger := update s.hopLedger (s.target st) (s.hopLedger (s.target st)).spend }

end Threads

namespace StreamImpl

/-- The output stream after its cell was sent: the bytes are counted, and there is a new cell. -/
def flushed (stream : StreamImpl) (circuitId : Nat) : StreamImpl :=
  { stream with outputStream := { stream.outputStream with
      bytesSent := stream.outputStream.bytesSent +
        (stream.outputStream.pending.elim 0 fun cell => cell.cellBytesConsumed - HEADER_SIZE)
      currentOutputCell :=
        some (RelayCell.create stream.targetNode circuitId stream.streamId RELAY_DATA false) } }

/-- The output stream after its `close`. -/
def closedOutput (stream : StreamImpl) : StreamImpl :=
  { stream with outputStream := { stream.outputStream with
      isClosed := true
      currentOutputCell := none } }

end StreamImpl

namespace Threads

/-- The next step of a thread in `flushCurrentOutputCell`. -/
def flushStep (s : Threads) (i : Nat) : Option Threads :=
  match s.flushes[i]? with
  | some (.streamWait st) =>
    if s.reader = .streamAckWaiting st then none
    else
      match (s.streams st).waitForSendWindowAndDecrement .never with
      | .error _ => none
      | .ok stream => some (({ s with
          streamLedger := update s.streamLedger st (s.streamLedger st).take
          : Threads }.setStream st stream).setFlush i (.nodeWait st))
  | some (.nodeWait st) =>
    match (s.nodes (s.target st)).waitForSendWindow false .never with
    | .error _ => none
    | .ok _ => some (s.setFlush i (.lockWait st))
  | some (.lockWait st) => if s.locked st.1 then none else some (s.setFlush i (.windowWait st))
  | some (.windowWait st) =>
    match (s.nodes (s.target st)).waitForSendWindowAndDecrement .never with
    | .error _ => none
    | .ok node => some (({ s with
        hopLedger := update s.hopLedger (s.target st) (s.hopLedger (s.target st)).take
        : Threads }.setNode (s.target st) node).setFlush i (.sending st))
  | some (.sending st) =>
    -- `sendCell` returns without sending once the circuit has ended
    let sent := if s.usable st.1 then s.recordSent st else s
    some ((sent.setStream st ((s.streams st).flushed st.1)).setFlush i .idle)
  | some .idle | none => none

/-- A thread is interrupted while it waits for a window. -/
def interruptStep (s : Threads) (i : Nat) : Option Threads :=
  match s.flushes[i]? with
  | some (.streamWait st) =>
    if (s.streams st).packageWindow = 0 then some (s.setFlush i .idle) else none
  | some (.nodeWait st) | some (.windowWait st) =>
    if (s.nodes (s.target st)).packageWindow = 0 then some (s.setFlush i .idle) else none
  | some (.lockWait _) | some (.sending _) | some .idle | none => none

/-! ## Reading -/

/-- `destroyCircuit` on the reading thread: the state is set, and the loop over the streams starts. -/
def beginDestroy (s : Threads) (c : Nat) : Threads :=
  { s with usable := update s.usable c false, reader := .destroying c (s.streamMap c) }

/-- The part of `processRelayDataCell` about the node's window. -/
def countDataCell (s : Threads) (c : Nat) (cell : RelayCell) : Threads :=
  let h : HopId := (c, cell.circuitNode)
  let (sendSendme, node) := (s.nodes h).decrementDeliverWindow.considerSendingSendme
  { s with
    nodes := update s.nodes h node
    received := update s.received h (s.received h + 1)
    reader := if sendSendme then .ackWaiting c cell else .streamWaiting c cell }

def processCircuitSendme (s : Threads) (c : Nat) (cell : RelayCell) : Threads :=
  let h : HopId := (c, cell.circuitNode)
  { s with
    nodes := update s.nodes h (s.nodes h).incrementSendWindow
    hopLedger := update s.hopLedger h (s.hopLedger h).grant }

/-- `deliverRelayCell`, up to where the reading thread may have to wait. -/
def dispatchCell (s : Threads) (c : Nat) (cell : RelayCell) : Threads :=
  match Circuit.dispatch cell.relayCommand with
  | .response | .ignored => s
  | .stream =>
    if cell.relayCommand = RELAY_DATA then s.countDataCell c cell
    else { s with reader := .streamWaiting c cell }
  | .sendme =>
    if cell.streamId ≠ 0 then { s with reader := .streamWaiting c cell }
    else s.processCircuitSendme c cell
  | .forward => s.beginDestroy c

/-- What arrives for a circuit that is not in the map is dropped. -/
def deliver (s : Threads) : Arriving → Threads
  | .relay c cell => if s.usable c then s.dispatchCell c cell else s
  | .destroy c => if s.usable c then s.beginDestroy c else s

/-- The stream of a cell, if it is in the map and open. -/
def openStream (s : Threads) (c : Nat) (cell : RelayCell) : Bool :=
  cell.streamId ∈ s.streamMap c && !(s.streams (c, cell.streamId)).isClosed

/-- `StreamImpl.addInputCell`, up to `considerSendingSendme`. What raises ends the handling of the
cell. -/
def addInputCell (s : Threads) (c : Nat) (cell : RelayCell) : Threads :=
  let st : StreamId := (c, cell.streamId)
  match (s.streams st).applyCell cell with
  | .error _ => { s with reader := .idle }
  | .ok stream =>
    { s with
      streams := update s.streams st stream
      streamLedger :=
        if cell.relayCommand = RELAY_SENDME then
          update s.streamLedger st (s.streamLedger st).grant
        else s.streamLedger
      reader :=
        if Circuit.isStreamControl cell.relayCommand ∨ stream.deliverWindow < 0 then .idle
        else .considering st }

/-- The SENDME for a circuit goes out, unless the circuit has ended. -/
def acknowledge (s : Threads) (h : HopId) : Threads :=
  if s.usable h.1 then
    { s with acknowledged := update s.acknowledged h (s.acknowledged h + 1) }
  else { s with unsent := update s.unsent h (s.unsent h + 1) }

/-- The start of `TorOutputStream.close` on the reading thread. -/
def closeOutput (s : Threads) (c n : Nat) (todo : List Nat) : Threads :=
  if (s.streams (c, n)).outputStream.isClosed then { s with reader := .leaving c n todo }
  else if (s.pending (c, n)).isSome then
    { s with reader := .closingFlush c n todo }.setFlush 0 (.streamWait (c, n))
  else
    { s with reader := .leaving c n todo }.setStream (c, n) (s.streams (c, n)).closedOutput

/-- The next step of the reading thread. -/
def readerStep (s : Threads) : Option Threads :=
  match s.reader with
  | .idle =>
    match s.incoming with
    | [] => none
    | arriving :: rest => some ({ s with incoming := rest }.deliver arriving)
  | .ackWaiting c cell =>
    if s.locked c then none
    else some { s.acknowledge (c, cell.circuitNode) with reader := .streamWaiting c cell }
  | .streamWaiting c cell =>
    some (if s.openStream c cell then s.addInputCell c cell else { s with reader := .idle })
  | .considering st =>
    some { s with
      reader := if (s.streams st).sendmeDue then .streamAckWaiting st else .idle }
  | .streamAckWaiting st =>
    if s.locked st.1 then none
    else some ({ s with reader := .idle }.setStream st (s.streams st).creditDeliverWindow)
  | .destroying _ [] => some { s with reader := .idle }
  | .destroying c (n :: todo) =>
    if (s.streams (c, n)).isClosed then some { s with reader := .destroying c todo }
    else
      some ({ s with reader := .closingOutput c n todo }.setStream (c, n)
        (s.streams (c, n)).closeInput)
  | .closingOutput c n todo => if s.outputBusy (c, n) then none else some (s.closeOutput c n todo)
  | .closingFlush c n todo =>
    if s.flushes[0]? = some .idle then
      some ({ s with reader := .leaving c n todo }.setStream (c, n)
        (s.streams (c, n)).closedOutput)
    else s.flushStep 0
  | .leaving c n todo =>
    -- the END cell needs `relaySendLock`
    if !(s.streams (c, n)).relayEndReceived && s.locked c then none
    else
      some { s with
        streamMap := update s.streamMap c ((s.streamMap c).filter (· ≠ n))
        reader := .destroying c todo }

/-! ## The system -/

inductive Event where
  /-- An application writes to a stream. -/
  | write (st : StreamId) (cell : RelayCell)
  /-- A thread flushes a stream. -/
  | flush (i : Nat) (st : StreamId)
  /-- The next step of a thread that flushes. -/
  | thread (i : Nat)
  | interrupt (i : Nat)
  /-- An application reads from a stream. -/
  | read (st : StreamId) (size : Nat) (off len : Int)
  /-- Something arrives on the connection. -/
  | arrives (arriving : Arriving)
  /-- The next step of the reading thread. -/
  | reader
  /-- The start of `StreamImpl.close` on another thread. -/
  | closeStream (st : StreamId)
  /-- The end of `TorOutputStream.close` on another thread. -/
  | closeOutput (st : StreamId)
  /-- `removeStream` on another thread. -/
  | removeStream (st : StreamId)
  /-- The circuit is closed by another thread, or destroyed as the connection failed. -/
  | circuitEnds (c : Nat)
  deriving DecidableEq

def step (s : Threads) : Event → Option Threads
  | .write st cell =>
    if !(s.streams st).outputStream.isClosed ∧ !s.outputBusy st then
      some (s.setStream st { s.streams st with
        outputStream := { (s.streams st).outputStream with currentOutputCell := some cell } })
    else none
  | .flush i st =>
    if i ≠ 0 ∧ s.flushes[i]? = some .idle ∧ !(s.streams st).outputStream.isClosed ∧
        !s.outputBusy st ∧ (s.pending st).isSome then
      some (s.setFlush i (.streamWait st))
    else none
  | .thread i => if i ≠ 0 then s.flushStep i else none
  | .interrupt i => if i ≠ 0 then s.interruptStep i else none
  | .read st size off len =>
    some (s.setStream st { s.streams st with
      inputStream := Prog.final (TorInputStream.read size off len (s.streams st).inputStream) })
  | .arrives arriving => some { s with incoming := s.incoming ++ [arriving] }
  | .reader => s.readerStep
  | .closeStream st => some (s.setStream st (s.streams st).closeInput)
  | .closeOutput st =>
    if (s.streams st).isClosed ∧ !s.outputBusy st then
      some (s.setStream st (s.streams st).closedOutput)
    else none
  | .removeStream st =>
    if (s.streams st).isClosed ∧ !s.streamLocked st.1 then
      some { s with
        streamMap := update s.streamMap st.1 ((s.streamMap st.1).filter (· ≠ st.2)) }
    else none
  | .circuitEnds c => some { s with usable := update s.usable c false }

end Threads

/-! ## What a thread does next -/

namespace Threads

/-- The steps of `flushStep`, each with what it needs. -/
inductive Advances (s : Threads) (i : Nat) : Threads → Prop where
  | takeStream {st : StreamId} (hi : s.flushes[i]? = some (.streamWait st))
      (hmonitor : s.reader ≠ .streamAckWaiting st) (hwindow : (s.streams st).packageWindow ≠ 0) :
      Advances s i (({ s with
        streamLedger := update s.streamLedger st (s.streamLedger st).take
        : Threads }.setStream st { s.streams st with
          packageWindow := javaInt ((s.streams st).packageWindow - 1) }).setFlush i (.nodeWait st))
  | passNode {st : StreamId} (hi : s.flushes[i]? = some (.nodeWait st))
      (hwindow : (s.nodes (s.target st)).packageWindow ≠ 0) :
      Advances s i (s.setFlush i (.lockWait st))
  | lock {st : StreamId} (hi : s.flushes[i]? = some (.lockWait st)) (hfree : s.locked st.1 = false) :
      Advances s i (s.setFlush i (.windowWait st))
  | takeHop {st : StreamId} (hi : s.flushes[i]? = some (.windowWait st))
      (hwindow : (s.nodes (s.target st)).packageWindow ≠ 0) :
      Advances s i (({ s with
        hopLedger := update s.hopLedger (s.target st) (s.hopLedger (s.target st)).take
        : Threads }.setNode (s.target st) { s.nodes (s.target st) with
          packageWindow := javaInt ((s.nodes (s.target st)).packageWindow - 1) }).setFlush i
            (.sending st))
  | send {st : StreamId} (hi : s.flushes[i]? = some (.sending st)) :
      Advances s i (((if s.usable st.1 then s.recordSent st else s).setStream st
        ((s.streams st).flushed st.1)).setFlush i .idle)

variable {i : Nat}

theorem flushStep_iff {s s' : Threads} : s.flushStep i = some s' ↔ s.Advances i s' := by
  constructor
  · intro hstep
    unfold flushStep at hstep
    split at hstep
    · rename_i st hi
      rw [StreamImpl.waitForSendWindowAndDecrement_never] at hstep
      by_cases hmonitor : s.reader = .streamAckWaiting st
      · rw [if_pos hmonitor] at hstep
        cases hstep
      · by_cases hwindow : (s.streams st).packageWindow = 0
        · rw [if_neg hmonitor, if_pos hwindow] at hstep
          cases hstep
        · rw [if_neg hmonitor, if_neg hwindow] at hstep
          cases hstep
          exact .takeStream hi hmonitor hwindow
    · rename_i st hi
      rw [CircuitNode.waitForSendWindow_never] at hstep
      by_cases hwindow : (s.nodes (s.target st)).packageWindow = 0
      · rw [if_pos hwindow] at hstep
        cases hstep
      · rw [if_neg hwindow] at hstep
        cases hstep
        exact .passNode hi hwindow
    · rename_i st hi
      obtain ⟨hfree, hstep⟩ := Option.ite_none_left_eq_some.mp hstep
      cases hstep
      exact .lock hi (Bool.eq_false_iff.mpr hfree)
    · rename_i st hi
      rw [CircuitNode.waitForSendWindowAndDecrement, CircuitNode.waitForSendWindow_never] at hstep
      by_cases hwindow : (s.nodes (s.target st)).packageWindow = 0
      · rw [if_pos hwindow] at hstep
        cases hstep
      · rw [if_neg hwindow] at hstep
        cases hstep
        exact .takeHop hi hwindow
    · rename_i st hi
      cases hstep
      exact .send hi
    · cases hstep
    · cases hstep
  · intro hadvances
    unfold flushStep
    cases hadvances with
    | takeStream hi hmonitor hwindow =>
      rw [hi]
      dsimp only
      rw [if_neg hmonitor, StreamImpl.waitForSendWindowAndDecrement_never, if_neg hwindow]
    | passNode hi hwindow =>
      rw [hi]
      dsimp only
      rw [CircuitNode.waitForSendWindow_never, if_neg hwindow]
    | lock hi hfree =>
      rw [hi]
      dsimp only
      rw [hfree, if_neg Bool.false_ne_true]
    | takeHop hi hwindow =>
      rw [hi]
      dsimp only
      rw [CircuitNode.waitForSendWindowAndDecrement, CircuitNode.waitForSendWindow_never,
        if_neg hwindow]
      rfl
    | send hi => rw [hi]

theorem step_thread {s s' : Threads} : s.step (.thread i) = some s' ↔ i ≠ 0 ∧ s.Advances i s' := by
  rw [step, Option.ite_none_right_eq_some, flushStep_iff]

theorem step_interrupt {s s' : Threads} (hstep : s.step (.interrupt i) = some s') :
    i ≠ 0 ∧ ∃ f, s.flushes[i]? = some f ∧ s' = s.setFlush i .idle := by
  simp only [step, interruptStep, Option.ite_none_right_eq_some] at hstep
  obtain ⟨hne, hstep⟩ := hstep
  refine ⟨hne, ?_⟩
  split at hstep
  case h_1 st hi | h_2 st hi | h_3 st hi =>
    simp only [Option.ite_none_right_eq_some] at hstep
    obtain ⟨-, hstep⟩ := hstep
    cases hstep
    exact ⟨_, hi, rfl⟩
  all_goals cases hstep

end Threads

/-- The circuit that is destroyed when this is delivered. -/
def Arriving.destroys : Arriving → Option Nat
  | .destroy c => some c
  | .relay c cell => if Circuit.dispatch cell.relayCommand = .forward then some c else none

namespace Threads

/-- The steps of `readerStep`, each with what it needs. -/
inductive Reads (s : Threads) : Threads → Prop where
  | ignored {arriving : Arriving} {rest : List Arriving} (hreader : s.reader = .idle)
      (hincoming : s.incoming = arriving :: rest) : Reads s { s with incoming := rest }
  | toStream {c : Nat} {cell : RelayCell} {rest : List Arriving} (hreader : s.reader = .idle)
      (hincoming : s.incoming = .relay c cell :: rest) (hdata : cell.relayCommand ≠ RELAY_DATA) :
      Reads s { s with incoming := rest, reader := .streamWaiting c cell }
  | data {c : Nat} {cell : RelayCell} {rest : List Arriving} (hreader : s.reader = .idle)
      (hincoming : s.incoming = .relay c cell :: rest) :
      Reads s ({ s with incoming := rest }.countDataCell c cell)
  | sendme {c : Nat} {cell : RelayCell} {rest : List Arriving} (hreader : s.reader = .idle)
      (hincoming : s.incoming = .relay c cell :: rest) (husable : s.usable c = true)
      (hsendme : Circuit.dispatch cell.relayCommand = .sendme) (hcircuit : cell.streamId = 0) :
      Reads s ({ s with incoming := rest }.processCircuitSendme c cell)
  | destroy {c : Nat} {arriving : Arriving} {rest : List Arriving} (hreader : s.reader = .idle)
      (hincoming : s.incoming = arriving :: rest) (husable : s.usable c = true)
      (hdestroys : arriving.destroys = some c) :
      Reads s ({ s with incoming := rest }.beginDestroy c)
  | acknowledge {c : Nat} {cell : RelayCell} (hreader : s.reader = .ackWaiting c cell)
      (hfree : s.locked c = false) :
      Reads s { s.acknowledge (c, cell.circuitNode) with reader := .streamWaiting c cell }
  | addInput {c : Nat} {cell : RelayCell} (hreader : s.reader = .streamWaiting c cell)
      (hopen : s.openStream c cell = true) : Reads s (s.addInputCell c cell)
  | noStream {c : Nat} {cell : RelayCell} (hreader : s.reader = .streamWaiting c cell)
      (hopen : s.openStream c cell = false) : Reads s { s with reader := .idle }
  | consider {st : StreamId} (hreader : s.reader = .considering st) :
      Reads s { s with reader := if (s.streams st).sendmeDue then .streamAckWaiting st else .idle }
  | acknowledgeStream {st : StreamId} (hreader : s.reader = .streamAckWaiting st)
      (hfree : s.locked st.1 = false) :
      Reads s ({ s with reader := .idle }.setStream st (s.streams st).creditDeliverWindow)
  | destroyed {c : Nat} (hreader : s.reader = .destroying c []) : Reads s { s with reader := .idle }
  | skipStream {c n : Nat} {todo : List Nat} (hreader : s.reader = .destroying c (n :: todo))
      (hclosed : (s.streams (c, n)).isClosed = true) :
      Reads s { s with reader := .destroying c todo }
  | closeStream {c n : Nat} {todo : List Nat} (hreader : s.reader = .destroying c (n :: todo))
      (hclosed : (s.streams (c, n)).isClosed = false) :
      Reads s ({ s with reader := .closingOutput c n todo }.setStream (c, n)
        (s.streams (c, n)).closeInput)
  | closeOutput {c n : Nat} {todo : List Nat} (hreader : s.reader = .closingOutput c n todo)
      (hfree : s.outputBusy (c, n) = false) : Reads s (s.closeOutput c n todo)
  | flush {c n : Nat} {todo : List Nat} {s' : Threads} (hreader : s.reader = .closingFlush c n todo)
      (hadvances : s.Advances 0 s') : Reads s s'
  | flushed {c n : Nat} {todo : List Nat} (hreader : s.reader = .closingFlush c n todo)
      (hidle : s.flushes[0]? = some .idle) :
      Reads s ({ s with reader := .leaving c n todo }.setStream (c, n)
        (s.streams (c, n)).closedOutput)
  | leave {c n : Nat} {todo : List Nat} (hreader : s.reader = .leaving c n todo) :
      Reads s { s with
        streamMap := update s.streamMap c ((s.streamMap c).filter (· ≠ n))
        reader := .destroying c todo }

variable {s : Threads} {rest : List Arriving} {arriving : Arriving}

/-- The reading thread takes the next cell. -/
theorem readerStep_idle (hreader : s.reader = .idle) (hincoming : s.incoming = arriving :: rest) :
    s.readerStep = some ({ s with incoming := rest }.deliver arriving) := by
  unfold readerStep
  split
  · split
    · rename_i hnil
      cases hincoming.symm.trans hnil
    · rename_i hcons
      cases hincoming.symm.trans hcons
      rfl
  all_goals
    rename_i hother
    cases hreader.symm.trans hother

theorem reads_deliver (hreader : s.reader = .idle) (hincoming : s.incoming = arriving :: rest) :
    s.Reads ({ s with incoming := rest }.deliver arriving) := by
  have hignored : s.Reads { s with incoming := rest } := .ignored hreader hincoming
  cases arriving with
  | destroy c =>
    by_cases husable : s.usable c = true
    · simp only [deliver, husable, if_true]
      exact .destroy hreader hincoming husable rfl
    · simp only [deliver, husable, Bool.false_eq_true, if_false]
      exact hignored
  | relay c cell =>
    by_cases husable : s.usable c = true
    · simp only [deliver, husable, if_true, dispatchCell]
      split
      · exact hignored
      · exact hignored
      · split
        · exact .data hreader hincoming
        · rename_i hdata
          exact .toStream hreader hincoming hdata
      · rename_i hsendme
        split
        · refine .toStream hreader hincoming ?_
          -- DATA is not dispatched as a SENDME
          intro hdata
          rw [hdata] at hsendme
          cases hsendme
        · rename_i hcircuit
          exact .sendme hreader hincoming husable hsendme (Decidable.not_not.mp hcircuit)
      · rename_i hforward
        exact .destroy hreader hincoming husable (if_pos hforward)
    · simp only [deliver, husable, Bool.false_eq_true, if_false]
      exact hignored

theorem reads_of_step {s' : Threads} (hstep : s.readerStep = some s') : s.Reads s' := by
  unfold readerStep at hstep
  split at hstep
  · rename_i hreader
    split at hstep
    · cases hstep
    · rename_i hincoming
      cases hstep
      exact reads_deliver hreader hincoming
  · rename_i hreader
    obtain ⟨hfree, hstep⟩ := Option.ite_none_left_eq_some.mp hstep
    cases hstep
    exact .acknowledge hreader (Bool.eq_false_iff.mpr hfree)
  · rename_i c cell hreader
    cases hstep
    by_cases hopen : s.openStream c cell = true
    · rw [if_pos hopen]
      exact .addInput hreader hopen
    · rw [if_neg hopen]
      exact .noStream hreader (Bool.eq_false_iff.mpr hopen)
  · rename_i hreader
    cases hstep
    exact .consider hreader
  · rename_i hreader
    obtain ⟨hfree, hstep⟩ := Option.ite_none_left_eq_some.mp hstep
    cases hstep
    exact .acknowledgeStream hreader (Bool.eq_false_iff.mpr hfree)
  · rename_i hreader
    cases hstep
    exact .destroyed hreader
  · rename_i c n todo hreader
    by_cases hclosed : (s.streams (c, n)).isClosed = true
    · rw [if_pos hclosed] at hstep
      cases hstep
      exact .skipStream hreader hclosed
    · rw [if_neg hclosed] at hstep
      cases hstep
      exact .closeStream hreader (Bool.eq_false_iff.mpr hclosed)
  · rename_i hreader
    obtain ⟨hfree, hstep⟩ := Option.ite_none_left_eq_some.mp hstep
    cases hstep
    exact .closeOutput hreader (Bool.eq_false_iff.mpr hfree)
  · rename_i hreader
    by_cases hidle : s.flushes[0]? = some .idle
    · rw [if_pos hidle] at hstep
      cases hstep
      exact .flushed hreader hidle
    · rw [if_neg hidle] at hstep
      exact .flush hreader (flushStep_iff.mp hstep)
  · rename_i hreader
    simp only [Option.ite_none_left_eq_some] at hstep
    obtain ⟨-, hstep⟩ := hstep
    cases hstep
    exact .leave hreader

end Threads

end Orchid
