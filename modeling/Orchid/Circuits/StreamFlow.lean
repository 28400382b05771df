import Orchid.Circuits.Forward
import Orchid.Lib.Runs

/-!
# Orchid — flow control of a stream

A stream and the peer at its other end. The peer starts with a window of 500 DATA cells, spends one
on each cell, and gains 50 with every SENDME. The client acknowledges as it receives: after a DATA
cell was added, `considerSendingSendme` looks at the delivery window and at the number of cells the
application has not read yet. Reading does not acknowledge anything.

The peer always has more to send. The application may read when it likes, also between the two
halves of `addInputCell`.

* **`addInputCell_run`**: the two halves are what the circuit does with a DATA cell.
* **`Conserved`**: the credit of the peer, the cells under way and the SENDMEs under way add up to
  the delivery window of the client.
* `ReadInTime`: once the delivery window is used up, fewer than ten cells are left unread.
* **`flow_never_stalls`**: under this condition the peer is never left without credit by an
  application that has read everything.
-/

namespace Orchid

open Prog RelayCell

/-! ## The client's end -/

namespace StreamImpl

/-- The second half of `addInputCell`: the stream, and whether a SENDME goes out. -/
def considerSendingSendme (stream : StreamImpl) : StreamImpl × Bool :=
  if stream.sendmeDue then (stream.creditDeliverWindow, true) else (stream, false)

variable {cell : RelayCell}

theorem applyCell_data (stream : StreamImpl) (hdata : cell.relayCommand = RELAY_DATA) :
    stream.applyCell cell = .ok { stream with
      inputStream := stream.inputStream.addInputCell cell
      deliverWindow := javaInt (stream.deliverWindow - 1) } := by
  unfold applyCell
  rw [if_neg (by rw [hdata]; decide), if_neg (by rw [hdata]; decide), if_neg (by rw [hdata]; decide)]

end StreamImpl

namespace Circuit

variable (P : Platform) (W : Waits) {node : CircuitNode}

/-- Cells other than DATA do not wait for a window. -/
theorem sendRelayCellTo_control {targetNode : Nat} {c : Circuit}
    (hopen : c.connectionClosed = false)
    (husable : isConnectedOrBuilding c = true) (hnode : c.nodeList[targetNode]? = some node)
    (hcontrol : cell.relayCommand ≠ RELAY_DATA) :
    sendRelayCellTo P W cell targetNode c = .ok () { c with
      nodeList := (sealNodes P c.nodeList cell targetNode node).1
      sent := c.sent ++
        [{ cell.toCell with cellBytes := (sealNodes P c.nodeList cell targetNode node).2 }] } := by
  obtain ⟨n, hn, -⟩ := sealNodes_get P cell hnode
  have hencrypt := encryptRelayCellTo_run P W hnode hn
  rw [if_neg hcontrol] at hencrypt
  unfold sendRelayCellTo
  rw [bind_of_ok hencrypt]
  exact sendCell_run P W (by exact hopen) (by exact husable) _

/-- On a circuit in use, a DATA cell for an open stream is added to it, and then a SENDME is
considered. -/
theorem addInputCell_run {stream : StreamImpl} {c : Circuit} (hopen : c.connectionClosed = false)
    (husable : isConnectedOrBuilding c = true)
    (hnode : c.nodeList[stream.targetNode]? = some node) (hstream : stream.isClosed = false)
    (hdata : cell.relayCommand = RELAY_DATA) {applied : StreamImpl}
    (happly : stream.applyCell cell = .ok applied) (hwindow : 0 ≤ applied.deliverWindow) :
    ∃ c', addInputCell P W stream cell c = .ok () c' ∧
      c'.streamMap = c.streamMap.map (fun s =>
        if s.streamId = stream.streamId then applied.considerSendingSendme.1 else s) ∧
      c'.sent.length = c.sent.length + if applied.considerSendingSendme.2 then 1 else 0 := by
  have happlied : applied.streamId = stream.streamId ∧ applied.targetNode = stream.targetNode := by
    rw [stream.applyCell_data hdata] at happly
    cases happly
    exact ⟨rfl, rfl⟩
  have hcontrol : isStreamControl cell.relayCommand = false := by
    rw [hdata]
    rfl
  unfold addInputCell
  rw [hstream, happly, Bool.not_false, if_pos rfl, bind_of_ok (fromExcept_ok applied c)]
  simp only [updateStream, bind_run, modify_run, hcontrol, Bool.not_false, if_true,
    if_neg (Int.not_lt.mpr hwindow)]
  unfold considerSendingStreamSendme StreamImpl.considerSendingSendme
  by_cases hdue : applied.sendmeDue = true
  · rw [if_pos hdue, if_pos hdue, get_bind_run]
    have hnode' : c.nodeList[applied.targetNode]? = some node := happlied.2 ▸ hnode
    rw [bind_of_ok (sendRelayCellTo_control P W (by exact hopen) (by exact husable)
      (by exact hnode') (show RELAY_SENDME ≠ RELAY_DATA by decide))]
    refine ⟨_, rfl, ?_, List.length_append⟩
    -- the credit goes to the stream that was just written
    show (c.streamMap.map _).map _ = c.streamMap.map _
    rw [List.map_map]
    refine List.map_congr_left fun s _ => ?_
    show (if (if s.streamId = applied.streamId then applied else s).streamId = applied.streamId then
      StreamImpl.creditDeliverWindow (if s.streamId = applied.streamId then applied else s)
      else (if s.streamId = applied.streamId then applied else s)) = _
    by_cases hid : s.streamId = stream.streamId
    · rw [if_pos (hid.trans happlied.1.symm), if_pos rfl, if_pos hid]
    · have hother : ¬ s.streamId = applied.streamId := by
        rw [happlied.1]
        exact hid
      rw [if_neg hother, if_neg hother, if_neg hid]
  · rw [if_neg hdue, if_neg hdue]
    refine ⟨_, rfl, ?_, rfl⟩
    rw [happlied.1]

end Circuit

/-! ## The two parties -/

/-- The stream, whether the reading thread still has to consider a SENDME, the window of the peer,
and what is under way between them. -/
structure Flow where
  stream : StreamImpl
  considering : Bool
  peerWindow : Nat
  cells : List RelayCell
  sendmes : Nat

inductive FlowEvent where
  | peerSends (cell : RelayCell)
  | cellArrives
  | sendmeConsidered
  | sendmeArrives
  | read (size : Nat) (off len : Int)
  | readByte

namespace Flow

/-- A stream that was just opened. -/
def start (streamId targetNode : Nat) (autoclose : Bool) : Flow :=
  { stream := { streamId := streamId, targetNode := targetNode, autoclose := autoclose }
    considering := false
    peerWindow := 500
    cells := []
    sendmes := 0 }

def onInput {α : Type} (s : Flow) (x : TorInputStream.InputM α) : Flow :=
  { s with stream := { s.stream with inputStream := final (x s.stream.inputStream) } }

def step (s : Flow) : FlowEvent → Option Flow
  | .peerSends cell =>
    if 0 < s.peerWindow ∧ cell.relayCommand = RELAY_DATA then
      some { s with peerWindow := s.peerWindow - 1, cells := s.cells ++ [cell] }
    else none
  | .cellArrives =>
    match s.considering, s.cells with
    | false, cell :: rest =>
      match s.stream.applyCell cell with
      | .error _ => some { s with cells := rest }
      | .ok stream =>
        -- a negative window raises, and nothing is considered
        some { s with stream := stream, cells := rest, considering := 0 ≤ stream.deliverWindow }
    | _, _ => none
  | .sendmeConsidered =>
    if s.considering then
      let (stream, sendme) := s.stream.considerSendingSendme
      some { s with
        stream := stream
        considering := false
        sendmes := if sendme then s.sendmes + 1 else s.sendmes }
    else none
  | .sendmeArrives =>
    if 0 < s.sendmes then
      some { s with peerWindow := s.peerWindow + 50, sendmes := s.sendmes - 1 }
    else none
  | .read size off len => some (s.onInput (TorInputStream.read size off len))
  | .readByte => some (s.onInput TorInputStream.readByte)

/-- The peer may not send and nothing is under way, while the application has read all there was and
waits for more. -/
def Stalled (s : Flow) : Prop :=
  s.peerWindow = 0 ∧ s.cells = [] ∧ s.considering = false ∧ s.sendmes = 0 ∧
    s.stream.inputStream.incomingCells = [] ∧ s.stream.inputStream.currentBuffer = []

instance (s : Flow) : Decidable s.Stalled := inferInstanceAs (Decidable (_ ∧ _))

/-- When a SENDME is considered with the delivery window used up, fewer than ten cells wait to be
read. -/
def ReadInTime (s : Flow) : FlowEvent → Prop
  | .sendmeConsidered =>
    s.stream.deliverWindow = 0 →
      s.stream.inputStream.unflushedCellCount < StreamImpl.STREAMWINDOW_MAX_UNFLUSHED
  | _ => True

instance decidableReadInTime (s : Flow) : ∀ e, Decidable (s.ReadInTime e)
  | .sendmeConsidered => inferInstanceAs (Decidable (_ → _))
  | .peerSends _ | .cellArrives | .sendmeArrives | .read _ _ _ | .readByte => .isTrue trivial

/-! ## Conservation -/

/-- Every unit of the delivery window is somewhere on the way from the peer and back. -/
structure Conserved (s : Flow) : Prop where
  sum : (s.peerWindow + s.cells.length + 50 * s.sendmes : Nat) = s.stream.deliverWindow
  le : s.stream.deliverWindow ≤ StreamImpl.STREAMWINDOW_START
  data : ∀ cell ∈ s.cells, cell.relayCommand = RELAY_DATA

theorem conserved_start (streamId targetNode : Nat) (autoclose : Bool) :
    (start streamId targetNode autoclose).Conserved :=
  ⟨rfl, Int.le_refl _, nofun⟩

variable {s s' : Flow}

/-- What the arrival of a DATA cell does: it comes off the way and is counted. -/
theorem step_cellArrives (hdata : ∀ cell ∈ s.cells, cell.relayCommand = RELAY_DATA)
    (hstep : s.step .cellArrives = some s') :
    ∃ cell rest, s.considering = false ∧ s.cells = cell :: rest ∧
      s' = { s with
        stream := { s.stream with
          inputStream := s.stream.inputStream.addInputCell cell
          deliverWindow := javaInt (s.stream.deliverWindow - 1) }
        cells := rest
        considering := 0 ≤ javaInt (s.stream.deliverWindow - 1) } := by
  simp only [step] at hstep
  split at hstep
  · rename_i cell rest hidle hcells
    have hcell : cell.relayCommand = RELAY_DATA := hdata cell (hcells ▸ List.mem_cons_self)
    rw [StreamImpl.applyCell_data s.stream hcell] at hstep
    cases hstep
    exact ⟨cell, rest, hidle, hcells, rfl⟩
  · cases hstep

/-- What considering a SENDME does: it goes out with a credit, or not at all. -/
theorem step_sendmeConsidered (hstep : s.step .sendmeConsidered = some s') :
    s.considering = true ∧
      s' = if s.stream.sendmeDue then
          { s with
            stream := s.stream.creditDeliverWindow
            considering := false
            sendmes := s.sendmes + 1 }
        else { s with considering := false } := by
  simp only [step, Option.ite_none_right_eq_some] at hstep
  obtain ⟨hconsidering, hstep⟩ := hstep
  refine ⟨hconsidering, ?_⟩
  unfold StreamImpl.considerSendingSendme at hstep
  by_cases hdue : s.stream.sendmeDue = true
  · rw [if_pos hdue] at hstep ⊢
    cases hstep
    rfl
  · rw [if_neg hdue] at hstep ⊢
    cases hstep
    rfl

/-- While a cell is under way the window is at least one. -/
theorem Conserved.counted (h : s.Conserved) {rest : List RelayCell}
    (hcells : s.cells = cell :: rest) :
    javaInt (s.stream.deliverWindow - 1) = s.stream.deliverWindow - 1 ∧
      ((s.peerWindow + rest.length + 50 * s.sendmes : Nat) : Int) = s.stream.deliverWindow - 1 := by
  have hsum := h.sum
  have hle : s.stream.deliverWindow ≤ 500 := h.le
  rw [hcells, List.length_cons] at hsum
  exact ⟨javaInt_of_range (by omega) (by omega), by omega⟩

/-- A SENDME goes out only for a window that has room for its credit. -/
theorem Conserved.credited (h : s.Conserved) (hdue : s.stream.sendmeDue = true) :
    javaInt (s.stream.deliverWindow + 50) = s.stream.deliverWindow + 50 ∧
      0 ≤ s.stream.deliverWindow ∧ s.stream.deliverWindow ≤ 450 := by
  have hsum := h.sum
  have hlow : s.stream.deliverWindow ≤ 450 := by
    exact of_decide_eq_true (Bool.and_eq_true_iff.mp hdue).1
  exact ⟨javaInt_of_range (by omega) (by omega), by omega, hlow⟩

theorem conserved_step {e : FlowEvent} (h : s.Conserved) (hstep : s.step e = some s') :
    s'.Conserved := by
  have hsum := h.sum
  have hle : s.stream.deliverWindow ≤ 500 := h.le
  cases e with
  | peerSends cell =>
    obtain ⟨⟨hwindow, hdata⟩, hstep⟩ := Option.ite_none_right_eq_some.mp hstep
    cases hstep
    refine ⟨?_, h.le, ?_⟩
    · simp only [List.length_append, List.length_singleton]
      omega
    · intro c hc
      rcases List.mem_append.mp hc with hbefore | hnew
      · exact h.data c hbefore
      · rw [List.mem_singleton.mp hnew]
        exact hdata
  | cellArrives =>
    obtain ⟨cell, rest, -, hcells, rfl⟩ := step_cellArrives h.data hstep
    obtain ⟨hwindow, hcounted⟩ := h.counted hcells
    refine ⟨?_, ?_, fun c hc => h.data c (hcells ▸ List.mem_cons_of_mem _ hc)⟩
    · show ((s.peerWindow + rest.length + 50 * s.sendmes : Nat) : Int) =
        javaInt (s.stream.deliverWindow - 1)
      rw [hwindow, hcounted]
    · show javaInt (s.stream.deliverWindow - 1) ≤ 500
      omega
  | sendmeConsidered =>
    obtain ⟨-, rfl⟩ := step_sendmeConsidered hstep
    by_cases hdue : s.stream.sendmeDue = true
    · rw [if_pos hdue]
      obtain ⟨hwindow, hnonneg, hlow⟩ := h.credited hdue
      refine ⟨?_, ?_, h.data⟩
      · show ((s.peerWindow + s.cells.length + 50 * (s.sendmes + 1) : Nat) : Int) =
          javaInt (s.stream.deliverWindow + 50)
        omega
      · show javaInt (s.stream.deliverWindow + 50) ≤ 500
        omega
    · rw [if_neg hdue]
      exact ⟨hsum, h.le, h.data⟩
  | sendmeArrives =>
    obtain ⟨hsendmes, hstep⟩ := Option.ite_none_right_eq_some.mp hstep
    cases hstep
    refine ⟨?_, h.le, h.data⟩
    show ((s.peerWindow + 50 + s.cells.length + 50 * (s.sendmes - 1) : Nat) : Int) =
      s.stream.deliverWindow
    omega
  | read size off len | readByte =>
    cases hstep
    exact ⟨hsum, h.le, h.data⟩

/-! ## No stall -/

/-- What keeps the peer supplied: the window is not used up, or that will still be considered. -/
structure Supplied (s : Flow) : Prop extends Conserved s where
  supplied : 0 < s.stream.deliverWindow ∨ s.considering = true

theorem supplied_step {e : FlowEvent} (h : s.Supplied) (hread : s.ReadInTime e)
    (hstep : s.step e = some s') : s'.Supplied := by
  refine ⟨conserved_step h.toConserved hstep, ?_⟩
  have hsum := h.sum
  cases e with
  | peerSends cell | sendmeArrives =>
    obtain ⟨-, hstep⟩ := Option.ite_none_right_eq_some.mp hstep
    cases hstep
    exact h.supplied
  | cellArrives =>
    obtain ⟨cell, rest, -, hcells, rfl⟩ := step_cellArrives h.data hstep
    obtain ⟨hwindow, hcounted⟩ := h.counted hcells
    exact Or.inr (decide_eq_true (by omega))
  | sendmeConsidered =>
    obtain ⟨-, rfl⟩ := step_sendmeConsidered hstep
    by_cases hdue : s.stream.sendmeDue = true
    · rw [if_pos hdue]
      obtain ⟨hwindow, hnonneg, hlow⟩ := h.credited hdue
      refine Or.inl ?_
      show 0 < javaInt (s.stream.deliverWindow + 50)
      omega
    · -- nothing goes out, so by the condition the window is not used up
      rw [if_neg hdue]
      by_cases hzero : s.stream.deliverWindow = 0
      · refine absurd ?_ hdue
        unfold StreamImpl.sendmeDue
        rw [Bool.and_eq_true_iff, decide_eq_true_iff, decide_eq_true_iff]
        exact ⟨by rw [hzero]; decide, hread hzero⟩
      · refine Or.inl ?_
        show 0 < s.stream.deliverWindow
        omega
  | read size off len | readByte =>
    cases hstep
    exact h.supplied

theorem Supplied.not_stalled (h : s.Supplied) : ¬ s.Stalled := by
  rintro ⟨hwindow, hcells, hidle, hsendmes, -, -⟩
  have hsum := h.sum
  rw [hwindow, hcells, hsendmes] at hsum
  rcases h.supplied with hpositive | hconsidering
  · exact absurd hpositive (by simp only [List.length_nil] at hsum; omega)
  · cases hidle.symm.trans hconsidering

/-- In every run of a new stream in which the application reads in time, nobody is left waiting. -/
theorem flow_never_stalls (streamId targetNode : Nat) (autoclose : Bool) (es : List FlowEvent)
    (s : Flow) (hread : Runs.Meets step ReadInTime (start streamId targetNode autoclose) es)
    (hrun : Runs.run step (start streamId targetNode autoclose) es = some s) : ¬ s.Stalled := by
  have hstart : (start streamId targetNode autoclose).Supplied :=
    ⟨conserved_start streamId targetNode autoclose, Or.inl (show (0 : Int) < 500 by decide)⟩
  exact (Runs.invariant (fun _ _ _ h hread hstep => supplied_step h hread hstep) hstart hread
    hrun).not_stalled

/-! ## A transfer that stalls -/

/-- A DATA cell with one byte. -/
def sampleData : RelayCell :=
  { RelayCell.create 0 1 5 RELAY_DATA false with
    mark := HEADER_SIZE
    limit := HEADER_SIZE + 1 }

/-- The peer sends `n` cells and all of them arrive before the application reads. -/
def lateReader (n : Nat) : List FlowEvent :=
  List.replicate n (.peerSends sampleData) ++
    (List.replicate n [FlowEvent.cellArrives, .sendmeConsidered]).flatten ++
    List.replicate n .readByte

/-- A few cells that are read only then do no harm. -/
theorem few_cells_no_stall :
    ∃ s, Runs.run step (start 5 0 false) (lateReader 3) = some s ∧ ¬ s.Stalled := by
  have hruns : (Runs.run step (start 5 0 false) (lateReader 3)).isSome = true := by
    decide +kernel
  have hread : Runs.Meets step ReadInTime (start 5 0 false) (lateReader 3) := by
    decide +kernel
  obtain ⟨s, hrun⟩ := Option.isSome_iff_exists.mp hruns
  exact ⟨s, hrun, flow_never_stalls 5 0 false (lateReader 3) s hread hrun⟩

/-- The peer's whole window arrives before the application reads: no SENDME goes out for it, then or
later. -/
theorem late_reader_stalls :
    ∃ s, Runs.run step (start 5 0 false) (lateReader 500) = some s ∧ s.Stalled := by
  decide +kernel

end Flow

end Orchid
