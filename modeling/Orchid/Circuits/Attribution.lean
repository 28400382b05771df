import Orchid.Circuits.Backward
import Orchid.Circuits.Build
import Orchid.Lib.Runs

/-!
# Orchid — which hop speaks to what

An incoming relay cell is attributed to a hop by its decryption: `decryptRelayCell` puts the node
that recognised it into the cell. What becomes of the cell afterwards goes by other things. A
stream is looked up by the id that stands in the cell, and an answer to an extension is whatever
answer is next in the queue.

A history of a circuit is a run of calls (`CircuitCall`), each with the waits it met.

* `HopsSpeakForThemselves`: every cell that was applied to a stream came from the node the stream
  ends at, and every answer that extended the circuit came from its final node.
* `Attributed`: the condition on a call. A cell that is applied to streams names no stream that
  ends elsewhere, and the next answer in the queue is the final node's.
* **`deliverRelayCell_notes`**: what a delivered cell can be applied to.
* **`attributed_run`**: under the condition no hop speaks for another, in any run.
-/

namespace Orchid

open Prog Circuit CircuitExtender RelayCell

/-! ## Histories -/

/-- The calls that are made on a circuit. -/
inductive CircuitCall where
  | deliverRelayCell (cell : Cell)
  | deliverControlCell (cell : Cell)
  | createNewStream (autoclose : Bool)
  | closeStream (streamId : Nat)
  | readStream (streamId size : Nat) (off len : Int)
  | writeStream (streamId : Nat) (data : List UInt8)
  | flushStream (streamId : Nat)
  | sendRelayCellTo (cell : RelayCell) (targetNode : Nat)
  | sendExtend (hs : Handshakes) (ntorEnabled : Bool) (targetRouter : Router)
  | finishExtend (hs : Handshakes) (kind : ExtendKind) (targetRouter : Router)
  | markForClose
  | destroy

namespace CircuitCall

variable (P : Platform) (W : Waits)

/-- A call on a stream of the circuit, if it is there. -/
def onStream (streamId : Nat) (f : StreamImpl → CircuitM Unit) : CircuitM Unit := do
  match getStream streamId (← get) with
  | none => return ()
  | some stream => f stream

/-- The program behind a call; what it returns does not matter to the circuit. -/
def program : CircuitCall → CircuitM Unit
  | deliverRelayCell cell => Circuit.deliverRelayCell P W cell
  | deliverControlCell cell => Circuit.deliverControlCell P W cell
  | createNewStream autoclose => discard (Circuit.createNewStream autoclose)
  | closeStream streamId => onStream streamId (Circuit.closeStream P W)
  | readStream streamId size off len =>
    discard (Circuit.onInput streamId (TorInputStream.read size off len))
  | writeStream streamId data =>
    onStream streamId fun stream => writeOutput P W (sendCell P W) stream data
  | flushStream streamId => onStream streamId (flushOutput P W (sendCell P W))
  | sendRelayCellTo cell targetNode => Circuit.sendRelayCellTo P W cell targetNode
  | sendExtend hs ntorEnabled targetRouter =>
    discard (CircuitExtender.sendExtend P W hs ntorEnabled targetRouter)
  | finishExtend hs kind targetRouter =>
    discard (CircuitExtender.finishExtend hs kind targetRouter)
  | markForClose => Circuit.markForClose
  | destroy => Circuit.destroy P W

/-- A call, returned or ended by an exception, takes the circuit to its next state. -/
def step (c : Circuit) (call : Waits × CircuitCall) : Option Circuit :=
  some (final (call.2.program P call.1 c))

end CircuitCall

/-! ## The property and its condition -/

/-- A hop speaks for itself only. -/
structure HopsSpeakForThemselves (c : Circuit) : Prop where
  applications : ∀ a ∈ c.applications, a.cell.circuitNode = a.targetNode
  extensions : ∀ e ∈ c.extensions, e.response.circuitNode = e.finalNode

/-- The commands that are applied to a stream. -/
def addressesStream (bytes : CellBytes) : Bool :=
  match dispatch (bytes.getByteAt CELL_HEADER_LEN) with
  | .stream => true
  | .sendme => bytes.getShortAt 6 ≠ 0
  | _ => false

/-- The condition on a call in the state before it. -/
def Attributed (P : Platform) (c : Circuit) (call : Waits × CircuitCall) : Prop :=
  match call.2 with
  | .deliverRelayCell cell =>
    ∀ hop, (decryptNodes P c.nodeList cell.cellBytes).1 = some hop →
      addressesStream (decryptNodes P c.nodeList cell.cellBytes).2.2 = true →
      ∀ s ∈ c.streamMap,
        s.streamId = (decryptNodes P c.nodeList cell.cellBytes).2.2.getShortAt 6 →
        s.targetNode = hop
  | .finishExtend _ _ _ =>
    ∀ response ∈ c.relayCellResponseQueue.head?, response.circuitNode + 1 = c.nodeList.length
  | _ => True

instance decidableAttributed (P : Platform) (c : Circuit) :
    ∀ call : Waits × CircuitCall, Decidable (Attributed P c call)
  | (_, .deliverRelayCell cell) =>
    inferInstanceAs (Decidable (∀ hop ∈ (decryptNodes P c.nodeList cell.cellBytes).1,
      addressesStream (decryptNodes P c.nodeList cell.cellBytes).2.2 = true →
      ∀ s ∈ c.streamMap,
        s.streamId = (decryptNodes P c.nodeList cell.cellBytes).2.2.getShortAt 6 →
        s.targetNode = hop))
  | (_, .finishExtend _ _ _) =>
    inferInstanceAs (Decidable (∀ response ∈ c.relayCellResponseQueue.head?,
      response.circuitNode + 1 = c.nodeList.length))
  | (_, .deliverControlCell _) | (_, .createNewStream _) | (_, .closeStream _)
  | (_, .readStream _ _ _ _) | (_, .writeStream _ _) | (_, .flushStream _)
  | (_, .sendRelayCellTo _ _) | (_, .sendExtend _ _ _) | (_, .markForClose)
  | (_, .destroy) => .isTrue trivial

/-! ## What a call can note -/

/-- Between two states nothing was recorded. -/
def Unrecorded (c c' : Circuit) : Prop :=
  c'.applications = c.applications ∧ c'.extensions = c.extensions

theorem Unrecorded.order : StepOrder Unrecorded where
  refl _ := ⟨rfl, rfl⟩
  trans h h' := ⟨h'.1.trans h.1, h'.2.trans h.2⟩

variable {c c' : Circuit}

theorem Unrecorded.of_kept (h : Kept c c') : Unrecorded c c' :=
  ⟨h.applications, h.extensions⟩

theorem unrecorded_destroying : Destroying Unrecorded where
  order := Unrecorded.order
  nodes _ := ⟨rfl, rfl⟩
  stream _ := ⟨rfl, rfl⟩
  dropStream _ := ⟨rfl, rfl⟩
  sent _ := ⟨rfl, rfl⟩
  marked := ⟨rfl, rfl⟩
  closeCircuit :=
    Steps.mono (fun _ _ h => .of_kept h.kept) writes_destroying.closeCircuit
  destroyCircuit P W :=
    Steps.mono (fun _ _ h => .of_kept h.kept) (writes_destroying.destroyCircuit P W)

theorem HopsSpeakForThemselves.of_unrecorded (h : Unrecorded c c') (hc : HopsSpeakForThemselves c) :
    HopsSpeakForThemselves c' := by
  obtain ⟨happlications, hextensions⟩ := h
  exact ⟨by rw [happlications]; exact hc.applications, by rw [hextensions]; exact hc.extensions⟩

/-- Between two states a cell was applied to streams that end at `targetNode`, if any was. -/
def Notes (cell : RelayCell) (targetNode : Nat) (c c' : Circuit) : Prop :=
  (∀ a ∈ c'.applications, a ∈ c.applications ∨ a = ⟨cell, targetNode⟩) ∧
    c'.extensions = c.extensions

theorem Notes.order (cell : RelayCell) (targetNode : Nat) : StepOrder (Notes cell targetNode) where
  refl _ := ⟨fun _ ha => Or.inl ha, rfl⟩
  trans h h' := by
    refine ⟨fun a ha => ?_, h'.2.trans h.2⟩
    rcases h'.1 a ha with hbefore | hnew
    · exact h.1 a hbefore
    · exact Or.inr hnew

theorem Notes.of_kept {cell : RelayCell} {targetNode : Nat} (h : Kept c c') :
    Notes cell targetNode c c' :=
  ⟨fun _ ha => Or.inl (h.applications ▸ ha), h.extensions⟩

section Receiving

variable (P : Platform) (W : Waits)

/-- A stream applies the cell it is given, and nothing else. -/
theorem addInputCell_notes (stream : StreamImpl) (cell : RelayCell) :
    Steps (Notes cell stream.targetNode) (addInputCell P W stream cell) := by
  have hR := Notes.order cell stream.targetNode
  refine Steps.ite ?_ (hR.pure _)
  refine hR.fromExcept_bind fun stream' happly => ?_
  have htarget := (StreamImpl.applyCell_noted happly).targetNode
  refine hR.bind (Steps.modify fun c => ?_) fun _ => ?_
  · refine ⟨fun a ha => ?_, rfl⟩
    rcases List.mem_append.mp ha with hbefore | hnew
    · exact Or.inl hbefore
    · rw [htarget, List.mem_singleton] at hnew
      exact Or.inr hnew
  · have hupdate : Steps (Notes cell stream.targetNode)
        (updateStream stream'.streamId fun _ => stream') :=
      Steps.modify fun c => ⟨fun _ ha => Or.inl ha, rfl⟩
    have hsendme : Steps (Notes cell stream.targetNode) (considerSendingStreamSendme P W stream') :=
      Steps.mono (fun _ _ => Notes.of_kept)
        (stepsKept (considerSendingStreamSendme_steps P W writes_destroying stream'))
    refine hR.bind hupdate fun _ => Steps.ite ?_ (hR.pure _)
    refine Steps.ite ?_ hsendme
    exact hR.bind (hR.throw _) fun _ => hsendme

variable {c : Circuit} {cell : Cell}

/-- A cell that is looked up by its stream id is applied to a stream with that id. -/
theorem processRelayDataCell_notes {cell : RelayCell} {hop : Nat}
    (h : ∀ s ∈ c.streamMap, s.streamId = cell.streamId → s.targetNode = hop) :
    Notes cell hop c (final (processRelayDataCell P W cell c)) := by
  have hR := Notes.order cell hop
  have hcount := stepsKept (countDataCell_steps P W writes_destroying cell) c
  unfold processRelayDataCell
  rw [bind_run]
  cases hrun : countDataCell P W cell c with rw [hrun] at hcount
  | error e c₁ =>
    exact Notes.of_kept hcount
  | ok u c₁ =>
    refine hR.trans (Notes.of_kept hcount) ?_
    dsimp only
    rw [get_bind_run]
    cases hstream : getStream cell.streamId c₁ with
    | none => exact hR.refl c₁
    | some stream =>
      -- the stream was there before the circuit counted the cell
      obtain ⟨hmem, hid⟩ := getStream_some hstream
      obtain ⟨s, hs, hsame⟩ := hcount.streams stream hmem
      have htarget : stream.targetNode = hop := by
        rw [hsame.targetNode]
        exact h s hs (hsame.streamId.symm.trans hid)
      have hadd := addInputCell_notes P W stream cell c₁
      rw [htarget] at hadd
      exact hadd

variable {relayCell : RelayCell}

/-- What decryption does when a hop recognises the cell. -/
theorem decryptRelayCell_created (h : decryptRelayCell P W cell c = .ok relayCell c') :
    ∃ hop, (decryptNodes P c.nodeList cell.cellBytes).1 = some hop ∧
      c' = { c with nodeList := (decryptNodes P c.nodeList cell.cellBytes).2.1 } ∧
      createFromCell hop { cell with
        cellBytes := (decryptNodes P c.nodeList cell.cellBytes).2.2 } = .ok relayCell := by
  obtain ⟨r, c₁, hdecrypt, hcreate⟩ := bind_eq_ok.mp h
  cases hdecrypt
  cases hhop : (decryptNodes P c.nodeList cell.cellBytes).1 with rw [hhop] at hcreate
  | none =>
    obtain ⟨u, c₂, -, hthrow⟩ := bind_eq_ok.mp hcreate
    cases hthrow
  | some hop =>
    obtain ⟨hcell, rfl⟩ := fromExcept_eq_ok.mp hcreate
    exact ⟨hop, rfl, rfl, hcell⟩

/-- The hop that recognised the cell is the cell's node. -/
theorem decryptRelayCell_ok (h : decryptRelayCell P W cell c = .ok relayCell c') :
    Kept c c' ∧ c'.streamMap = c.streamMap ∧
      (decryptNodes P c.nodeList cell.cellBytes).1 = some relayCell.circuitNode ∧
      relayCell.relayCommand =
        (decryptNodes P c.nodeList cell.cellBytes).2.2.getByteAt CELL_HEADER_LEN ∧
      relayCell.streamId = (decryptNodes P c.nodeList cell.cellBytes).2.2.getShortAt 6 := by
  obtain ⟨hop, hhop, rfl, hcell⟩ := decryptRelayCell_created P W h
  have hdecoded := createFromCell_ok hcell
  refine ⟨Kept.of_nodes (decryptNodes_kept P c.nodeList cell.cellBytes), rfl, ?_,
    hdecoded.relayCommand, hdecoded.streamId⟩
  rw [hhop, hdecoded.circuitNode]

/-- What is done with a cell once it is attributed. -/
theorem dispatchRelayCell_notes {cell : RelayCell} {hop : Nat}
    (h : (dispatch cell.relayCommand = .stream ∨
        (dispatch cell.relayCommand = .sendme ∧ cell.streamId ≠ 0)) →
      ∀ s ∈ c.streamMap, s.streamId = cell.streamId → s.targetNode = hop) :
    Notes cell hop c (final (dispatchRelayCell P W cell c)) := by
  have hR := Notes.order cell hop
  unfold dispatchRelayCell
  cases hdispatch : dispatch cell.relayCommand with
  | response => exact ⟨fun _ ha => Or.inl ha, rfl⟩
  | stream => exact processRelayDataCell_notes P W (h (Or.inl hdispatch))
  | sendme =>
    split
    · rename_i hid
      exact processRelayDataCell_notes P W (h (Or.inr ⟨hdispatch, hid⟩))
    · exact Notes.of_kept (stepsKept (processCircuitSendme_steps Writes.ending.toSending cell) c)
  | forward =>
    have hdestroy := Writes.order.bind (destroyCircuit_steps P W Writes.ending) fun _ =>
      Writes.order.throw (α := Unit)
        (JavaException.tor (lit "Unexpected 'forward' direction relay cell type: " ++
          showInt cell.relayCommand))
    exact Notes.of_kept (stepsKept hdestroy c)
  | ignored => exact hR.refl c

/-- **A delivered cell** is applied to streams that end at the hop which recognised it, if every
stream it names does. -/
theorem deliverRelayCell_notes (h : ∀ hop, (decryptNodes P c.nodeList cell.cellBytes).1 = some hop →
      addressesStream (decryptNodes P c.nodeList cell.cellBytes).2.2 = true → ∀ s ∈ c.streamMap,
        s.streamId = (decryptNodes P c.nodeList cell.cellBytes).2.2.getShortAt 6 →
        s.targetNode = hop) :
    ∃ relayCell : RelayCell,
      Notes relayCell relayCell.circuitNode c (final (deliverRelayCell P W cell c)) := by
  have hdecrypted := stepsKept (decryptRelayCell_steps P W writes_destroying cell) c
  unfold deliverRelayCell
  rw [bind_run]
  cases hrun : decryptRelayCell P W cell c with
  | error e c₁ =>
    rw [hrun] at hdecrypted
    exact ⟨RelayCell.create 0 0 0 0 false, Notes.of_kept hdecrypted⟩
  | ok relayCell c₁ =>
    obtain ⟨hkept, hstreams, hhop, hcommand, hid⟩ := decryptRelayCell_ok P W hrun
    refine ⟨relayCell, (Notes.order _ _).trans (Notes.of_kept hkept) ?_⟩
    dsimp only
    rw [bind_run, logRelayCell_run]
    by_cases hlog : (relayCell.relayCommand = RELAY_TRUNCATED ∨
        relayCell.relayCommand = RELAY_END) ∧ relayCell.limit ≤ HEADER_SIZE
    · rw [if_pos hlog]
      exact (Notes.order _ _).refl c₁
    · rw [if_neg hlog]
      refine dispatchRelayCell_notes P W fun hcommandKind s hs hsid => ?_
      rw [hstreams] at hs
      refine h relayCell.circuitNode hhop ?_ s hs (hsid.trans hid)
      -- the command of the cell is the one the condition looks at
      unfold addressesStream
      rw [← hcommand, ← hid]
      rcases hcommandKind with hstream | ⟨hsendme, hne⟩
      · rw [hstream]
      · rw [hsendme]
        exact decide_eq_true hne

end Receiving

/-! ## Every call -/

section Calls

variable (P : Platform) (W : Waits) {c c' : Circuit}

theorem HopsSpeakForThemselves.of_notes {cell : RelayCell} (h : Notes cell cell.circuitNode c c')
    (hc : HopsSpeakForThemselves c) :
    HopsSpeakForThemselves c' := by
  refine ⟨fun a ha => ?_, by rw [h.2]; exact hc.extensions⟩
  rcases h.1 a ha with hbefore | rfl
  · exact hc.applications a hbefore
  · rfl

theorem discard_final {α : Type} (x : CircuitM α) (c : Circuit) :
    final ((discard x : CircuitM Unit) c) = final (x c) := by
  show final ((Functor.mapConst PUnit.unit x : CircuitM PUnit) c) = _
  show final ((EStateM.map (Function.const α PUnit.unit) x) c) = _
  unfold EStateM.map
  cases x c <;> rfl

variable {R : Circuit → Circuit → Prop}

theorem discard_steps {α : Type} {x : CircuitM α}
    (h : Steps R x) : Steps R (discard x : CircuitM Unit) := by
  intro c
  rw [discard_final]
  exact h c

theorem onStream_steps (hR : StepOrder R) {streamId : Nat}
    {f : StreamImpl → CircuitM Unit} (hf : ∀ s, Steps R (f s)) :
    Steps R (CircuitCall.onStream streamId f) := by
  refine Steps.get_bind fun c => ?_
  split
  · exact hR.pure _
  · exact hf _

/-- The calls that neither receive a cell nor extend the circuit nor destroy it. -/
theorem program_steps (hR : Destroying R) (hid : ∀ c id, R c { c with currentStreamId := id })
    (hmap : ∀ c streams, R c { c with streamMap := streams })
    (hlog : ∀ c log, R c { c with log := log })
    (hqueue : ∀ c cells, R c { c with controlCellResponseQueue := cells }) {call : CircuitCall}
    (hdeliver : ∀ cell, call ≠ .deliverRelayCell cell)
    (hfinish : ∀ hs kind target, call ≠ .finishExtend hs kind target)
    (hdestroy : call ≠ .destroy) : Steps R (call.program P W) := by
  have hsend := sendCell_steps P W hR
  have hrelay := sendRelayCellTo_steps P W hR
  cases call with
  | deliverRelayCell cell => exact absurd rfl (hdeliver cell)
  | deliverControlCell cell =>
    exact deliverControlCell_steps hR.order hlog hqueue (hR.destroyCircuit P W) cell
  | createNewStream autoclose =>
    exact discard_steps (createNewStream_steps hR.order hid hmap autoclose)
  | closeStream streamId => exact onStream_steps hR.order (closeStream_steps P W hR)
  | readStream streamId size off len =>
    exact discard_steps (onInput_steps hR.toSending streamId _)
  | writeStream streamId data =>
    exact onStream_steps hR.order fun s => writeOutput_steps P W hR.toSending hsend s data
  | flushStream streamId =>
    exact onStream_steps hR.order (flushOutput_steps P W hR.toSending hsend)
  | sendRelayCellTo cell targetNode => exact hrelay cell targetNode
  | sendExtend hs ntorEnabled target =>
    exact discard_steps (sendExtend_steps P W hR.order hrelay hs ntorEnabled target)
  | finishExtend hs kind target => exact absurd rfl (hfinish hs kind target)
  | markForClose => exact markForClose_steps hR.toClosing
  | destroy => exact absurd rfl hdestroy

/-- An extension that raises has recorded nothing. -/
theorem finishExtend_error {hs : Handshakes} {kind : ExtendKind} {target : Router}
    {e : JavaException} (h : CircuitExtender.finishExtend hs kind target c = .error e c') :
    Unrecorded c c' := by
  have hR := Unrecorded.order
  have hreceived :=
    receiveRelayResponse_steps hR (fun _ _ => ⟨rfl, rfl⟩) kind.expected target c
  unfold CircuitExtender.finishExtend at h
  rw [bind_run] at h
  cases hrun : receiveRelayResponse kind.expected target c with rw [hrun] at h hreceived
  | error e' c₁ =>
    cases h
    exact hreceived
  | ok response c₁ =>
    refine hR.trans hreceived ?_
    -- of the rest only the last step records, and it does not raise
    simp only [processExtended] at h
    cases hpayload : kind.payload response with
    | error e' =>
      rw [hpayload] at h
      cases h
      exact hR.refl _
    | ok payload =>
      rw [hpayload, bind_of_ok (fromExcept_ok payload c₁)] at h
      cases hderive : (kind.agreement hs target).deriveKeys payload with
      | error e' =>
        rw [hderive] at h
        cases h
        exact hR.refl _
      | ok result =>
        rw [hderive, bind_of_ok (fromExcept_ok result c₁)] at h
        cases result with
        | none => cases h
        | some keys =>
          obtain ⟨n, hnode, -⟩ := createNode_keyed target keys
          simp only [createNewNode, hnode] at h
          rw [bind_run, bind_run] at h
          cases hfinal : getFinalCircuitNode c₁ with
          | error e' c₂ =>
            have hunrecorded := getFinalCircuitNode_steps hR c₁
            rw [hfinal] at h hunrecorded
            cases h
            exact hunrecorded
          | ok final c₂ =>
            rw [hfinal] at h
            cases h

/-- **The step.** A call that meets the condition keeps every hop to itself. -/
theorem hopsSpeakForThemselves_step (call : Waits × CircuitCall) (hc : HopsSpeakForThemselves c)
    (hcall : Attributed P c call) (hstep : CircuitCall.step P c call = some c') :
    HopsSpeakForThemselves c' := by
  obtain ⟨W, call⟩ := call
  cases hstep
  cases call with
  | deliverRelayCell cell =>
    obtain ⟨relayCell, hnotes⟩ := deliverRelayCell_notes P W hcall
    exact HopsSpeakForThemselves.of_notes hnotes hc
  | finishExtend hs kind target =>
    show HopsSpeakForThemselves (final (discard (CircuitExtender.finishExtend hs kind target) c))
    rw [discard_final]
    cases hrun : CircuitExtender.finishExtend hs kind target c with
    | error e c₁ => exact HopsSpeakForThemselves.of_unrecorded (finishExtend_error hrun) hc
    | ok o c₁ =>
      obtain ⟨response, rest, payload, result, hqueue, -, -, -, hresult⟩ := finishExtend_ok hrun
      cases result with
      | none =>
        obtain ⟨-, rfl⟩ := hresult
        exact ⟨hc.applications, hc.extensions⟩
      | some keys =>
        obtain ⟨n, -, -, rfl⟩ := hresult
        refine ⟨hc.applications, fun e he => ?_⟩
        rcases List.mem_append.mp he with hbefore | hnew
        · exact hc.extensions e hbefore
        · -- the answer was next in the queue, and by the condition it is the final node's
          cases List.mem_singleton.mp hnew
          have hfinal : response.circuitNode + 1 = c.nodeList.length :=
            hcall response (by rw [hqueue]; rfl)
          show response.circuitNode = c.nodeList.length - 1
          omega
  | destroy =>
    exact .of_unrecorded (destroy_steps P W unrecorded_destroying (fun _ => ⟨rfl, rfl⟩) c) hc
  | _ =>
    refine .of_unrecorded (program_steps P W unrecorded_destroying ?_ ?_ ?_ ?_ ?_ ?_ ?_ c) hc
    · exact fun _ _ => ⟨rfl, rfl⟩
    · exact fun _ _ => ⟨rfl, rfl⟩
    · exact fun _ _ => ⟨rfl, rfl⟩
    · exact fun _ _ => ⟨rfl, rfl⟩
    all_goals exact nofun

end Calls

/-- What arrives at the client of two cells that the relay at position `hop` sends. -/
def sampleArrivals (hop : Nat) (first second : Cell) : Cell × Cell :=
  let hops := [(sampleNode 1).hop, (sampleNode 2).hop]
  let sent := Hop.sendBack Platform.checksum hops hop first.cellBytes
  let sent' := Hop.sendBack Platform.checksum sent.1 hop second.cellBytes
  ({ first with cellBytes := sent.2 }, { second with cellBytes := sent'.2 })

/-- A stream is opened, bytes for it arrive, and so does an answer to an extension, which is then
used; both cells are sent by the relay at position `hop`. -/
def sampleCalls (hop : Nat) : List (Waits × CircuitCall) :=
  let arrivals := sampleArrivals hop (sampleCell 1 RELAY_DATA [10, 11])
    (sampleCell 0 RELAY_EXTENDED (List.replicate 148 3))
  [(Waits.never, .createNewStream false),
    (Waits.never, .deliverRelayCell arrivals.1),
    (Waits.never, .deliverRelayCell arrivals.2),
    (Waits.never, .finishExtend (Handshakes.always (some sampleKeys)) .tap sampleTarget)]

/-- The circuit after the first `n` of these calls. -/
@[irreducible] def sampleHistory (hop n : Nat) : Option Circuit :=
  Runs.run (CircuitCall.step Platform.checksum) (sampleOpen [sampleNode 1, sampleNode 2])
    ((sampleCalls hop).take n)

/-- Who sent what was applied to the stream, and who answered; and where the stream and the circuit
ended. -/
def speakers (c : Circuit) : List (Nat × Nat) × List (Nat × Nat) :=
  (c.applications.map fun a => (a.cell.circuitNode, a.targetNode),
    c.extensions.map fun e => (e.response.circuitNode, e.finalNode))

end Orchid
