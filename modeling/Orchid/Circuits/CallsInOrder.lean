import Orchid.Circuits.Attribution
import Orchid.Circuits.WellFormed

/-!
# Orchid — every circuit is in order

The invariant of `WellFormed` over whole histories: a circuit starts in order, and no call on it,
returned or ended by an exception, in whatever order they come, takes it out of it. So what is
proved of circuits in order is proved of every circuit there is.

* `KeepsOrder`: a program after which the circuit is in order if it was before.
* **`wellFormed_step`**, **`circuit_in_order`**: the calls keep it, one and many.
-/

namespace Orchid

open Prog RelayCell Circuit CircuitExtender

/-- Wherever it stops, the program leaves a circuit in order so. -/
def KeepsOrder {α : Type} (x : CircuitM α) : Prop :=
  Steps (fun c c' : Circuit => c.WellFormed → c'.WellFormed) x

theorem keepsOrder_order : StepOrder fun c c' : Circuit => c.WellFormed → c'.WellFormed :=
  StepOrder.invariant Circuit.WellFormed

/-- What a call raises does not matter here. -/
theorem mayWait_any : MayWait IntWindows fun _ => True :=
  ⟨mayWait_ints.windows, fun _ _ => trivial⟩

theorem KeepsOrder.of_safe {α : Type} {x : CircuitM α} {Q : α → Prop}
    (h : ∀ ends n, Safe (Serves ends n IntWindows) (fun _ => True) x Q) : KeepsOrder x := by
  intro c hc
  obtain ⟨ends, hserves⟩ := hc.serves
  exact ((h ends _).final hserves).wellFormed

/-! ## Writing and reading -/

section Calls

variable {ends : Nat → Nat} {n : Nat} (P : Platform) (W : Waits)

theorem put_same {cell cell' : RelayCell} {data : List UInt8} (h : cell.putByteArray data = .ok cell') :
    cell'.circuitNode = cell.circuitNode ∧ cell'.relayCommand = cell.relayCommand := by
  obtain ⟨inner, -, hcell⟩ := except_bind_eq_ok.mp h
  cases hcell
  exact ⟨rfl, rfl⟩

section Output

variable {send : Cell → CircuitM Unit}
  (hsend : ∀ cell, Safe (Serves ends n IntWindows) (fun _ => True) (send cell) fun _ => True)
include hsend

theorem writeRounds_safe (streamId rounds : Nat) (data : List UInt8) :
    Safe (Serves ends n IntWindows) (fun _ => True) (writeRounds P W send streamId rounds data)
      fun _ => True := by
  induction rounds generalizing data with
  | zero => exact Safe.pure trivial
  | succ rounds ih =>
    refine Safe.get.bind fun c hc => ?_
    split
    · exact Safe.pure trivial
    · rename_i stream hfound
      obtain ⟨hmem, rfl⟩ := getStream_some hfound
      have hstream := hc.streams stream hmem
      split
      · exact Safe.throw trivial
      · rename_i cell hcell
        -- what is put into the cell leaves it a DATA cell for the same node
        have hput : ∀ {data : List UInt8} {cell' : RelayCell}, cell.putByteArray data = .ok cell' →
            cell'.circuitNode = stream.targetNode ∧ cell'.relayCommand = RELAY_DATA := by
          intro data cell' h
          obtain ⟨hnode, hcommand⟩ := hstream.output cell hcell
          obtain ⟨hnode', hcommand'⟩ := put_same h
          exact ⟨hnode'.trans hnode, hcommand'.trans hcommand⟩
        refine Safe.ite (fun _ => Safe.pure trivial) fun _ => Safe.ite (fun _ => ?_) fun _ => ?_
        · refine (Safe.fromExcept (fun _ h => hput h) fun _ _ => trivial).bind fun cell' hcell' => ?_
          refine updateStream_filled hstream (fun s => ⟨rfl, rfl⟩) fun s filled hfilled => ?_
          cases hfilled
          exact hcell'
        · refine (Safe.fromExcept (fun _ h => hput h) fun _ _ => trivial).bind fun full hfull => ?_
          refine Safe.bind (updateStream_filled hstream (fun s => ⟨rfl, rfl⟩) ?_) fun _ _ => ?_
          · intro s filled hfilled
            cases hfilled
            exact hfull
          refine (flushCurrentOutputCell_safe P W hsend mayWait_any ?_).bind fun _ _ => ih _
          refine ⟨⟨hstream.streamId, hstream.target, fun filled hfilled => ?_⟩, hstream.known⟩
          cases hfilled
          exact hfull

variable {stream : StreamImpl}

theorem writeOutput_safe (hstream : stream.Known ends n) (data : List UInt8) :
    Safe (Serves ends n IntWindows) (fun _ => True) (writeOutput P W send stream data)
      fun _ => True := by
  have hflush := flushCurrentOutputCell_safe P W hsend mayWait_any hstream
  have hprepare : Safe (Serves ends n IntWindows) (fun _ => True) (prepareOutput P W send stream)
      fun _ => True := by
    unfold prepareOutput
    split
    · exact hflush
    · exact Safe.when fun _ => hflush
  have hwrite := hprepare.bind fun _ _ =>
    writeRounds_safe P W hsend stream.streamId (data.length + 1) data
  refine Safe.ite (fun _ => ?_) fun _ => hwrite
  exact Safe.bind (Q := fun _ => True) (Safe.throw trivial) fun _ _ => hwrite

end Output

theorem onStream_safe {streamId : Nat} {f : StreamImpl → CircuitM Unit}
    (hf : ∀ s : StreamImpl, s.Known ends n →
      Safe (Serves ends n IntWindows) (fun _ => True) (f s) fun _ => True) :
    Safe (Serves ends n IntWindows) (fun _ => True) (CircuitCall.onStream streamId f)
      fun _ => True := by
  refine Safe.get.bind fun c hc => ?_
  split
  · exact Safe.pure trivial
  · rename_i stream hfound
    exact hf stream (hc.streams stream (getStream_some hfound).1)

theorem onInput_safe {α : Type} (streamId : Nat) (x : TorInputStream.InputM α) :
    Safe (Serves ends n IntWindows) (fun _ => True) (onInput streamId x) fun _ => True := by
  refine Safe.get.bind fun c _ => ?_
  split
  · exact Safe.throw trivial
  · split
    · exact Safe.bind (updateStream_quiet streamId fun s => ⟨⟨rfl, rfl⟩, rfl⟩) fun _ _ =>
        Safe.pure trivial
    · exact Safe.bind (updateStream_quiet streamId fun s => ⟨⟨rfl, rfl⟩, rfl⟩) fun _ _ =>
        Safe.throw trivial

/-- A cell for a node that does not exist is not sent. -/
theorem sendRelayCellTo_any (cell : RelayCell) (i : Nat) :
    Safe (Serves ends n IntWindows) (fun _ => True) (Circuit.sendRelayCellTo P W cell i)
      fun _ => True := by
  by_cases hi : i < n
  · exact sendRelayCellTo_safe P W mayWait_any cell hi
  · intro c hc
    have hnone : c.nodeList[i]? = none := by
      rw [List.getElem?_eq_none_iff, hc.length]
      omega
    unfold Circuit.sendRelayCellTo
    rw [bind_of_error (encryptRelayCellTo_none P W hnone)]
    exact ⟨hc, trivial⟩

end Calls

/-! ## New streams and new nodes -/

variable {c c' : Circuit}

theorem nextStreamId_ok {id : Nat} (h : nextStreamId c = .ok id c') : id ≤ 0xFFFF := by
  cases h
  split
  · decide
  · omega

/-- The new stream takes the place of one with its id. -/
theorem Circuit.WellFormed.addStream (hc : c.WellFormed)
    (hstream : stream.WellFormed c.nodeList.length) :
    Circuit.WellFormed { c with
      streamMap := stream :: c.streamMap.filter fun s => s.streamId ≠ stream.streamId } := by
  refine ⟨?_, fun s hs => ?_, hc.windows⟩
  · show List.Nodup (stream.streamId :: List.map _ (List.filter _ _))
    refine List.nodup_cons.mpr ⟨fun hmem => ?_, hc.ids.sublist (List.filter_sublist.map _)⟩
    obtain ⟨s, hs, hid⟩ := List.mem_map.mp hmem
    have hother : s.streamId ≠ stream.streamId := by simpa using List.of_mem_filter hs
    exact hother hid
  · rcases List.mem_cons.mp hs with rfl | hmem
    · exact hstream
    · exact hc.streams s (List.mem_of_mem_filter hmem)

theorem createNewStream_keeps (autoclose : Bool) : KeepsOrder (createNewStream autoclose) := by
  intro c hc
  have hid : ∃ id, nextStreamId c = .ok id { c with currentStreamId := id } := ⟨_, rfl⟩
  obtain ⟨id, hid⟩ := hid
  have hkept : WellFormed { c with currentStreamId := id } := ⟨hc.ids, hc.streams, hc.windows⟩
  have hrange := nextStreamId_ok hid
  unfold createNewStream
  rw [bind_of_ok hid]
  -- the stream ends at the node that is final now
  unfold getFinalCircuitNode
  simp only [bind_run, get_run]
  cases hnodes : c.nodeList.isEmpty with
  | true => exact hkept
  | false =>
    have hlength : c.nodeList.length - 1 < c.nodeList.length := by
      have := List.length_pos_of_ne_nil (List.isEmpty_eq_false_iff.mp hnodes)
      omega
    exact hkept.addStream ⟨hrange, hlength, fun cell hcell => nomatch hcell⟩

variable {node : CircuitNode}

theorem createNode_window {r : Router} {keys : DerivedKeys}
    (h : CircuitNode.createNode r keys.keyMaterial keys.verifyHash = .ok node) :
    IsInt node.packageWindow := by
  obtain ⟨cs, -, hnode⟩ := except_bind_eq_ok.mp h
  cases hnode
  show javaInt 1000 = 1000
  decide

theorem Circuit.WellFormed.appendNode (hc : c.WellFormed) (hnode : IsInt node.packageWindow) :
    Circuit.WellFormed { c with nodeList := c.nodeList ++ [node] } := by
  refine ⟨hc.ids, fun s hs => ?_, fun m hm => ?_⟩
  · obtain ⟨hid, htarget, houtput⟩ := hc.streams s hs
    refine ⟨hid, ?_, houtput⟩
    show s.targetNode < (c.nodeList ++ [node]).length
    rw [List.length_append]
    omega
  · rcases List.mem_append.mp hm with hmem | hnew
    · exact hc.windows m hmem
    · rw [List.mem_singleton.mp hnew]
      exact hnode

theorem createNewNode_keeps (r : Router) (keys : DerivedKeys) (response : RelayCell) :
    KeepsOrder (createNewNode r keys response) := by
  have hR := keepsOrder_order
  refine hR.bind (getFinalCircuitNode_steps hR) fun final => ?_
  refine hR.fromExcept_bind fun node hnode => ?_
  refine hR.bind (Steps.modify fun c hc => hc.appendNode (createNode_window hnode)) fun _ => ?_
  refine hR.bind (Steps.modify fun c hc => ?_) fun _ => hR.pure _
  exact ⟨hc.ids, hc.streams, hc.windows⟩

theorem finishExtend_keeps (hs : Handshakes) (kind : ExtendKind) (target : Router) :
    KeepsOrder (CircuitExtender.finishExtend hs kind target) :=
  finishExtend_steps keepsOrder_order (fun _ _ hc => ⟨hc.ids, hc.streams, hc.windows⟩)
    createNewNode_keeps hs kind target

/-! ## Histories -/

/-- A call keeps the circuit in order. -/
theorem wellFormed_step (P : Platform) (call : Waits × CircuitCall) (hc : c.WellFormed)
    (hstep : CircuitCall.step P c call = some c') : c'.WellFormed := by
  obtain ⟨W, call⟩ := call
  cases hstep
  suffices hkeeps : KeepsOrder (call.program P W) from hkeeps c hc
  have hsend : ∀ cell i, KeepsOrder (Circuit.sendRelayCellTo P W cell i) := fun cell i =>
    KeepsOrder.of_safe fun ends n => sendRelayCellTo_any P W cell i
  cases call with
  | deliverRelayCell cell =>
    exact KeepsOrder.of_safe fun ends n => deliverRelayCell_safe P W mayWait_any trivial cell
  | deliverControlCell cell =>
    exact KeepsOrder.of_safe fun ends n => deliverControlCell_safe P W mayWait_any fun _ => trivial
  | createNewStream autoclose => exact discard_steps (createNewStream_keeps autoclose)
  | closeStream streamId =>
    exact KeepsOrder.of_safe fun ends n => onStream_safe fun s hs =>
      closeStream_safe P W mayWait_any hs
  | readStream streamId size off len =>
    exact discard_steps (KeepsOrder.of_safe fun ends n => onInput_safe streamId _)
  | writeStream streamId data =>
    exact KeepsOrder.of_safe fun ends n => onStream_safe fun s hs =>
      writeOutput_safe P W (sendCell_safe P W mayWait_any) hs data
  | flushStream streamId =>
    exact KeepsOrder.of_safe fun ends n => onStream_safe fun s hs =>
      flushOutput_safe P W (sendCell_safe P W mayWait_any) mayWait_any hs
  | sendRelayCellTo cell targetNode => exact hsend cell targetNode
  | sendExtend hs ntorEnabled target =>
    exact discard_steps (sendExtend_steps P W keepsOrder_order hsend hs ntorEnabled target)
  | finishExtend hs kind target => exact discard_steps (finishExtend_keeps hs kind target)
  | markForClose => exact KeepsOrder.of_safe fun ends n => markForClose_safe
  | destroy => exact KeepsOrder.of_safe fun ends n => destroy_safe P W mayWait_any

/-- **A circuit is in order after every history of calls**, exceptions and timeouts included. -/
theorem circuit_in_order (P : Platform) (currentStreamId : Nat)
    (managerIsBuilding connectionClosed : Bool) (created : List Cell) (extended : List RelayCell)
    (calls : List (Waits × CircuitCall)) (c' : Circuit)
    (hrun : Runs.run (CircuitCall.step P) (Circuit.create currentStreamId managerIsBuilding
      connectionClosed created extended) calls = some c') : c'.WellFormed := by
  refine Runs.invariant (I := Circuit.WellFormed) (G := fun _ _ => True)
    (fun _ call _ hs _ hstep => wellFormed_step P call hs hstep) ?_
    (Runs.meets_of_forall (fun _ _ => trivial) _ calls) hrun
  -- a new circuit has neither streams nor nodes
  exact ⟨List.nodup_nil, fun _ hs => absurd hs List.not_mem_nil, fun _ hnode =>
    absurd hnode List.not_mem_nil⟩

theorem circuit_in_order_destroyed :
    ∃ c', Runs.run (CircuitCall.step Platform.checksum) (Circuit.create 7 true false [] [])
        [(Waits.never, .createNewStream true), (Waits.never, .destroy)] = some c' ∧
      c'.WellFormed :=
  ⟨_, rfl, circuit_in_order Platform.checksum 7 true false [] []
    [(Waits.never, .createNewStream true), (Waits.never, .destroy)] _ rfl⟩

end Orchid
