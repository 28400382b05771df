import Mathlib
import Orchid.Circuits.CircuitIO

/-!
# Orchid — what sending and closing leave alone

Most calls on a circuit send cells, and a send can end in the destruction of the circuit, which
closes its streams, which sends again. All of that moves keystreams, adds to digests, counts
windows and drops streams; it never changes who a node is or where a stream ends.

* `NodeKept`: the same hop, keyed as before.
* `Kept`: the nodes are kept one by one, the queues of answers and the records of extensions and
  of applied cells are as they were, and every stream that is left is one of those that were there.
* `Write` lists the single writes these calls are made of, and `Writes` their sequences. What every
  write keeps, every call keeps (`Writes.lift`).
* **`sendRelayCellTo_steps`**, **`destroyCircuit_steps`**, **`closeStream_steps`** and the like say
  that the calls do nothing else: they stay within every relation that allows these writes
  (`Sending`, `Ending`).
-/

namespace Orchid

open Prog

/-! ## Nodes -/

/-- The same hop: its router, its checksum and cipher keys are unchanged, and its digests
contain what they contained. -/
structure NodeKept (n n' : CircuitNode) : Prop where
  router : n'.router = n.router
  checksum : n'.cryptoState.checksumDigest = n.cryptoState.checksumDigest
  forwardKey : n'.cryptoState.forwardCipher.keyBytes = n.cryptoState.forwardCipher.keyBytes
  backwardKey : n'.cryptoState.backwardCipher.keyBytes = n.cryptoState.backwardCipher.keyBytes
  forwardDigest : n.cryptoState.forwardDigest.data <+: n'.cryptoState.forwardDigest.data
  backwardDigest : n.cryptoState.backwardDigest.data <+: n'.cryptoState.backwardDigest.data

namespace NodeKept

theorem refl (n : CircuitNode) : NodeKept n n :=
  ⟨rfl, rfl, rfl, rfl, List.prefix_refl _, List.prefix_refl _⟩

theorem trans {n n' n'' : CircuitNode} (h : NodeKept n n') (h' : NodeKept n' n'') :
    NodeKept n n'' :=
  ⟨h'.router.trans h.router, h'.checksum.trans h.checksum, h'.forwardKey.trans h.forwardKey,
    h'.backwardKey.trans h.backwardKey, h.forwardDigest.trans h'.forwardDigest,
    h.backwardDigest.trans h'.backwardDigest⟩

/-- A call that leaves the crypto state alone keeps the node. -/
theorem of_crypto {n n' : CircuitNode} (hrouter : n'.router = n.router)
    (hcrypto : n'.cryptoState = n.cryptoState) : NodeKept n n' := by
  refine ⟨hrouter, ?_, ?_, ?_, ?_, ?_⟩
  all_goals rw [hcrypto]

end NodeKept

theorem TorStreamCipher.nextKeystreamByte_key (P : Platform) (cipher : TorStreamCipher) :
    (cipher.nextKeystreamByte P).2.keyBytes = cipher.keyBytes := by
  unfold nextKeystreamByte
  split <;> rfl

theorem TorStreamCipher.skip_key (P : Platform) (n : Nat) (cipher : TorStreamCipher) :
    (cipher.skip P n).keyBytes = cipher.keyBytes := by
  unfold skip
  induction n generalizing cipher with
  | zero => rfl
  | succ n ih =>
    show (Keystream.advance (nextKeystreamByte P) n (nextKeystreamByte P cipher).2).keyBytes = _
    rw [ih, nextKeystreamByte_key]

variable (P : Platform) (W : Waits) (n : CircuitNode) (c : CellBytes)

theorem encryptForwardCell_kept : NodeKept n (n.encryptForwardCell P c).2 := by
  have hkey : (n.cryptoState.forwardCipher.encryptPayload P c).2.keyBytes =
      n.cryptoState.forwardCipher.keyBytes := by
    rw [TorStreamCipher.encryptPayload_state, TorStreamCipher.skip_key]
  exact ⟨rfl, rfl, hkey, rfl, List.prefix_refl _, List.prefix_refl _⟩

theorem updateForwardDigest_kept : NodeKept n (n.updateForwardDigest c) :=
  ⟨rfl, rfl, rfl, rfl, List.prefix_append _ _, List.prefix_refl _⟩

theorem decryptBackwardCell_kept : NodeKept n (n.decryptBackwardCell P c).2.1 := by
  have hkey : (n.cryptoState.backwardCipher.encryptPayload P c).2.keyBytes =
      n.cryptoState.backwardCipher.keyBytes := by
    rw [TorStreamCipher.encryptPayload_state, TorStreamCipher.skip_key]
  unfold CircuitNode.decryptBackwardCell
  rw [CircuitNodeCryptoState.decryptBackwardCell_eq]
  dsimp only
  split
  · exact ⟨rfl, rfl, rfl, hkey, List.prefix_refl _, List.prefix_append _ _⟩
  · exact ⟨rfl, rfl, rfl, hkey, List.prefix_refl _, List.prefix_refl _⟩

theorem waitForSendWindow_kept {n n' : CircuitNode} {decrement : Bool}
    {wakeup : CircuitNode.Wakeup} (h : n.waitForSendWindow decrement wakeup = .ok n') :
    NodeKept n n' := by
  obtain ⟨window, -, hnode⟩ := except_bind_eq_ok.mp h
  cases hnode
  exact NodeKept.of_crypto rfl rfl

/-! ## Circuits -/

/-- Two states of one stream. -/
structure SameStream (s s' : StreamImpl) : Prop where
  streamId : s'.streamId = s.streamId
  targetNode : s'.targetNode = s.targetNode

theorem SameStream.refl (s : StreamImpl) : SameStream s s := ⟨rfl, rfl⟩

theorem SameStream.trans {s s' s'' : StreamImpl} (h : SameStream s s') (h' : SameStream s' s'') :
    SameStream s s'' :=
  ⟨h'.streamId.trans h.streamId, h'.targetNode.trans h.targetNode⟩

structure Kept (c c' : Circuit) : Prop where
  nodes : List.Forall₂ NodeKept c.nodeList c'.nodeList
  relayQueue : c'.relayCellResponseQueue = c.relayCellResponseQueue
  controlQueue : c'.controlCellResponseQueue = c.controlCellResponseQueue
  extensions : c'.extensions = c.extensions
  applications : c'.applications = c.applications
  streams : ∀ s' ∈ c'.streamMap, ∃ s ∈ c.streamMap, SameStream s s'

theorem nodesKept_refl (nodes : List CircuitNode) : List.Forall₂ NodeKept nodes nodes :=
  List.forall₂_same.mpr fun n _ => NodeKept.refl n

theorem nodesKept_trans {nodes nodes' nodes'' : List CircuitNode}
    (h : List.Forall₂ NodeKept nodes nodes') (h' : List.Forall₂ NodeKept nodes' nodes'') :
    List.Forall₂ NodeKept nodes nodes'' := by
  induction h generalizing nodes'' with
  | nil => exact h'
  | cons hn _ ih =>
    cases h' with
    | cons hn' hrest => exact .cons (hn.trans hn') (ih hrest)

/-- The last node is kept as the last. -/
theorem nodesKept_concat {nodes nodes' : List CircuitNode} {n : CircuitNode}
    (h : List.Forall₂ NodeKept (nodes ++ [n]) nodes') :
    ∃ front last, List.Forall₂ NodeKept nodes front ∧ NodeKept n last ∧
      nodes' = front ++ [last] := by
  induction nodes generalizing nodes' with
  | nil =>
    obtain ⟨last, rest, hlast, hrest, rfl⟩ := List.forall₂_cons_left_iff.mp h
    cases hrest
    exact ⟨[], last, .nil, hlast, rfl⟩
  | cons m nodes ih =>
    obtain ⟨m', rest, hm, hrest, rfl⟩ := List.forall₂_cons_left_iff.mp h
    obtain ⟨front, last, hfront, hlast, rfl⟩ := ih hrest
    exact ⟨m' :: front, last, .cons hm hfront, hlast, rfl⟩

theorem Kept.order : StepOrder Kept where
  refl c := ⟨nodesKept_refl _, rfl, rfl, rfl, rfl, fun s hs => ⟨s, hs, SameStream.refl s⟩⟩
  trans h h' := by
    refine ⟨nodesKept_trans h.nodes h'.nodes, h'.relayQueue.trans h.relayQueue,
      h'.controlQueue.trans h.controlQueue, h'.extensions.trans h.extensions,
      h'.applications.trans h.applications, ?_⟩
    intro s'' hs''
    obtain ⟨s', hs', hsame'⟩ := h'.streams s'' hs''
    obtain ⟨s, hs, hsame⟩ := h.streams s' hs'
    exact ⟨s, hs, hsame.trans hsame'⟩

variable {c c' : Circuit}

/-- A step that touches neither nodes nor streams nor queues. -/
theorem Kept.of_untouched (hnodes : c'.nodeList = c.nodeList)
    (hstreams : c'.streamMap ⊆ c.streamMap)
    (hrelay : c'.relayCellResponseQueue = c.relayCellResponseQueue)
    (hcontrol : c'.controlCellResponseQueue = c.controlCellResponseQueue)
    (hextensions : c'.extensions = c.extensions) (happlications : c'.applications = c.applications)
    : Kept c c' :=
  ⟨hnodes ▸ nodesKept_refl _, hrelay, hcontrol, hextensions, happlications,
    fun s hs => ⟨s, hstreams hs, SameStream.refl s⟩⟩

/-- A step that only changes the nodes. -/
theorem Kept.of_nodes {nodes : List CircuitNode} (h : List.Forall₂ NodeKept c.nodeList nodes) :
    Kept c { c with nodeList := nodes } :=
  ⟨h, rfl, rfl, rfl, rfl, fun s hs => ⟨s, hs, SameStream.refl s⟩⟩

/-! ## Writes -/

/-- One write of the calls that send and close. -/
inductive Write : Circuit → Circuit → Prop where
  | nodes {c : Circuit} {nodes : List CircuitNode} (h : List.Forall₂ NodeKept c.nodeList nodes) :
      Write c { c with nodeList := nodes }
  | stream {c : Circuit} {streamId : Nat} {f : StreamImpl → StreamImpl}
      (h : ∀ s, SameStream s (f s)) :
      Write c { c with
        streamMap := c.streamMap.map fun s => if s.streamId = streamId then f s else s }
  | dropStream {c : Circuit} (streamId : Nat) :
      Write c { c with streamMap := c.streamMap.filter fun s => s.streamId ≠ streamId }
  | sent {c : Circuit} (cell : Cell) : Write c { c with sent := c.sent ++ [cell] }
  | idRemoved {c : Circuit} :
      Write c { c with inCircuitMap := false, log := c.log ++ [.idRemoved] }
  | destroySent {c : Circuit} : Write c { c with log := c.log ++ [.destroySent] }
  | destroyed {c : Circuit} : Write c { c with state := .DESTROYED, isActive := false }
  | inactive {c : Circuit} : Write c { c with isActive := false }
  | closed {c : Circuit} : Write c { c with isClosed := true }
  | marked {c : Circuit} : Write c { c with isMarkedForClose := true }

abbrev Writes : Circuit → Circuit → Prop := Relation.ReflTransGen Write

theorem Writes.order : StepOrder Writes where
  refl _ := .refl
  trans h h' := h.trans h'

variable {R : Circuit → Circuit → Prop}

/-- What every write keeps, every call keeps. -/
theorem Writes.lift (hR : StepOrder R)
    (hwrite : ∀ c c', Write c c' → R c c') (h : Writes c c') : R c c' := by
  induction h with
  | refl => exact hR.refl c
  | tail _ hlast ih => exact hR.trans ih (hwrite _ _ hlast)

theorem Write.kept (h : Write c c') : Kept c c' := by
  cases h with
  | nodes h => exact Kept.of_nodes h
  | @stream streamId f h =>
    refine ⟨nodesKept_refl _, rfl, rfl, rfl, rfl, ?_⟩
    intro s' hs'
    obtain ⟨s, hs, rfl⟩ := List.mem_map.mp hs'
    refine ⟨s, hs, ?_⟩
    split
    · exact h s
    · exact SameStream.refl s
  | dropStream => exact Kept.of_untouched rfl (List.filter_subset_self _) rfl rfl rfl rfl
  | _ => exact Kept.of_untouched rfl (List.Subset.refl _) rfl rfl rfl rfl

theorem Writes.kept (h : Writes c c') : Kept c c' :=
  h.lift Kept.order fun _ _ => Write.kept

variable {α : Type}

/-- Calls that only write so. -/
theorem stepsKept {x : CircuitM α} (h : Steps Writes x) : Steps Kept x :=
  Steps.mono (fun _ _ => Writes.kept) h

/-- The relations that allow what sending a cell writes, and dropping a stream. -/
structure Sending (R : Circuit → Circuit → Prop) : Prop where
  order : StepOrder R
  nodes : ∀ {c : Circuit} {nodes : List CircuitNode}, List.Forall₂ NodeKept c.nodeList nodes →
    R c { c with nodeList := nodes }
  stream : ∀ {c : Circuit} {streamId : Nat} {f : StreamImpl → StreamImpl},
    (∀ s, SameStream s (f s)) → R c { c with
      streamMap := c.streamMap.map fun s => if s.streamId = streamId then f s else s }
  dropStream : ∀ {c : Circuit} (streamId : Nat),
    R c { c with streamMap := c.streamMap.filter fun s => s.streamId ≠ streamId }
  sent : ∀ {c : Circuit} (cell : Cell), R c { c with sent := c.sent ++ [cell] }

/-- The relations that also allow what ends a circuit. -/
structure Ending (R : Circuit → Circuit → Prop) : Prop extends Sending R where
  idRemoved : ∀ {c : Circuit}, R c { c with inCircuitMap := false, log := c.log ++ [.idRemoved] }
  destroySent : ∀ {c : Circuit}, R c { c with log := c.log ++ [.destroySent] }
  destroyed : ∀ {c : Circuit}, R c { c with state := .DESTROYED, isActive := false }
  closed : ∀ {c : Circuit}, R c { c with isClosed := true }
  marked : ∀ {c : Circuit}, R c { c with isMarkedForClose := true }

/-- The relations that also allow the closing of a circuit that is marked. -/
structure Closing (R : Circuit → Circuit → Prop) : Prop extends Sending R where
  marked : ∀ {c : Circuit}, R c { c with isMarkedForClose := true }
  closeCircuit : Steps R Circuit.closeCircuit

/-- The relations that also allow the destruction of a circuit. -/
structure Destroying (R : Circuit → Circuit → Prop) : Prop extends Closing R where
  destroyCircuit : ∀ (P : Platform) (W : Waits), Steps R (Circuit.destroyCircuit P W)

theorem Writes.ending : Ending Writes where
  order := Writes.order
  nodes h := .single (.nodes h)
  stream h := .single (.stream h)
  dropStream streamId := .single (.dropStream streamId)
  sent cell := .single (.sent cell)
  idRemoved := .single .idRemoved
  destroySent := .single .destroySent
  destroyed := .single .destroyed
  closed := .single .closed
  marked := .single .marked

namespace Circuit

theorem encryptForward_kept (nodes : List CircuitNode) (i : Nat) (bytes : CellBytes) :
    List.Forall₂ NodeKept nodes (encryptForward P nodes i bytes).1 := by
  induction nodes generalizing i with
  | nil => exact .nil
  | cons n nodes ih =>
    cases i with
    | zero => exact .cons (encryptForwardCell_kept P n bytes) (nodesKept_refl nodes)
    | succ i => exact .cons (encryptForwardCell_kept P n _) (ih i)

theorem decryptNodes_kept (nodes : List CircuitNode) (bytes : CellBytes) :
    List.Forall₂ NodeKept nodes (decryptNodes P nodes bytes).2.1 := by
  induction nodes generalizing bytes with
  | nil => exact .nil
  | cons n nodes ih =>
    have hn := decryptBackwardCell_kept P n bytes
    unfold decryptNodes
    dsimp only
    split
    · exact .cons hn (nodesKept_refl nodes)
    · exact .cons hn (ih _)

/-- Asking for the final node changes nothing. -/
theorem getFinalCircuitNode_steps (hR : StepOrder R) : Steps R getFinalCircuitNode := by
  refine Steps.get_bind fun c => ?_
  refine Steps.ite ?_ (hR.pure _)
  exact hR.bind (hR.throw _) fun _ => hR.pure _

/-- A new stream takes an id and enters the map. -/
theorem createNewStream_steps (hR : StepOrder R)
    (hid : ∀ c id, R c { c with currentStreamId := id })
    (hmap : ∀ c streams, R c { c with streamMap := streams }) (autoclose : Bool) :
    Steps R (createNewStream autoclose) := by
  have hnext : Steps R nextStreamId := by
    refine Steps.get_bind fun c => ?_
    exact hR.bind (Steps.modify fun c => hid c _) fun _ => hR.pure _
  refine hR.bind hnext fun streamId => ?_
  refine hR.bind (getFinalCircuitNode_steps hR) fun final => ?_
  exact hR.bind (Steps.modify fun c => hmap c _) fun _ => hR.pure _

/-- A control cell is queued, or noted as the reason to destroy the circuit. -/
theorem deliverControlCell_steps (hR : StepOrder R)
    {P : Platform} {W : Waits} (hlog : ∀ c log, R c { c with log := log })
    (hqueue : ∀ c cells, R c { c with controlCellResponseQueue := cells })
    (hdestroy : Steps R (destroyCircuit P W)) (cell : Cell) :
    Steps R (deliverControlCell P W cell) := by
  refine Steps.ite ?_ (Steps.modify fun c => hqueue c _)
  unfold processDestroyCell
  split
  · exact hR.throw _
  · exact hR.bind (Steps.modify fun c => hlog c _) fun _ => hdestroy

/-! ## Sending

The rules of `Steps` follow the programs; what is proved about each is that its own writes are
among those a relation allows. -/

section Sending

variable {R : Circuit → Circuit → Prop} (hR : Sending R)
include hR

theorem onNode_steps {i : Nat} {f : CircuitNode → Except JavaException (α × CircuitNode)}
    (hf : ∀ n a n', f n = .ok (a, n') → NodeKept n n') : Steps R (onNode i f) := by
  intro c
  unfold onNode
  rw [bind_run]
  cases hnode : c.nodeList[i]? with simp only [get_run, hnode]
  | none =>
    exact hR.order.refl c
  | some n =>
    cases hrun : f n with
    | error e =>
      rw [bind_of_error (show fromExcept (Except.error e) c = .error e c from rfl)]
      exact hR.order.refl c
    | ok r =>
      obtain ⟨a, n'⟩ := r
      rw [bind_of_ok (show fromExcept (Except.ok (a, n')) c = .ok (a, n') c from rfl)]
      -- only the node at position `i` is replaced
      refine hR.nodes ?_
      rw [List.forall₂_iff_get]
      refine ⟨(List.length_set ..).symm, fun k hk hk' => ?_⟩
      simp only [List.get_eq_getElem, List.getElem_set]
      split
      · rename_i hik
        subst hik
        have hget : c.nodeList[i] = n := by
          rw [List.getElem?_eq_getElem hk] at hnode
          exact Option.some.inj hnode
        rw [hget]
        exact hf n a n' hrun
      · exact NodeKept.refl _

theorem encryptCell_steps (targetNode : Nat) (bytes : CellBytes) :
    Steps R (encryptCell P targetNode bytes) := fun c =>
  hR.nodes (encryptForward_kept P c.nodeList targetNode bytes)

theorem decryptCell_steps (bytes : CellBytes) : Steps R (decryptCell P bytes) := fun c =>
  hR.nodes (decryptNodes_kept P c.nodeList bytes)

theorem updateStream_steps {streamId : Nat} {f : StreamImpl → StreamImpl}
    (hf : ∀ s, SameStream s (f s)) : Steps R (updateStream streamId f) := by
  exact Steps.modify fun c => hR.stream hf

/-- Waiting for the window of a node. -/
theorem onNode_wait_steps (i : Nat) (decrement : Bool) (wakeup : CircuitNode.Wakeup) :
    Steps R (onNode i fun node => do return ((), ← node.waitForSendWindow decrement wakeup)) := by
  refine onNode_steps hR ?_
  intro n a n' h
  obtain ⟨m, hm, hret⟩ := except_bind_eq_ok.mp h
  cases hret
  exact waitForSendWindow_kept hm

theorem encryptRelayCellTo_steps (cell : RelayCell) (targetNode : Nat) :
    Steps R (encryptRelayCellTo P W cell targetNode) := by
  have hdigest : ∀ (n : CircuitNode) (a : List UInt8) n',
      (Except.ok ((n.updateForwardDigest cell.setLength.cellBytes).getForwardDigestBytes P,
        n.updateForwardDigest cell.setLength.cellBytes) :
        Except JavaException (List UInt8 × CircuitNode)) = .ok (a, n') → NodeKept n n' := by
    intro n a n' h
    cases h
    exact updateForwardDigest_kept n _
  refine hR.order.bind (onNode_steps hR hdigest) fun digest => ?_
  refine hR.order.bind (encryptCell_steps P hR _ _) fun bytes => ?_
  split
  · exact hR.order.bind (onNode_wait_steps hR _ _ _) fun _ => hR.order.pure _
  · exact hR.order.bind (hR.order.pure _) fun _ => hR.order.pure _

theorem writeCell_steps (cell : Cell) : Steps R (writeCell cell) := by
  refine Steps.get_bind fun c => ?_
  refine (hR.order.pure _).ite ?_
  exact hR.order.bind (Steps.modify fun c => hR.sent cell) fun _ =>
    hR.order.pure _

section Output

variable {send : Cell → CircuitM Unit} (hsend : ∀ cell, Steps R (send cell))
include hsend

variable (stream : StreamImpl)

theorem sendPending_steps : Steps R (sendPending P W send stream) := by
  unfold sendPending
  split
  · exact hR.order.pure _
  · have hwait : Steps R (waitForSendWindowAndDecrement W stream) := by
      refine hR.order.bind (hR.order.fromExcept _) fun waited => ?_
      refine hR.order.bind (updateStream_steps hR fun s => ⟨rfl, rfl⟩) fun _ => ?_
      exact onNode_wait_steps hR _ _ _
    refine hR.order.bind hwait fun _ => ?_
    refine hR.order.bind (encryptRelayCellTo_steps P W hR _ _) fun cell => ?_
    exact hR.order.bind (hsend cell) fun _ => updateStream_steps hR fun s => ⟨rfl, rfl⟩

theorem flushCurrentOutputCell_steps : Steps R (flushCurrentOutputCell P W send stream) := by
  refine hR.order.bind (sendPending_steps P W hR hsend stream) fun _ => ?_
  refine Steps.get_bind fun c => ?_
  exact updateStream_steps hR fun s => ⟨rfl, rfl⟩

theorem flushOutput_steps : Steps R (flushOutput P W send stream) :=
  (flushCurrentOutputCell_steps P W hR hsend stream).ite (hR.order.pure _)

theorem writeRounds_steps (streamId rounds : Nat) (data : List UInt8) :
    Steps R (writeRounds P W send streamId rounds data) := by
  induction rounds generalizing data with
  | zero => exact hR.order.pure _
  | succ rounds ih =>
    refine Steps.get_bind fun c => ?_
    split
    · exact hR.order.pure _
    · split
      · exact hR.order.throw _
      · refine (hR.order.pure _).ite (Steps.ite ?_ ?_)
        · refine hR.order.bind (hR.order.fromExcept _) fun cell => ?_
          exact updateStream_steps hR fun s => ⟨rfl, rfl⟩
        · refine hR.order.bind (hR.order.fromExcept _) fun full => ?_
          refine hR.order.bind (updateStream_steps hR fun s => ⟨rfl, rfl⟩) fun _ => ?_
          refine hR.order.bind (flushCurrentOutputCell_steps P W hR hsend _) fun _ => ?_
          exact ih _

theorem prepareOutput_steps : Steps R (prepareOutput P W send stream) := by
  have hflush := flushCurrentOutputCell_steps P W hR hsend stream
  unfold prepareOutput
  split
  · exact hflush
  · exact hflush.ite (hR.order.pure _)

theorem writeOutput_steps (data : List UInt8) : Steps R (writeOutput P W send stream data) := by
  have hwrite : Steps R (do
      prepareOutput P W send stream
      writeRounds P W send stream.streamId (data.length + 1) data) :=
    hR.order.bind (prepareOutput_steps P W hR hsend stream) fun _ =>
      writeRounds_steps P W hR hsend _ _ _
  refine Steps.ite ?_ hwrite
  exact hR.order.bind (hR.order.throw _) fun _ => hwrite

theorem closeOutput_steps : Steps R (closeOutput P W send stream) := by
  refine Steps.ite ?_ (hR.order.pure _)
  refine hR.order.bind (flushOutput_steps P W hR hsend stream) fun _ => ?_
  exact updateStream_steps hR fun s => ⟨rfl, rfl⟩

theorem sendEndCell_steps : Steps R (sendEndCell P W send stream) := by
  refine Steps.ite ?_ (hR.order.pure _)
  refine hR.order.bind (getFinalCircuitNode_steps hR.order) fun final => ?_
  refine Steps.get_bind fun c => ?_
  refine hR.order.bind (hR.order.fromExcept _) fun cell => ?_
  exact hR.order.bind (encryptRelayCellTo_steps P W hR _ _) hsend

end Output

theorem processCircuitSendme_steps (cell : RelayCell) : Steps R (processCircuitSendme cell) := by
  refine onNode_steps hR ?_
  intro n a n' h
  cases h
  exact NodeKept.of_crypto rfl rfl

theorem onInput_steps (streamId : Nat) (x : TorInputStream.InputM α) :
    Steps R (onInput streamId x) := by
  refine Steps.get_bind fun c => ?_
  split
  · exact hR.order.throw _
  · split
    · exact hR.order.bind (updateStream_steps hR fun s => ⟨rfl, rfl⟩) fun _ =>
        hR.order.pure _
    · exact hR.order.bind (updateStream_steps hR fun s => ⟨rfl, rfl⟩) fun _ =>
        hR.order.throw _

end Sending

/-! ## Closing -/

variable {c : Circuit}

theorem writeCell_closed (cell : Cell) (h : c.connectionClosed = true) :
    writeCell cell c = .ok false c := by
  unfold writeCell
  rw [get_bind_run, if_pos h]
  rfl

theorem writeCell_open (cell : Cell) (h : c.connectionClosed = false) :
    writeCell cell c = .ok true { c with sent := c.sent ++ [cell] } := by
  unfold writeCell
  rw [get_bind_run, if_neg (by rw [h]; decide)]
  rfl

theorem sendDestroyCell_run (c : Circuit) :
    ∃ cell, sendDestroyCell c = .ok () (if c.connectionClosed then c
      else { c with sent := c.sent ++ [cell], log := c.log ++ [.destroySent] }) := by
  -- there is room for the reason in a new cell
  have hput : ∃ cell, (Cell.createCell c.circuitId Cell.DESTROY).putByte 0 = .ok cell := ⟨_, rfl⟩
  obtain ⟨cell, hcell⟩ := hput
  refine ⟨cell, ?_⟩
  unfold sendDestroyCell
  rw [get_bind_run, hcell, bind_of_ok (fromExcept_ok cell c)]
  by_cases hclosed : c.connectionClosed = true
  · rw [if_pos hclosed, bind_of_ok (writeCell_closed cell hclosed)]
    rfl
  · rw [if_neg hclosed, bind_of_ok (writeCell_open cell (Bool.eq_false_iff.mpr hclosed))]
    rfl

/-- Closing a circuit returns. -/
theorem closeCircuit_run (c : Circuit) :
    ∃ sent, closeCircuit c = .ok () { c with
      sent := sent
      log := c.log ++ (if c.connectionClosed then [] else [.destroySent]) ++ [.idRemoved]
      inCircuitMap := false
      state := .DESTROYED
      isActive := false
      isClosed := true } := by
  obtain ⟨cell, hsend⟩ := sendDestroyCell_run c
  unfold closeCircuit
  rw [bind_of_ok hsend]
  by_cases hclosed : c.connectionClosed = true
  · refine ⟨c.sent, ?_⟩
    rw [if_pos hclosed, if_pos hclosed, List.append_nil]
    rfl
  · refine ⟨c.sent ++ [cell], ?_⟩
    rw [if_neg hclosed, if_neg hclosed]
    rfl

theorem destroyCircuit_closed (hclosed : c.isClosed = true) : destroyCircuit P W c = .ok () c := by
  unfold destroyCircuit
  rw [get_bind_run, hclosed]
  rfl

/-- What destroying a circuit does before it closes the streams. -/
theorem destroyCircuit_run (hclosed : c.isClosed = false) :
    destroyCircuit P W c = (do
      c.streamMap.forM (closeStreamWith P W fun _ => return ())
      modify fun c => { c with isClosed := true } : CircuitM Unit) { c with
        state := .DESTROYED
        isActive := false
        inCircuitMap := false
        log := c.log ++ [.idRemoved] } := by
  have hopen : (!c.isClosed) = true := by
    rw [hclosed]
    rfl
  unfold destroyCircuit
  rw [get_bind_run, if_pos hopen]
  rfl

section Closing

variable {R : Circuit → Circuit → Prop} (hR : Closing R)
include hR

theorem markForClose_steps : Steps R markForClose := by
  refine Steps.get_bind fun c => Steps.ite ?_ (hR.order.pure _)
  refine hR.order.bind (Steps.modify fun c => hR.marked) fun _ => ?_
  · refine Steps.get_bind fun c => ?_
    exact hR.closeCircuit.ite (hR.order.pure _)

theorem removeStream_steps (streamId : Nat) : Steps R (removeStream streamId) := by
  refine hR.order.bind (Steps.modify fun c => hR.dropStream streamId) fun _ => ?_
  · refine Steps.get_bind fun c => ?_
    refine Steps.get_bind fun c' => ?_
    exact hR.closeCircuit.ite (hR.order.pure _)

variable {send : Cell → CircuitM Unit}

theorem leaveCircuit_steps (hsend : ∀ cell, Steps R (send cell))
    (stream : StreamImpl) : Steps R (leaveCircuit P W send stream) := by
  have hend := sendEndCell_steps P W hR.toSending hsend stream
  refine hR.order.bind (removeStream_steps hR stream.streamId) fun _ => ?_
  exact (hR.order.bind (markForClose_steps hR) fun _ => hend).ite hend

theorem closeStreamWith_steps (hsend : ∀ cell, Steps R (send cell))
    (stream : StreamImpl) : Steps R (closeStreamWith P W send stream) := by
  refine Steps.ite ?_ (hR.order.pure _)
  refine hR.order.bind (updateStream_steps hR.toSending fun s => ⟨rfl, rfl⟩) fun _ => ?_
  refine hR.order.bind (closeOutput_steps P W hR.toSending hsend stream) fun _ => ?_
  exact leaveCircuit_steps P W hR hsend stream

end Closing

section Ending

variable {R : Circuit → Circuit → Prop} (hR : Ending R)
include hR

theorem removeCircuit_steps : Steps R removeCircuit :=
  Steps.modify fun _ => hR.idRemoved

theorem setStateDestroyed_steps : Steps R setStateDestroyed :=
  Steps.modify fun _ => hR.destroyed

theorem sendDestroyCell_steps : Steps R sendDestroyCell := by
  refine Steps.get_bind fun c => ?_
  refine hR.order.bind (hR.order.fromExcept _) fun destroy => ?_
  refine hR.order.bind (writeCell_steps hR.toSending destroy) fun written => ?_
  exact (Steps.modify fun c => hR.destroySent).ite (hR.order.pure _)

theorem closeCircuit_steps : Steps R closeCircuit := by
  refine hR.order.bind (sendDestroyCell_steps hR) fun _ => ?_
  refine hR.order.bind (removeCircuit_steps hR) fun _ => ?_
  exact hR.order.bind (setStateDestroyed_steps hR) fun _ => Steps.modify fun c => hR.closed

/-- Closing is made of what ends a circuit. -/
theorem closing_of_ending : Closing R where
  toSending := hR.toSending
  marked := hR.marked
  closeCircuit := closeCircuit_steps hR

/-- What `destroyCircuit` does once the circuit is DESTROYED. -/
theorem closeStreams_steps : Steps R (do
    removeCircuit
    (← get).streamMap.forM (closeStreamWith P W fun _ => return ())
    modify fun c => { c with isClosed := true }) := by
  have hclose : ∀ s, Steps R (closeStreamWith P W (fun _ => return ()) s) := fun s =>
    closeStreamWith_steps P W (closing_of_ending hR) (fun _ => hR.order.pure _) s
  refine hR.order.bind (removeCircuit_steps hR) fun _ => ?_
  refine Steps.get_bind fun c => ?_
  exact hR.order.bind (hR.order.forM fun s _ => hclose s) fun _ =>
    Steps.modify fun c => hR.closed

theorem destroyCircuit_steps : Steps R (destroyCircuit P W) := by
  refine Steps.get_bind fun c => ?_
  refine Steps.ite ?_ (hR.order.pure _)
  exact hR.order.bind (setStateDestroyed_steps hR) fun _ => closeStreams_steps P W hR

/-- So is its destruction. -/
theorem destroying_of_ending : Destroying R where
  toClosing := closing_of_ending hR
  destroyCircuit := fun P W => destroyCircuit_steps P W hR

end Ending

theorem writes_destroying : Destroying Writes := destroying_of_ending Writes.ending

section Destroying

variable {R : Circuit → Circuit → Prop} (hR : Destroying R)
include hR

theorem sendCell_steps (cell : Cell) : Steps R (sendCell P W cell) := by
  refine Steps.get_bind fun c => Steps.ite ?_ (hR.order.pure _)
  refine hR.order.bind (writeCell_steps hR.toSending cell) fun open' => ?_
  exact (hR.destroyCircuit P W).ite (hR.order.pure _)

theorem sendRelayCellTo_steps (cell : RelayCell) (targetNode : Nat) :
    Steps R (sendRelayCellTo P W cell targetNode) :=
  hR.order.bind (encryptRelayCellTo_steps P W hR.toSending cell targetNode) fun _ => sendCell_steps P W hR _

theorem closeStream_steps (stream : StreamImpl) : Steps R (closeStream P W stream) :=
  closeStreamWith_steps P W hR.toClosing (fun _ => sendCell_steps P W hR _) stream

/-! ## Receiving

What receiving does apart from handing cells to the streams and the queues. -/

theorem considerSendingStreamSendme_steps (stream : StreamImpl) :
    Steps R (considerSendingStreamSendme P W stream) := by
  refine Steps.ite ?_ (hR.order.pure _)
  refine Steps.get_bind fun c => ?_
  refine hR.order.bind (sendRelayCellTo_steps P W hR _ _) fun _ => ?_
  exact updateStream_steps hR.toSending fun s => ⟨rfl, rfl⟩

theorem countDataCell_steps (cell : RelayCell) : Steps R (countDataCell P W cell) := by
  have hwindow : ∀ (n : CircuitNode) (a : Bool) n',
      (Except.ok n.decrementDeliverWindow.considerSendingSendme :
        Except JavaException (Bool × CircuitNode)) = .ok (a, n') → NodeKept n n' := by
    intro n a n' h
    unfold CircuitNode.considerSendingSendme at h
    split at h
    · cases h
      exact NodeKept.of_crypto rfl rfl
    · cases h
      exact NodeKept.of_crypto rfl rfl
  refine Steps.ite ?_ (hR.order.pure _)
  refine hR.order.bind (onNode_steps hR.toSending hwindow) fun sendSendme => ?_
  refine Steps.ite ?_ (hR.order.pure _)
  refine Steps.get_bind fun c => ?_
  exact sendRelayCellTo_steps P W hR _ _

theorem decryptRelayCell_steps (cell : Cell) : Steps R (decryptRelayCell P W cell) := by
  refine hR.order.bind (decryptCell_steps P hR.toSending _) fun r => ?_
  obtain ⟨hop, bytes⟩ := r
  cases hop with
  | none =>
    exact hR.order.bind (hR.destroyCircuit P W) fun _ => hR.order.throw _
  | some node => exact hR.order.fromExcept _

theorem destroy_steps (hinactive : ∀ c : Circuit, R c { c with isActive := false }) :
    Steps R (destroy P W) := by
  have hset : Steps R (modify fun c : Circuit => { c with isActive := false } : CircuitM Unit) :=
    Steps.modify hinactive
  refine Steps.get_bind fun c => ?_
  exact (hR.order.bind (hR.destroyCircuit P W) fun _ => hset).ite hset

end Destroying

end Circuit

end Orchid
