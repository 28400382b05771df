import Orchid.Circuits.Forward
import Orchid.Circuits.Frame

/-!
# Orchid — sends that fail

The relays follow the forward keystreams and digests of the client cell by cell. A send that fails
without a cell going out must therefore leave them where they were, unless the circuit is given up
with it.

`sendRelayCellTo` can fail in three places. There may be no such node; the connection may be
closed, which destroys the circuit; and the thread may be interrupted while it waits for the window
of the target. That wait comes after the cell was counted and encrypted.

* `FailsAtomically`: the property of a call.
* `Interrupted`: the third case.
* **`send_atomic_iff`**: a send has the property except in the third case, and the waits that a
  stream makes before it sends have it always.
-/

namespace Orchid

open Prog RelayCell

/-- The forward digests and keystreams of the nodes. -/
def forwardStates (nodes : List CircuitNode) : List (TorMessageDigest × TorStreamCipher) :=
  nodes.map fun n => (n.cryptoState.forwardDigest, n.cryptoState.forwardCipher)

/-- They are all that being mirrored depends on. -/
theorem mirrored_of_forwardStates {nodes nodes' : List CircuitNode} {hops : List Hop}
    (hstates : forwardStates nodes' = forwardStates nodes)
    (hm : List.Forall₂ ForwardMirrored nodes hops) : List.Forall₂ ForwardMirrored nodes' hops := by
  induction hm generalizing nodes' with
  | nil =>
    cases nodes' with
    | nil => exact .nil
    | cons n' nodes' => cases hstates
  | cons hfirst _ ih =>
    cases nodes' with
    | nil => cases hstates
    | cons n' nodes' =>
      obtain ⟨hhead, htail⟩ := List.cons.inj hstates
      have hdigest := congrArg Prod.fst hhead
      have hcipher := congrArg Prod.snd hhead
      exact .cons ⟨hdigest.trans hfirst.digest, hcipher.trans hfirst.cipher⟩ (ih htail)

variable {n : CircuitNode}

theorem forwardStates_set {nodes : List CircuitNode} {i : Nat} {n' : CircuitNode}
    (hn : nodes[i]? = some n) (hcrypto : n'.cryptoState = n.cryptoState) :
    forwardStates (nodes.set i n') = forwardStates nodes :=
  Lists.map_set_of_eq hn (by rw [hcrypto])

/-- A circuit that was destroyed, and is not active. -/
def Dead (c : Circuit) : Prop := c.state = .DESTROYED ∧ c.isActive = false

namespace Circuit

variable (P : Platform) (W : Waits)

/-! ## The connection is closed -/

variable {c c' : Circuit} {e : JavaException}

/-- What ends a circuit leaves it dead. -/
theorem Write.dead (h : Write c c') (hc : Dead c) : Dead c' := by
  obtain ⟨hstate, hactive⟩ := hc
  cases h with
  | destroyed => exact ⟨rfl, rfl⟩
  | inactive => exact ⟨hstate, rfl⟩
  | _ => exact ⟨hstate, hactive⟩

/-- Once begun, the destruction of a circuit leaves it dead, whether or not it comes to its end. -/
theorem destroyCircuit_dead (h : c.isClosed = false) :
    Dead (final (destroyCircuit P W c)) := by
  unfold destroyCircuit
  simp only [bind_run, get_run, h, Bool.not_false, if_true]
  have hwrites := closeStreams_steps P W Writes.ending
    { c with state := .DESTROYED, isActive := false }
  exact hwrites.lift (StepOrder.invariant Dead) (fun _ _ => Write.dead) ⟨rfl, rfl⟩

theorem destroyCircuit_error (h : destroyCircuit P W c = .error e c') : c'.state = .DESTROYED := by
  cases hclosed : c.isClosed with
  | true =>
    rw [destroyCircuit_closed P W hclosed] at h
    cases h
  | false =>
    have hdead := destroyCircuit_dead P W hclosed
    rw [h] at hdead
    exact hdead.1

theorem sendCell_error {wire : Cell} (h : sendCell P W wire c = .error e c') :
    c'.state = .DESTROYED := by
  unfold sendCell writeCell at h
  simp only [bind_run, get_run] at h
  split at h
  · cases hclosed : c.connectionClosed with
    | true =>
      simp only [bind_run, get_run, hclosed, if_true, pure_run, Bool.not_false] at h
      exact destroyCircuit_error P W h
    | false =>
      simp only [bind_run, get_run, hclosed, Bool.false_eq_true, if_false, modify_run, pure_run,
        Bool.not_true] at h
      cases h
  · cases h

/-! ## The wait fails -/

variable {wakeup : CircuitNode.Wakeup}

theorem awaitWindow_error {window increment : Int} {message : JString}
    (h : CircuitNode.awaitWindow window increment message wakeup = .error e) :
    window = 0 ∧ (wakeup = .interrupted ∧ e = .tor message ∨ e = .blocked) := by
  unfold CircuitNode.awaitWindow at h
  split at h
  · rename_i hwindow
    refine ⟨hwindow, ?_⟩
    cases wakeup with
    | interrupted =>
      cases h
      exact Or.inl ⟨rfl, rfl⟩
    | incremented times =>
      dsimp only at h
      split at h
      · cases h
        exact Or.inr rfl
      · cases h
    | never =>
      cases h
      exact Or.inr rfl
  · cases h

theorem waitForSendWindow_error {decrement : Bool}
    (h : n.waitForSendWindow decrement wakeup = .error e) :
    n.packageWindow = 0 ∧ (wakeup = .interrupted ∨ e = .blocked) := by
  rcases except_bind_eq_error.mp h with hawait | ⟨window, -, hreturn⟩
  · exact (awaitWindow_error hawait).imp id (Or.imp_left And.left)
  · cases hreturn

theorem waitForSendWindow_interrupted (decrement : Bool) (h : n.packageWindow = 0) :
    n.waitForSendWindow decrement .interrupted =
      .error (.tor (lit "Thread interrupted while waiting for circuit send window")) := by
  unfold CircuitNode.waitForSendWindow CircuitNode.awaitWindow
  rw [if_pos h]
  rfl

/-! ## Atomicity -/

/-- If the call ends with an exception and the circuit stays usable, no forward digest or keystream
has moved; relays that mirrored the circuit handle what is sent next as they should. A call that
never ends has not ended with an exception. -/
def FailsAtomically (x : CircuitM Unit) (c : Circuit) : Prop :=
  ∀ e c', x c = .error e c' → e ≠ .blocked → isConnectedOrBuilding c' = true →
    forwardStates c'.nodeList = forwardStates c.nodeList ∧
      ∀ hops sends, List.Forall₂ ForwardMirrored c.nodeList hops → c'.connectionClosed = false →
        (∀ send ∈ sends, Outgoing send.cell) → ForwardSimulates P hops c' sends

/-- The thread is interrupted in the wait that `sendRelayCellTo` makes. -/
def Interrupted (cell : RelayCell) (targetNode : Nat) (c : Circuit) : Prop :=
  isConnectedOrBuilding c = true ∧ cell.relayCommand = RELAY_DATA ∧
    W.node targetNode = .interrupted ∧
    ∃ node, c.nodeList[targetNode]? = some node ∧ node.packageWindow = 0

theorem FailsAtomically.of_forwardStates {x : CircuitM Unit}
    (h : ∀ e c', x c = .error e c' → e ≠ .blocked → isConnectedOrBuilding c' = true →
      forwardStates c'.nodeList = forwardStates c.nodeList) : FailsAtomically P x c := by
  intro e c' hrun he husable
  have hstates := h e c' hrun he husable
  refine ⟨hstates, fun hops sends hm hopen hout => ?_⟩
  exact forwardSimulates P hops c' sends (mirrored_of_forwardStates hstates hm) hopen husable hout

variable {cell : RelayCell} {targetNode : Nat}

/-- What an interrupted send leaves: the target's digest has counted a cell that was not sent. -/
theorem interrupted_moves (h : Interrupted W cell targetNode c) :
    ∃ e c', sendRelayCellTo P W cell targetNode c = .error e c' ∧ e ≠ .blocked ∧
      isConnectedOrBuilding c' = true ∧
      forwardStates c'.nodeList ≠ forwardStates c.nodeList := by
  obtain ⟨husable, hdata, hinterrupted, node, hnode, hwindow⟩ := h
  obtain ⟨n, hn, hsame, hdigest⟩ := sealNodes_get P cell hnode
  have hencrypt := encryptRelayCellTo_run P W hnode hn
  rw [if_pos hdata, hinterrupted, CircuitNode.waitForSendWindowAndDecrement,
    waitForSendWindow_interrupted true (hsame.trans hwindow)] at hencrypt
  refine ⟨_, _, bind_of_error hencrypt, nofun, husable, ?_⟩
  intro hstates
  -- the digest of the target has grown by a whole payload
  have hget := congrArg (fun l => l[targetNode]?) hstates
  simp only [forwardStates, List.getElem?_map, hn, hnode, Option.map_some, Option.some.injEq,
    Prod.mk.injEq] at hget
  have hgrown := congrArg (fun d => d.data.length) (hdigest.symm.trans hget.1)
  rw [TorMessageDigest.update_data, List.length_append, CellBytes.payload,
    CellBytes.getBytesAt_length (by decide)] at hgrown
  exact absurd hgrown (by rw [show CELL_PAYLOAD_LEN = 509 from rfl]; omega)

theorem send_atomic (h : ¬ Interrupted W cell targetNode c) :
    FailsAtomically P (sendRelayCellTo P W cell targetNode) c := by
  refine FailsAtomically.of_forwardStates P fun e c' hrun he husable => ?_
  unfold sendRelayCellTo at hrun
  cases hnode : c.nodeList[targetNode]? with
  | none =>
    rw [bind_of_error (encryptRelayCellTo_none P W hnode)] at hrun
    cases hrun
    rfl
  | some node =>
    obtain ⟨n, hn, hsame, -⟩ := sealNodes_get P cell hnode
    have hencrypt := encryptRelayCellTo_run P W hnode hn
    -- a failure of the connection leaves the circuit destroyed
    have hsent : ∀ wire d, sendCell P W wire d = .error e c' →
        forwardStates c'.nodeList = forwardStates c.nodeList := by
      intro wire d hsend
      unfold isConnectedOrBuilding at husable
      rw [sendCell_error P W hsend] at husable
      exact absurd husable (by decide)
    by_cases hdata : cell.relayCommand = RELAY_DATA
    · rw [if_pos hdata] at hencrypt
      cases hwait : n.waitForSendWindowAndDecrement (W.node targetNode) with rw [hwait] at hencrypt
      | ok waited =>
        rw [bind_of_ok hencrypt] at hrun
        exact hsent _ _ hrun
      | error e' =>
        rw [bind_of_error hencrypt] at hrun
        cases hrun
        obtain ⟨hzero, hcause⟩ := waitForSendWindow_error hwait
        rcases hcause with hinterrupted | hblocked
        · exact absurd ⟨husable, hdata, hinterrupted, node, hnode, hsame.symm.trans hzero⟩ h
        · exact absurd hblocked he
    · rw [if_neg hdata] at hencrypt
      rw [bind_of_ok hencrypt] at hrun
      exact hsent _ _ hrun

/-- The waits of a stream come before anything is encrypted. -/
theorem wait_forwardStates (stream : StreamImpl) (c : Circuit) :
    forwardStates (final (waitForSendWindowAndDecrement W stream c)).nodeList =
      forwardStates c.nodeList := by
  unfold waitForSendWindowAndDecrement
  cases stream.waitForSendWindowAndDecrement (W.stream stream.streamId) with
  | error e => rfl
  | ok waited =>
    rw [bind_of_ok (fromExcept_ok waited c)]
    unfold updateStream onNode
    simp only [bind_run, modify_run, get_run]
    cases hnode : c.nodeList[stream.targetNode]? with
    | none => rfl
    | some node =>
      dsimp only
      cases hwait : node.waitForSendWindow false (W.node stream.targetNode) with
      | error e => rfl
      | ok node' => exact forwardStates_set hnode (waitForSendWindow_cryptoState hwait)

/-- The write of a stream: the waits for its windows, and then the send, in the state that the other
threads have made of the circuit meanwhile. -/
structure WriteFailsAtomically (stream : StreamImpl) (cell : RelayCell) (others : Circuit → Circuit)
    (c : Circuit) : Prop where
  waiting : FailsAtomically P (waitForSendWindowAndDecrement W stream) c
  sending : ∀ c₁, waitForSendWindowAndDecrement W stream c = .ok () c₁ →
    FailsAtomically P (sendRelayCellTo P W cell cell.circuitNode) (others c₁)

/-- A send, alone or as part of a write, fails atomically exactly when it is not interrupted in its
own wait for the window of the target. -/
theorem send_atomic_iff (cell : RelayCell) (targetNode : Nat) (c : Circuit) :
    (FailsAtomically P (sendRelayCellTo P W cell targetNode) c ↔
      ¬ Interrupted W cell targetNode c) ∧
    ∀ (stream : StreamImpl) (others : Circuit → Circuit),
      WriteFailsAtomically P W stream cell others c ↔
        ∀ c₁, waitForSendWindowAndDecrement W stream c = .ok () c₁ →
          ¬ Interrupted W cell cell.circuitNode (others c₁) := by
  have hiff : ∀ target d, FailsAtomically P (sendRelayCellTo P W cell target) d ↔
      ¬ Interrupted W cell target d := by
    intro target d
    refine ⟨fun hatomic hinterrupted => ?_, send_atomic P W⟩
    obtain ⟨e, c', hrun, he, husable, hmoved⟩ := interrupted_moves P W hinterrupted
    exact hmoved (hatomic e c' hrun he husable).1
  refine ⟨hiff targetNode c, fun stream others => ⟨fun h c₁ hc₁ => ?_, fun h => ⟨?_, ?_⟩⟩⟩
  · exact (hiff _ _).mp (h.sending c₁ hc₁)
  · refine FailsAtomically.of_forwardStates P fun e c' hrun _ _ => ?_
    have hstates := wait_forwardStates W stream c
    rw [hrun] at hstates
    exact hstates
  · intro c₁ hc₁
    exact (hiff _ _).mpr (h c₁ hc₁)

end Circuit

/-- The window of the only node is used up, and the thread is interrupted in the wait for it: the
circuit is still open, and the digest of the node has counted a cell that no relay will see. -/
theorem interrupted_send_moves :
    let c := sampleOpen [{ sampleNode 1 with packageWindow := 0 }]
    let W : Waits := ⟨fun _ => .never, fun _ => .interrupted⟩
    let cell := RelayCell.create 0 1 5 RELAY_DATA false
    ¬ Circuit.FailsAtomically Platform.checksum
      (Circuit.sendRelayCellTo Platform.checksum W cell 0) c := by
  intro c W cell hatomic
  have hinterrupted : Circuit.Interrupted W cell 0 c := ⟨rfl, rfl, rfl, _, rfl, rfl⟩
  obtain ⟨e, c', hrun, he, husable, hmoved⟩ :=
    Circuit.interrupted_moves Platform.checksum W hinterrupted
  exact hmoved (hatomic e c' hrun he husable).1

end Orchid
