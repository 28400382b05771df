import Orchid.Circuits.Extender
import Orchid.Circuits.Forward

/-!
# Orchid — a circuit and its relays

Cells go out to any of the relays and come in from any of them, in any order, and the circuit may
grow in between. Sending moves the forward keystreams and digests, receiving the backward ones, and
a new node shares fresh keys with a new relay, so that neither direction disturbs the other.

* `InSession`: what the two ends see of such a sequence of events.
* **`session_in_step`**: every cell for a relay gets there, every cell from a relay is attributed
  to it, and after each event the relays have the keys and digests of the nodes.
-/

namespace Orchid

open Prog RelayCell CircuitNodeCryptoState CircuitExtender

namespace Hop

def forwardState (h : Hop) : TorMessageDigest × TorStreamCipher :=
  (h.forwardDigest, h.forwardCipher)

def backwardState (h : Hop) : TorMessageDigest × TorStreamCipher :=
  (h.backwardDigest, h.backwardCipher)

variable (P : Platform)

theorem passOn_backwardState (hops : List Hop) (i : Nat) (c : CellBytes) :
    (passOn P hops i c).1.map backwardState = hops.map backwardState := by
  induction hops generalizing i c with
  | nil => rfl
  | cons h hops ih =>
    cases i with
    | zero => rfl
    | succ i => exact congrArg (h.backwardState :: ·) (ih i _)

theorem sendBack_forwardState (hops : List Hop) (i : Nat) (c : CellBytes) :
    (sendBack P hops i c).1.map forwardState = hops.map forwardState := by
  induction hops generalizing i with
  | nil => rfl
  | cons h hops ih =>
    cases i with
    | zero => rfl
    | succ i => exact congrArg (h.forwardState :: ·) (ih i)

end Hop

open Hop

variable {nodes : List CircuitNode} {hops hops' : List Hop}

theorem hops_ext (hforward : hops.map forwardState = hops'.map forwardState)
    (hbackward : hops.map backwardState = hops'.map backwardState) : hops = hops' := by
  have hboth : hops.map (fun h => (h.forwardState, h.backwardState)) =
      hops'.map fun h => (h.forwardState, h.backwardState) := by
    rw [← List.zip_map', hforward, hbackward, List.zip_map']
  refine List.map_injective_iff.mpr (fun h h' heq => ?_) hboth
  cases h
  cases h'
  simp_all [forwardState, backwardState]

namespace Circuit

/-- The relays that share the keys and digests of the nodes. -/
def relays (c : Circuit) : List Hop := c.nodeList.map CircuitNode.hop

theorem forall₂_relays {R : CircuitNode → Hop → Prop} (c : Circuit) (h : ∀ n, R n n.hop) :
    List.Forall₂ R c.nodeList c.relays :=
  List.forall₂_map_right_iff.mpr (List.forall₂_same.mpr fun n _ => h n)

variable (P : Platform) (W : Waits) {c c' : Circuit} {node : CircuitNode}

/-! ## One event -/

/-- Sealing a cell leaves the backward direction alone. -/
theorem sealNodes_backwardState {i : Nat} (cell : RelayCell) (hnode : nodes[i]? = some node) :
    ((sealNodes P nodes cell i node).1.map CircuitNode.hop).map backwardState =
      (nodes.map CircuitNode.hop).map backwardState := by
  rw [List.map_map, List.map_map]
  refine List.ext_getElem? fun j => ?_
  unfold sealNodes
  rw [List.getElem?_map, encryptForward_get P _ (fun _ _ => rfl), ← List.getElem?_map]
  exact congrArg (·[j]?) (Lists.map_set_of_eq hnode rfl)

/-- A call that returned has sealed the cell and sent it; the windows are no part of a hop. -/
theorem sendRelayCellTo_hops {cell : RelayCell} {i : Nat} (hopen : c.connectionClosed = false)
    (husable : isConnectedOrBuilding c = true) (h : sendRelayCellTo P W cell i c = .ok () c') :
    ∃ node nodes', c.nodeList[i]? = some node ∧
      nodes'.map CircuitNode.hop = (sealNodes P c.nodeList cell i node).1.map CircuitNode.hop ∧
      c' = { c with
        nodeList := nodes'
        sent := c.sent ++
          [{ cell.toCell with cellBytes := (sealNodes P c.nodeList cell i node).2 }] } := by
  obtain ⟨wire, c₁, hencrypt, hsend⟩ := bind_eq_ok.mp h
  cases hnode : c.nodeList[i]? with
  | none =>
    rw [encryptRelayCellTo_none P W hnode] at hencrypt
    cases hencrypt
  | some node =>
    obtain ⟨n, hn, -⟩ := sealNodes_get P cell hnode
    rw [encryptRelayCellTo_run P W hnode hn] at hencrypt
    by_cases hdata : cell.relayCommand = RELAY_DATA
    · rw [if_pos hdata] at hencrypt
      cases hwait : n.waitForSendWindowAndDecrement (W.node i) with rw [hwait] at hencrypt
      | error e => cases hencrypt
      | ok waited =>
        cases hencrypt
        rw [sendCell_run P W (by exact hopen) (by exact husable)] at hsend
        cases hsend
        have hhop : waited.hop = n.hop := by
          unfold CircuitNode.hop
          rw [waitForSendWindow_cryptoState hwait]
        exact ⟨node, _, rfl, Lists.map_set_of_eq hn hhop, rfl⟩
    · rw [if_neg hdata] at hencrypt
      cases hencrypt
      rw [sendCell_run P W (by exact hopen) (by exact husable)] at hsend
      cases hsend
      exact ⟨node, _, rfl, rfl, rfl⟩

/-- Looking at a cell leaves the forward direction of the nodes alone. -/
theorem decryptNodes_forwardState (nodes : List CircuitNode) (bytes : CellBytes) :
    ((decryptNodes P nodes bytes).2.1.map CircuitNode.hop).map forwardState =
      (nodes.map CircuitNode.hop).map forwardState := by
  induction nodes generalizing bytes with
  | nil => rfl
  | cons n nodes ih =>
    have hn : (n.decryptBackwardCell P bytes).2.1.hop.forwardState = n.hop.forwardState := by
      unfold CircuitNode.decryptBackwardCell
      rw [decryptBackwardCell_eq]
      dsimp only
      split <;> rfl
    unfold decryptNodes
    dsimp only
    split
    · exact congrArg (· :: _) hn
    · exact congrArg₂ (· :: ·) hn (ih _)

/-- The circuit reads the cell of a relay as that relay stamped it, and follows the relays. -/
def ReadsStamped (hop : Nat) (cell : Cell) (c : Circuit) (nodes' : List CircuitNode) : Prop :=
  decryptRelayCell P W { cell with cellBytes := (sendBack P c.relays hop cell.cellBytes).2 } c =
      fromExcept
        (createFromCell hop { cell with cellBytes := stampAt P c.relays hop cell.cellBytes })
        { c with nodeList := nodes' } ∧
    (sendBack P c.relays hop cell.cellBytes).1 = nodes'.map CircuitNode.hop

theorem receive_in_step {hop : Nat} {cell : Cell} (ht : Originated c.relays (hop, cell))
    (hquiet : Quiet P c.relays hop cell.cellBytes) :
    ∃ nodes', ReadsStamped P W hop cell c nodes' := by
  obtain ⟨nodes', hrun, hbackward, -⟩ := decryptNodes_sendBack P
    (forall₂_relays c fun _ => ⟨rfl, rfl⟩) ht.hop ht.recognized hquiet
  -- here it is the other way round: only the backward direction has moved
  refine ⟨nodes', ?_, hops_ext ?_ ?_⟩
  · unfold decryptRelayCell decryptCell
    simp only [bind_run, get_run, hrun, modify_run, pure_run]
  · have hforward := decryptNodes_forwardState P c.nodeList
      (sendBack P c.relays hop cell.cellBytes).2
    rw [hrun] at hforward
    rw [sendBack_forwardState]
    exact hforward.symm
  · rw [List.map_map]
    exact (Lists.map_eq_of_forall₂ (fun _ _ hm => Prod.ext hm.digest hm.cipher) hbackward).symm

/-! ## Sessions -/

inductive SessionEvent where
  | send (send : Send)
  | receive (hop : Nat) (cell : Cell)
  | extend (r : Router) (keys : DerivedKeys) (response : RelayCell)

/-- The events happen one after the other; of a call that fails, and of a cell that no relay sent or
that a relay in front could take for its own, nothing is said. -/
def InSession : Circuit → List SessionEvent → Prop
  | _, [] => True
  | c, .send send :: rest =>
    ∀ c', sendRelayCellTo P send.waits send.cell send.targetNode c = .ok () c' →
      ∃ wire, c'.sent = c.sent ++ [wire] ∧
        Arrives P c.relays send.targetNode send.cell wire.cellBytes ∧
        (passOn P c.relays send.targetNode wire.cellBytes).1 = c'.relays ∧ InSession c' rest
  | c, .receive hop cell :: rest =>
    Originated c.relays (hop, cell) → Quiet P c.relays hop cell.cellBytes →
      ∃ nodes', ReadsStamped P W hop cell c nodes' ∧ InSession { c with nodeList := nodes' } rest
  | c, .extend r keys response :: rest =>
    ∀ node c', createNewNode r keys response c = .ok node c' →
      c'.relays = c.relays ++ [node.hop] ∧ InSession c' rest

/-- **The two ends stay in step**, whatever the order in which cells are sent and received and
the circuit is extended. -/
theorem session_in_step (c : Circuit) (events : List SessionEvent)
    (hopen : c.connectionClosed = false) (husable : isConnectedOrBuilding c = true)
    (hout : ∀ send, .send send ∈ events → Outgoing send.cell) : InSession P W c events := by
  induction events generalizing c with
  | nil => exact trivial
  | cons event rest ih =>
    have hrest : ∀ send, .send send ∈ rest → Outgoing send.cell := fun send hsend =>
      hout send (List.mem_cons_of_mem _ hsend)
    cases event with
    | send send =>
      intro c' hrun
      obtain ⟨node, nodes', hnode, hhops, rfl⟩ :=
        sendRelayCellTo_hops P send.waits hopen husable hrun
      obtain ⟨harrives, hforward⟩ := arrives P
        (forall₂_relays c fun _ => ⟨rfl, rfl⟩) hnode (hout send List.mem_cons_self)
      refine ⟨_, rfl, harrives, ?_, ih _ hopen husable hrest⟩
      -- forward, the relays have followed the cell; backward, neither end has moved
      refine (hops_ext ?_ ?_).trans hhops.symm
      · rw [List.map_map]
        exact (Lists.map_eq_of_forall₂ (fun _ _ hm => Prod.ext hm.digest hm.cipher) hforward).symm
      · rw [sealNodes_backwardState P _ hnode, passOn_backwardState, relays]
    | receive hop cell =>
      intro ht hquiet
      obtain ⟨nodes', hreads⟩ := receive_in_step P W ht hquiet
      exact ⟨nodes', hreads, ih _ hopen husable hrest⟩
    | extend r keys response =>
      intro node c' hrun
      obtain ⟨final, c₁, hfinal, hrun⟩ := bind_eq_ok.mp hrun
      obtain ⟨node', c₂, hcreate, hrun⟩ := bind_eq_ok.mp hrun
      obtain ⟨-, rfl⟩ := fromExcept_eq_ok.mp hcreate
      cases hrun
      have hsame : c₁ = c := by
        unfold getFinalCircuitNode at hfinal
        rw [get_bind_run] at hfinal
        split at hfinal <;> cases hfinal
        rfl
      subst hsame
      exact ⟨List.map_append, ih _ hopen husable hrest⟩

/-- A cell from the second of two relays, then one to the first. -/
theorem session_in_step_two :
    let c := sampleOpen [sampleNode 1, sampleNode 2]
    let cell := sampleCell 5 RELAY_DATA [10, 11]
    Originated c.relays (1, cell) ∧ Quiet Platform.checksum c.relays 1 cell.cellBytes ∧
      InSession Platform.checksum Waits.never c
        [.receive 1 cell, .send ⟨Waits.never, 0, RelayCell.create 0 1 5 RELAY_DATA false⟩] := by
  refine ⟨⟨by decide, by decide, by decide +kernel⟩, by decide +kernel, ?_⟩
  refine session_in_step Platform.checksum Waits.never _ _ rfl rfl fun send hsend => ?_
  obtain rfl : send = ⟨Waits.never, 0, RelayCell.create 0 1 5 RELAY_DATA false⟩ := by
    simpa using hsend
  exact outgoing_create 0 1 false (by decide) (by decide)

end Circuit

end Orchid
