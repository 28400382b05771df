import Orchid.Circuits.Backward
import Orchid.Lib.Lists

/-!
# Orchid — cells on their way from the client

`sendRelayCellTo` adds the cell to the running digest of its target, stamps it with that digest,
and encrypts it for the target and every node in front. The relays take the layers off in the
order of the path.

* `encryptRelayCellTo_run`: what sending does up to the connection, in one equation.
* **`forward_simulation`**: the target of every cell finds what was sent, a relay in front only
  takes off its own layer, and the two ends stay mirrored.
-/

namespace Orchid

open Prog RelayCell CellBytes Hop

/-! ## The relays -/

namespace Hop

variable (P : Platform)

/-- Take the layer of this relay off. -/
def decryptForward (h : Hop) (c : CellBytes) : Hop × CellBytes :=
  ({ h with forwardCipher := (h.forwardCipher.encryptPayload P c).2 },
    (h.forwardCipher.encryptPayload P c).1)

/-- A cell that is for this relay counts in its digest. -/
def accept (h : Hop) (c : CellBytes) : Hop :=
  { h with forwardDigest := h.forwardDigest.update c.zeroDigest.payload }

/-- The relays take their layers off, up to the one at position `i`, which the cell is for. -/
def passOn : List Hop → Nat → CellBytes → List Hop × CellBytes
  | [], _, c => ([], c)
  | h :: hops, 0, c =>
    let (h', c') := h.decryptForward P c
    (h'.accept c' :: hops, c')
  | h :: hops, i + 1, c =>
    let (h', c') := h.decryptForward P c
    let (hops', c'') := passOn hops i c'
    (h' :: hops', c'')

theorem passOn_succ (h : Hop) (hops : List Hop) (i : Nat) (c : CellBytes) :
    passOn P (h :: hops) (i + 1) c =
      ((h.decryptForward P c).1 :: (passOn P hops i (h.decryptForward P c).2).1,
        (passOn P hops i (h.decryptForward P c).2).2) := rfl

variable {hops : List Hop} {h : Hop}

/-- The digest of the relay the cell is for counts the cell. -/
theorem passOn_digest {i : Nat} (hh : hops[i]? = some h) (c : CellBytes) :
    ∃ h', (passOn P hops i c).1[i]? = some h' ∧
      h'.forwardDigest = h.forwardDigest.update (passOn P hops i c).2.zeroDigest.payload := by
  induction hops generalizing i c with
  | nil => cases hh
  | cons g hops ih =>
    cases i with
    | zero =>
      cases hh
      exact ⟨_, rfl, rfl⟩
    | succ i => exact ih hh (g.decryptForward P c).2

end Hop

/-- The client's end of a hop and the relay's, in the direction from the client. -/
structure ForwardMirrored (n : CircuitNode) (h : Hop) : Prop where
  digest : n.cryptoState.forwardDigest = h.forwardDigest
  cipher : n.cryptoState.forwardCipher = h.forwardCipher

/-- The forward keystreams of the nodes, in the order of the path. -/
def forwardCiphers (nodes : List CircuitNode) : List TorStreamCipher :=
  nodes.map fun n => n.cryptoState.forwardCipher

variable {nodes : List CircuitNode}

theorem forwardCiphers_mirrored (hm : List.Forall₂ ForwardMirrored nodes hops) :
    forwardCiphers nodes = hops.map forwardCipher := by
  induction hm with
  | nil => rfl
  | @cons n h nodes hops hn _ ih =>
    show n.cryptoState.forwardCipher :: forwardCiphers nodes = h.forwardCipher :: _
    rw [hn.cipher, ih]

theorem forward_digest (hm : List.Forall₂ ForwardMirrored nodes hops) {i : Nat} {n : CircuitNode}
    (hn : nodes[i]? = some n) (hh : hops[i]? = some h) :
    n.cryptoState.forwardDigest = h.forwardDigest := by
  induction hm generalizing i with
  | nil => cases hn
  | cons hfirst _ ih =>
    cases i with
    | zero =>
      cases hn
      cases hh
      exact hfirst.digest
    | succ i => exact ih hn hh

/-! ## Sealing a cell -/

namespace Circuit

variable (P : Platform) (W : Waits)

/-- What `sendRelayCellTo` does to the nodes and makes of the bytes: the digest of the target
first, then the layers. -/
def sealNodes (nodes : List CircuitNode) (cell : RelayCell) (targetNode : Nat)
    (node : CircuitNode) : List CircuitNode × CellBytes :=
  let updated := node.updateForwardDigest cell.setLength.cellBytes
  encryptForward P (nodes.set targetNode updated) targetNode
    (cell.setLength.setDigest (updated.getForwardDigestBytes P)).cellBytes

/-- Of a node, only its keystream is touched. -/
theorem encryptForward_get {γ : Type} (f : CircuitNode → γ)
    (hf : ∀ n c, f (n.encryptForwardCell P c).2 = f n) (nodes : List CircuitNode) (i j : Nat)
    (c : CellBytes) : (encryptForward P nodes i c).1[j]?.map f = nodes[j]?.map f := by
  induction nodes generalizing i j with
  | nil => rfl
  | cons n nodes ih =>
    cases i with
    | zero =>
      cases j with
      | zero =>
        show some (f (n.encryptForwardCell P c).2) = some (f n)
        rw [hf]
      | succ j => rfl
    | succ i =>
      cases j with
      | zero =>
        show some (f (n.encryptForwardCell P _).2) = some (f n)
        rw [hf]
      | succ j => exact ih i j

variable {i targetNode : Nat} {c : Circuit} {cell : RelayCell} {n : CircuitNode} {hops : List Hop}

variable {node : CircuitNode}

/-- The target after its cell was sealed: the digest counts the cell, the window does not yet. -/
theorem sealNodes_get (cell : RelayCell) (hnode : nodes[targetNode]? = some node) :
    ∃ n, (sealNodes P nodes cell targetNode node).1[targetNode]? = some n ∧
      n.packageWindow = node.packageWindow ∧
      n.cryptoState.forwardDigest =
        node.cryptoState.forwardDigest.update cell.setLength.cellBytes.payload := by
  have hlt : targetNode < nodes.length := (List.getElem?_eq_some_iff.mp hnode).1
  have hget := encryptForward_get P (fun n => (n.packageWindow, n.cryptoState.forwardDigest))
    (fun _ _ => rfl)
    (nodes.set targetNode (node.updateForwardDigest cell.setLength.cellBytes)) targetNode targetNode
    (cell.setLength.setDigest
      ((node.updateForwardDigest cell.setLength.cellBytes).getForwardDigestBytes P)).cellBytes
  rw [List.getElem?_set_self hlt] at hget
  obtain ⟨n, hn, hpair⟩ := Option.map_eq_some_iff.mp hget
  exact ⟨n, hn, congrArg Prod.fst hpair, congrArg Prod.snd hpair⟩

/-- Sending up to the connection: the nodes have moved on before the wait, if there is one. -/
theorem encryptRelayCellTo_run (hnode : c.nodeList[targetNode]? = some node)
    (hn : (sealNodes P c.nodeList cell targetNode node).1[targetNode]? = some n) :
    encryptRelayCellTo P W cell targetNode c =
      let sealed := sealNodes P c.nodeList cell targetNode node
      let wire := { cell.toCell with cellBytes := sealed.2 }
      if cell.relayCommand = RELAY_DATA then
        match n.waitForSendWindowAndDecrement (W.node targetNode) with
        | .ok waited => .ok wire { c with nodeList := sealed.1.set targetNode waited }
        | .error e => .error e { c with nodeList := sealed.1 }
      else .ok wire { c with nodeList := sealed.1 } := by
  have hupdate : onNode targetNode (fun node =>
      let node := node.updateForwardDigest cell.setLength.cellBytes
      .ok (node.getForwardDigestBytes P, node)) c =
      .ok ((node.updateForwardDigest cell.setLength.cellBytes).getForwardDigestBytes P)
        { c with nodeList :=
          c.nodeList.set targetNode (node.updateForwardDigest cell.setLength.cellBytes) } := by
    unfold onNode
    simp only [bind_run, get_run, hnode]
    rfl
  unfold encryptRelayCellTo
  rw [bind_of_ok hupdate]
  unfold sealNodes at hn ⊢
  simp only [encryptCell, bind_run, get_run, modify_run, pure_run]
  by_cases hdata : cell.relayCommand = RELAY_DATA
  · rw [if_pos (show (cell.setLength.setDigest _).relayCommand = RELAY_DATA from hdata),
      if_pos hdata, bind_run]
    unfold onNode
    simp only [bind_run, get_run, hn]
    cases n.waitForSendWindowAndDecrement (W.node targetNode) with
    | ok | error => rfl
  · rw [if_neg (show ¬ (cell.setLength.setDigest _).relayCommand = RELAY_DATA from hdata),
      if_neg hdata]
    rfl

/-- Without such a node nothing is done. -/
theorem encryptRelayCellTo_none (hnode : c.nodeList[targetNode]? = none) :
    encryptRelayCellTo P W cell targetNode c = .error .nullPointer c := by
  unfold encryptRelayCellTo onNode
  simp only [bind_run, get_run, hnode]
  rfl

/-! ## One cell -/

/-- The layers are those of the ciphers of the nodes. -/
theorem encryptForward_bytes (nodes : List CircuitNode) (i : Nat) (c : CellBytes) :
    (encryptForward P nodes i c).2 =
      (Layers.sealTo (cellCipher P) (forwardCiphers nodes) i c).2 := by
  induction nodes generalizing i with
  | nil => rfl
  | cons n nodes ih =>
    cases i with
    | zero => rfl
    | succ i =>
      show (n.encryptForwardCell P (encryptForward P nodes i c).2).1 = _
      rw [ih]
      rfl

/-- The digests do not matter for the layers. -/
theorem forwardCiphers_set (hnode : nodes[i]? = some node) (c : CellBytes) :
    forwardCiphers (nodes.set i (node.updateForwardDigest c)) = forwardCiphers nodes :=
  Lists.map_set_of_eq hnode rfl

/-- A relay takes off the layer that its node put on. -/
theorem decryptForward_encrypted (hn : ForwardMirrored n h) (c : CellBytes) :
    (h.decryptForward P (n.encryptForwardCell P c).1).2 = c ∧
      ForwardMirrored (n.encryptForwardCell P c).2
        (h.decryptForward P (n.encryptForwardCell P c).1).1 := by
  refine ⟨?_, hn.digest, ?_⟩
  · show (h.forwardCipher.encryptPayload P (n.cryptoState.forwardCipher.encryptPayload P c).1).1 = c
    rw [hn.cipher, TorStreamCipher.encryptPayload_encryptPayload]
  · show (n.cryptoState.forwardCipher.encryptPayload P c).2 =
      (h.forwardCipher.encryptPayload P (n.encryptForwardCell P c).1).2
    rw [TorStreamCipher.encryptPayload_state, TorStreamCipher.encryptPayload_state, hn.cipher]

/-- Mirrored relays take the layers off again, and are mirrored afterwards. -/
theorem passOn_encryptForward
    {bytes stamped : CellBytes} (hm : List.Forall₂ ForwardMirrored nodes hops)
    (hnode : nodes[i]? = some node) (hstamped : stamped.zeroDigest = bytes) :
    let sealed := encryptForward P (nodes.set i (node.updateForwardDigest bytes)) i stamped
    (passOn P hops i sealed.2).2 = stamped ∧
      List.Forall₂ ForwardMirrored sealed.1 (passOn P hops i sealed.2).1 := by
  induction hm generalizing i with
  | nil => cases hnode
  | @cons n h nodes hops hn hrest ih =>
    cases i with
    | zero =>
      cases hnode
      -- the relay adds to its digest what the node added: the cell without its stamp
      have haccept : ForwardMirrored (node.updateForwardDigest bytes) (h.accept stamped) := by
        refine ⟨?_, hn.cipher⟩
        show node.cryptoState.forwardDigest.update bytes.payload =
          h.forwardDigest.update stamped.zeroDigest.payload
        rw [hn.digest, hstamped]
      obtain ⟨hplain, hmirrored⟩ := decryptForward_encrypted P haccept stamped
      refine ⟨hplain, .cons ?_ hrest⟩
      show ForwardMirrored _ (accept _ (h.decryptForward P
        ((node.updateForwardDigest bytes).encryptForwardCell P stamped).1).2)
      rw [show (h.decryptForward P
        ((node.updateForwardDigest bytes).encryptForwardCell P stamped).1).2 = stamped from hplain]
      exact hmirrored
    | succ i =>
      obtain ⟨hbytes, hmirrored⟩ := ih (i := i) hnode
      generalize hsealed : encryptForward P (nodes.set i (node.updateForwardDigest bytes)) i stamped =
        sealed at hbytes hmirrored
      -- around the layers of the relays behind there is that of the first one
      have houter : encryptForward P ((n :: nodes).set (i + 1) (node.updateForwardDigest bytes))
          (i + 1) stamped =
          ((n.encryptForwardCell P sealed.2).2 :: sealed.1, (n.encryptForwardCell P sealed.2).1) := by
        rw [← hsealed]
        rfl
      obtain ⟨hinner, hfirst⟩ := decryptForward_encrypted P hn sealed.2
      dsimp only
      rw [houter, passOn_succ, hinner]
      exact ⟨hbytes, .cons hfirst hmirrored⟩

/-- The bytes of a cell with its length and a stamp in it. -/
theorem stamped_zeroDigest (hout : Outgoing cell) (node : CircuitNode) :
    (cell.setLength.setDigest (node.getForwardDigestBytes P)).cellBytes.zeroDigest =
      cell.setLength.cellBytes := by
  have hlength : ((node.getForwardDigestBytes P).take 4).length = 4 :=
    digestBytes_length P node.cryptoState.forwardDigest
  have hzero : cell.setLength.cellBytes.getBytesAt DIGEST_OFFSET 4 = [0, 0, 0, 0] := by
    rw [← hout.digest]
    exact getBytesAt_putBytesAt_before (by decide) (show LENGTH_OFFSET + 2 ≤ CELL_LEN by decide)
  show (cell.setLength.cellBytes.putBytesAt DIGEST_OFFSET _).putBytesAt DIGEST_OFFSET [0, 0, 0, 0] = _
  rw [putBytesAt_putBytesAt (by rw [hlength]; decide) hlength, ← hzero]
  exact putBytesAt_self (by decide)

/-- What became of a cell for the relay at position `targetNode`: what a relay in front passes on
still has the layers of the relays behind it, and the target finds the cell, stamped with its own
running digest. -/
structure Arrives (hops : List Hop) (targetNode : Nat) (cell : RelayCell) (wire : CellBytes) :
    Prop where
  passedOn : ∀ j, j < targetNode →
    (Layers.openTo (cellCipher P) (hops.map forwardCipher) j wire).2 =
      (Layers.sealTo (cellCipher P) ((hops.map forwardCipher).drop (j + 1))
        (targetNode - (j + 1)) (passOn P hops targetNode wire).2).2
  relayCommand : (passOn P hops targetNode wire).2.getByteAt CELL_HEADER_LEN = cell.relayCommand
  recognized : (passOn P hops targetNode wire).2.getShortAt RECOGNIZED_OFFSET = 0
  streamId : (passOn P hops targetNode wire).2.getShortAt 6 = cell.streamId
  length : (passOn P hops targetNode wire).2.getShortAt LENGTH_OFFSET = cell.position - HEADER_SIZE
  payload : (passOn P hops targetNode wire).2.getBytesAt HEADER_SIZE
      (cell.position - HEADER_SIZE) =
    cell.cellBytes.getBytesAt HEADER_SIZE (cell.position - HEADER_SIZE)
  digest : ∀ h, (passOn P hops targetNode wire).1[targetNode]? = some h →
    (passOn P hops targetNode wire).2.relayDigest = (h.forwardDigest.getDigestBytes P).take 4

/-- The header and the data of a cell are not touched by its length and stamp. -/
theorem setLength_getBytesAt {n : Nat} (hi : i + n ≤ LENGTH_OFFSET ∨ HEADER_SIZE ≤ i) :
    cell.setLength.cellBytes.getBytesAt i n = cell.cellBytes.getBytesAt i n := by
  have hfits : LENGTH_OFFSET + (shortBytes (cell.position - HEADER_SIZE)).length ≤
      CELL_LEN := show LENGTH_OFFSET + 2 ≤ CELL_LEN by decide
  rcases hi with hi | hi
  · exact getBytesAt_putBytesAt_before hi hfits
  · exact getBytesAt_putBytesAt_behind hi hfits

theorem arrives
    (hm : List.Forall₂ ForwardMirrored nodes hops) (hnode : nodes[targetNode]? = some node)
    (hout : Outgoing cell) :
    Arrives P hops targetNode cell (sealNodes P nodes cell targetNode node).2 ∧
      List.Forall₂ ForwardMirrored (sealNodes P nodes cell targetNode node).1
        (passOn P hops targetNode (sealNodes P nodes cell targetNode node).2).1 := by
  have hstamped := stamped_zeroDigest P hout (node.updateForwardDigest cell.setLength.cellBytes)
  obtain ⟨hplain, hmirrored⟩ := passOn_encryptForward P hm hnode hstamped
  have htarget : targetNode < hops.length := by
    rw [← hm.length_eq]
    exact (List.getElem?_eq_some_iff.mp hnode).1
  let wire := (sealNodes P nodes cell targetNode node).2
  have hwire : wire = (Layers.sealTo (cellCipher P) (hops.map forwardCipher) targetNode
        (cell.setLength.setDigest ((node.updateForwardDigest
          cell.setLength.cellBytes).getForwardDigestBytes P)).cellBytes).2 := by
    unfold wire sealNodes
    rw [encryptForward_bytes, forwardCiphers_set hnode, forwardCiphers_mirrored hm]
  have hzero := hstamped
  change (passOn P hops targetNode wire).2 = _ at hplain
  rw [← hplain] at hzero
  have hread : ∀ {i n : Nat}, i + n ≤ DIGEST_OFFSET ∨ LENGTH_OFFSET ≤ i →
      (passOn P hops targetNode wire).2.getBytesAt i n =
        cell.setLength.cellBytes.getBytesAt i n := by
    intro i n hi
    rw [← getBytesAt_zeroDigest _ hi, hzero]
  refine ⟨⟨?_, ?_, ?_, ?_, ?_, ?_, ?_⟩, hmirrored⟩
  · intro j hj
    have hpartial := Layers.openTo_sealTo_partial (cellCipher P) (hops.map forwardCipher) j
      (targetNode - (j + 1)) (passOn P hops targetNode wire).2 (by rw [List.length_map]; omega)
    rw [show j + 1 + (targetNode - (j + 1)) = targetNode from by omega] at hpartial
    rw [← hpartial, hplain, ← hwire]
  · rw [getByteAt_eq, hread (Or.inl (by decide)), setLength_getBytesAt (Or.inl (by decide)),
      ← getByteAt_eq, hout.relayCommand]
  · rw [getShortAt_eq, hread (Or.inl (by decide)),
      setLength_getBytesAt (Or.inl (by decide)), ← getShortAt_eq, hout.recognized]
  · rw [getShortAt_eq, hread (Or.inl (by decide)),
      setLength_getBytesAt (Or.inl (by decide)), ← getShortAt_eq, hout.streamId]
  · have hposition := hout.position_le
    rw [getShortAt_eq, hread (Or.inr (Nat.le_refl _)), ← getShortAt_eq]
    refine getShortAt_putShortAt (by decide) ?_
    rw [show CELL_LEN = 512 from rfl] at hposition
    omega
  · rw [hread (Or.inr (by decide)), setLength_getBytesAt (Or.inr (Nat.le_refl _))]
  · -- the stamp is the digest of the node, which is that of the relay
    intro h hh
    have hg := List.getElem?_eq_getElem htarget
    obtain ⟨h', hh', hdigest⟩ := passOn_digest P hg wire
    cases hh.symm.trans hh'
    have hlength : (((node.updateForwardDigest cell.setLength.cellBytes).getForwardDigestBytes
        P).take 4).length = 4 := digestBytes_length P _
    rw [hdigest, hzero, hplain, ← forward_digest hm hnode hg]
    exact getBytesAt_putBytesAt (by rw [hlength]; decide) hlength

/-! ## Sequences of cells -/

variable {n' : CircuitNode}

/-- A call on a node that leaves its crypto state alone does not unmirror it. -/
theorem mirrored_set (hm : List.Forall₂ ForwardMirrored nodes hops)
    (hn : nodes[i]? = some n) (hcrypto : n'.cryptoState = n.cryptoState) :
    List.Forall₂ ForwardMirrored (nodes.set i n') hops := by
  induction hm generalizing i with
  | nil => cases hn
  | cons hfirst hrest ih =>
    cases i with
    | zero =>
      cases hn
      exact .cons ⟨by rw [hcrypto, hfirst.digest], by rw [hcrypto, hfirst.cipher]⟩ hrest
    | succ i => exact .cons hfirst (ih hn)

theorem waitForSendWindow_cryptoState {decrement : Bool}
    {wakeup : CircuitNode.Wakeup} (h : n.waitForSendWindow decrement wakeup = .ok n') :
    n'.cryptoState = n.cryptoState := by
  obtain ⟨window, -, hnode⟩ := except_bind_eq_ok.mp h
  cases hnode
  rfl

/-- On a circuit in use the cell goes out. -/
theorem sendCell_run (hopen : c.connectionClosed = false) (husable : isConnectedOrBuilding c = true)
    (wire : Cell) :
    sendCell P W wire c = .ok () { c with sent := c.sent ++ [wire] } := by
  unfold sendCell writeCell
  simp only [bind_run, get_run, husable, hopen, if_true, Bool.false_eq_true, if_false, modify_run,
    pure_run, Bool.not_true]

/-- What a call that returned has done: the cell is sealed and sent, the window counted. -/
theorem sendRelayCellTo_ok {c' : Circuit} (hopen : c.connectionClosed = false)
    (husable : isConnectedOrBuilding c = true)
    (h : sendRelayCellTo P W cell targetNode c = .ok () c') :
    ∃ node nodes', c.nodeList[targetNode]? = some node ∧
      (∀ hops, List.Forall₂ ForwardMirrored (sealNodes P c.nodeList cell targetNode node).1 hops →
        List.Forall₂ ForwardMirrored nodes' hops) ∧
      c' = { c with
        nodeList := nodes'
        sent := c.sent ++
          [{ cell.toCell with cellBytes := (sealNodes P c.nodeList cell targetNode node).2 }] } := by
  obtain ⟨wire, c₁, hencrypt, hsend⟩ := bind_eq_ok.mp h
  cases hnode : c.nodeList[targetNode]? with
  | none =>
    rw [encryptRelayCellTo_none P W hnode] at hencrypt
    cases hencrypt
  | some node =>
    obtain ⟨n, hn, -⟩ := sealNodes_get P cell hnode
    rw [encryptRelayCellTo_run P W hnode hn] at hencrypt
    by_cases hdata : cell.relayCommand = RELAY_DATA
    · rw [if_pos hdata] at hencrypt
      cases hwait : n.waitForSendWindowAndDecrement (W.node targetNode) with rw [hwait] at hencrypt
      | error e =>
        cases hencrypt
      | ok waited =>
        cases hencrypt
        rw [sendCell_run P W (by exact hopen) (by exact husable)] at hsend
        cases hsend
        exact ⟨node, _, rfl,
          fun hops hm => mirrored_set hm hn (waitForSendWindow_cryptoState hwait), rfl⟩
    · rw [if_neg hdata] at hencrypt
      cases hencrypt
      rw [sendCell_run P W (by exact hopen) (by exact husable)] at hsend
      cases hsend
      exact ⟨node, _, rfl, fun hops hm => hm, rfl⟩

/-- A call of `sendRelayCellTo`, with what ends the waits in it. -/
structure Send where
  waits : Waits
  targetNode : Nat
  cell : RelayCell

/-- The calls are made one after the other, as long as none fails; the relays handle each cell
that was put on the connection before the next one comes. -/
def ForwardSimulates : List Hop → Circuit → List Send → Prop
  | _, _, [] => True
  | hops, c, send :: rest =>
    ∀ c', sendRelayCellTo P send.waits send.cell send.targetNode c = .ok () c' →
      ∃ wire, c'.sent = c.sent ++ [wire] ∧
        Arrives P hops send.targetNode send.cell wire.cellBytes ∧
        List.Forall₂ ForwardMirrored c'.nodeList
          (passOn P hops send.targetNode wire.cellBytes).1 ∧
        ForwardSimulates (passOn P hops send.targetNode wire.cellBytes).1 c' rest

theorem forwardSimulates (hops : List Hop) (c : Circuit) (sends : List Send)
    (hm : List.Forall₂ ForwardMirrored c.nodeList hops) (hopen : c.connectionClosed = false)
    (husable : isConnectedOrBuilding c = true) (hout : ∀ send ∈ sends, Outgoing send.cell) :
    ForwardSimulates P hops c sends := by
  -- over the calls: both ends are mirrored and the circuit stays in use
  induction sends generalizing hops c with
  | nil => exact trivial
  | cons send sends ih =>
    intro c' hsend
    obtain ⟨node, nodes', hnode, hkept, rfl⟩ :=
      sendRelayCellTo_ok P send.waits hopen husable hsend
    obtain ⟨harrives, hmirrored⟩ := arrives P hm hnode (hout send List.mem_cons_self)
    refine ⟨_, rfl, harrives, hkept _ hmirrored, ?_⟩
    refine ih _ _ (hkept _ hmirrored) hopen husable ?_
    intro s hs
    exact hout s (List.mem_cons_of_mem _ hs)

/-- Cells for any of the nodes, in any order: the relays in front of the target of a cell only take
off their layers, the target finds the cell with its own running digest on it, and both ends are
mirrored after every cell. -/
theorem forward_simulation (hops : List Hop) (c : Circuit) (sends : List Send)
    (hm : List.Forall₂ ForwardMirrored c.nodeList hops) (hopen : c.connectionClosed = false)
    (husable : isConnectedOrBuilding c = true) (hout : ∀ send ∈ sends, Outgoing send.cell) :
    ForwardSimulates P hops c sends :=
  forwardSimulates P hops c sends hm hopen husable hout

end Circuit

/-- A cell for each of two nodes, the second one with data. -/
theorem forward_simulation_two :
    Circuit.ForwardSimulates Platform.checksum [(sampleNode 1).hop, (sampleNode 2).hop]
      (sampleOpen [sampleNode 1, sampleNode 2])
      [⟨Waits.never, 1, RelayCell.create 1 1 0 RELAY_EXTEND true⟩,
        ⟨Waits.never, 0, RelayCell.create 0 1 5 RELAY_DATA false⟩] := by
  refine Circuit.forward_simulation Platform.checksum _ _ _ ?_ rfl rfl ?_
  · exact .cons ⟨rfl, rfl⟩ (.cons ⟨rfl, rfl⟩ .nil)
  · intro send hsend
    rcases List.mem_pair.mp hsend with rfl | rfl
    · exact outgoing_create 1 1 true (by decide) (by decide)
    · exact outgoing_create 0 1 false (by decide) (by decide)

end Orchid
