import Mathlib
import Orchid.Circuits.CircuitIO

/-!
# Orchid — cells on their way to the client

The other end of each hop is a relay with the same ciphers and running digests. A cell for the
client is stamped by the relay that originates it: the digest over the cell, with the field for
it zeroed, goes into that field. The relay then encrypts, and so does every relay on the way.

The client takes layers off until a node recognises the cell. `Mirrored` nodes recognise it at
the relay that sent it and are mirrored afterwards, unless a node in front takes the cell, still
encrypted, for its own: that is a collision of four bytes, which `Quiet` excludes.

* `decryptNodes_sendBack`: one cell.
* **`backward_simulation`**: any sequence of cells from any of the relays.
-/

namespace Orchid

open Prog RelayCell CircuitNodeCryptoState CellBytes

/-! ## The relays -/

/-- A relay's end of a hop. -/
structure Hop where
  forwardDigest : TorMessageDigest
  backwardDigest : TorMessageDigest
  forwardCipher : TorStreamCipher
  backwardCipher : TorStreamCipher
  deriving DecidableEq

namespace Hop

variable (P : Platform)

/-- The cell with the digest of the relay in it. -/
def stamp (h : Hop) (c : CellBytes) : CellBytes :=
  c.putBytesAt DIGEST_OFFSET ((h.backwardDigest.peekDigest P c.zeroDigest.payload).take 4)

/-- Add a layer to a cell. -/
def encryptBackward (h : Hop) (c : CellBytes) : Hop × CellBytes :=
  ({ h with backwardCipher := (h.backwardCipher.encryptPayload P c).2 },
    (h.backwardCipher.encryptPayload P c).1)

/-- Send a cell of its own. -/
def originate (h : Hop) (c : CellBytes) : Hop × CellBytes :=
  encryptBackward P { h with backwardDigest := h.backwardDigest.update c.zeroDigest.payload }
    (h.stamp P c)

/-- The relay at position `i` originates a cell, and those in front of it pass it on. -/
def sendBack : List Hop → Nat → CellBytes → List Hop × CellBytes
  | [], _, c => ([], c)
  | h :: hops, 0, c => ((h.originate P c).1 :: hops, (h.originate P c).2)
  | h :: hops, i + 1, c =>
    let (hops', c') := sendBack hops i c
    ((h.encryptBackward P c').1 :: hops', (h.encryptBackward P c').2)

/-- The cell as the relay at position `i` stamps it. -/
def stampAt : List Hop → Nat → CellBytes → CellBytes
  | [], _, c => c
  | h :: _, 0, c => h.stamp P c
  | _ :: hops, i + 1, c => stampAt hops i c

/-- No relay in front of position `i` has a digest that fits the cell as it arrives there. -/
def Quiet : List Hop → Nat → CellBytes → Prop
  | [], _, _ => True
  | _ :: _, 0, _ => True
  | h :: hops, i + 1, c =>
    ¬ CircuitNodeCryptoState.Recognizes P h.backwardDigest (sendBack P hops i c).2 ∧ Quiet hops i c

instance decidableQuiet : ∀ (hops : List Hop) (i : Nat) (c : CellBytes), Decidable (Quiet P hops i c)
  | [], _, _ => .isTrue trivial
  | _ :: _, 0, _ => .isTrue trivial
  | _ :: hops, i + 1, c =>
    have := decidableQuiet hops i c
    inferInstanceAs (Decidable (¬ _ ∧ _))

/-! ## Stamps -/

theorem digestBytes_length (d : TorMessageDigest) : ((d.getDigestBytes P).take 4).length = 4 := by
  rw [List.length_take]
  rcases TorMessageDigest.getDigestBytes_length P d with h | h
  · rw [h]
    decide
  · rw [h]
    decide

/-- A stamp is four bytes. -/
theorem stamp_length (d : TorMessageDigest) (data : List UInt8) :
    ((d.peekDigest P data).take 4).length = 4 :=
  digestBytes_length P (d.update data)

variable {P}

/-- Only the digest field of a stamped cell is new. -/
theorem stamp_zeroDigest (h : Hop) (c : CellBytes) : (h.stamp P c).zeroDigest = c.zeroDigest := by
  have hlength := stamp_length P h.backwardDigest c.zeroDigest.payload
  exact putBytesAt_putBytesAt (by rw [hlength]; decide) hlength

theorem stamp_before (h : Hop) (c : CellBytes) {i n : Nat} (hi : i + n ≤ DIGEST_OFFSET) :
    (h.stamp P c).getBytesAt i n = c.getBytesAt i n :=
  getBytesAt_putBytesAt_before hi (by rw [stamp_length]; decide)

/-- The relay's own digest recognises its stamp. -/
theorem recognizes_stamp (h : Hop) (c : CellBytes) (hzero : c.getShortAt RECOGNIZED_OFFSET = 0) :
    Recognizes P h.backwardDigest (h.stamp P c) := by
  have hlength := stamp_length P h.backwardDigest c.zeroDigest.payload
  refine ⟨?_, ?_⟩
  · rw [getShortAt_eq, stamp_before h c (by decide), ← getShortAt_eq, hzero]
  · rw [stamp_zeroDigest]
    exact getBytesAt_putBytesAt (by rw [hlength]; decide) hlength

theorem sendBack_length (hops : List Hop) (i : Nat) (c : CellBytes) :
    (sendBack P hops i c).1.length = hops.length := by
  induction hops generalizing i with
  | nil => rfl
  | cons h hops ih =>
    cases i with
    | zero => rfl
    | succ i =>
      show (sendBack P hops i c).1.length + 1 = hops.length + 1
      rw [ih]

/-- A stamped cell differs from the original in its digest field only. -/
theorem stampAt_zeroDigest (hops : List Hop) (i : Nat) (c : CellBytes) :
    (stampAt P hops i c).zeroDigest = c.zeroDigest := by
  induction hops generalizing i with
  | nil => rfl
  | cons h hops ih =>
    cases i with
    | zero => exact stamp_zeroDigest h c
    | succ i => exact ih i

end Hop

variable {i : Nat} {c d : CellBytes}

/-- Outside the digest field nothing changes when it is zeroed. -/
theorem CellBytes.getBytesAt_zeroDigest (c : CellBytes) {n : Nat}
    (hi : i + n ≤ DIGEST_OFFSET ∨ LENGTH_OFFSET ≤ i) :
    c.zeroDigest.getBytesAt i n = c.getBytesAt i n := by
  rcases hi with hi | hi
  · exact getBytesAt_putBytesAt_before hi (by decide)
  · exact getBytesAt_putBytesAt_behind hi (by decide)

theorem CellBytes.getBytesAt_of_zeroDigest (h : c.zeroDigest = d.zeroDigest) {n : Nat}
    (hi : i + n ≤ DIGEST_OFFSET ∨ LENGTH_OFFSET ≤ i) :
    c.getBytesAt i n = d.getBytesAt i n := by
  rw [← getBytesAt_zeroDigest c hi, h, getBytesAt_zeroDigest d hi]

theorem CellBytes.getShortAt_of_zeroDigest (h : c.zeroDigest = d.zeroDigest)
    (hi : i + 2 ≤ DIGEST_OFFSET ∨ LENGTH_OFFSET ≤ i) :
    c.getShortAt i = d.getShortAt i := by
  rw [getShortAt_eq, getShortAt_eq, getBytesAt_of_zeroDigest h hi]

theorem CellBytes.getByteAt_of_zeroDigest (h : c.zeroDigest = d.zeroDigest)
    (hi : i + 1 ≤ DIGEST_OFFSET ∨ LENGTH_OFFSET ≤ i) :
    c.getByteAt i = d.getByteAt i := by
  rw [getByteAt_eq, getByteAt_eq, getBytesAt_of_zeroDigest h hi]

/-! ## One cell -/

/-- The client's end of a hop and the relay's, in the direction to the client. -/
structure BackwardMirrored (n : CircuitNode) (h : Hop) : Prop where
  digest : n.cryptoState.backwardDigest = h.backwardDigest
  cipher : n.cryptoState.backwardCipher = h.backwardCipher

/-- The backward keystreams of the nodes, in the order of the path. -/
def backwardCiphers (nodes : List CircuitNode) : List TorStreamCipher :=
  nodes.map fun n => n.cryptoState.backwardCipher

theorem backwardCiphers_cons (n : CircuitNode) (nodes : List CircuitNode) :
    backwardCiphers (n :: nodes) = n.cryptoState.backwardCipher :: backwardCiphers nodes := rfl

namespace Circuit

variable (P : Platform) (W : Waits)

/-- A node takes off the layer that its relay put on, and looks whether the cell is for it. -/
theorem decryptBackwardCell_encrypted {n : CircuitNode} {h : Hop} (hm : BackwardMirrored n h)
    (c : CellBytes) :
    ∃ n', n.decryptBackwardCell P (h.backwardCipher.encryptPayload P c).1 =
        (decide (Recognizes P h.backwardDigest c), n', c) ∧
      n'.cryptoState.backwardCipher = h.backwardCipher.skip P CELL_PAYLOAD_LEN ∧
      n'.cryptoState.backwardDigest =
        if Recognizes P h.backwardDigest c then
          h.backwardDigest.update c.zeroDigest.payload
        else h.backwardDigest := by
  unfold CircuitNode.decryptBackwardCell
  rw [decryptBackwardCell_eq, hm.cipher]
  dsimp only
  rw [TorStreamCipher.encryptPayload_encryptPayload, TorStreamCipher.encryptPayload_state]
  generalize h.backwardCipher.skip P CELL_PAYLOAD_LEN = cipher
  rw [← hm.digest]
  by_cases hrecognized : Recognizes P n.cryptoState.backwardDigest c
  · rw [if_pos hrecognized, if_pos hrecognized, decide_eq_true hrecognized]
    exact ⟨_, rfl, rfl, rfl⟩
  · rw [if_neg hrecognized, if_neg hrecognized, decide_eq_false hrecognized]
    exact ⟨_, rfl, rfl, rfl⟩

variable {hops : List Hop}

/-- The cell is recognised at the relay that sent it, with its bytes as they were stamped; the
keystreams up to that relay move on, and the nodes are mirrored again. -/
theorem decryptNodes_sendBack {nodes : List CircuitNode}
    (hm : List.Forall₂ BackwardMirrored nodes hops) (hi : i < hops.length)
    (hzero : c.getShortAt RECOGNIZED_OFFSET = 0) (hquiet : Hop.Quiet P hops i c) :
    ∃ nodes', decryptNodes P nodes (Hop.sendBack P hops i c).2 =
        (some i, nodes', Hop.stampAt P hops i c) ∧
      List.Forall₂ BackwardMirrored nodes' (Hop.sendBack P hops i c).1 ∧
      backwardCiphers nodes' = Layers.advanceTo (cellCipher P) (backwardCiphers nodes) i := by
  induction hm generalizing i with
  | nil => exact absurd hi (Nat.not_lt_zero i)
  | @cons n h nodes hops hn hrest ih =>
    cases i with
    | zero =>
      obtain ⟨n', hdecrypt, hcipher, hdigest⟩ := decryptBackwardCell_encrypted P hn (h.stamp P c)
      have hstamp := Hop.recognizes_stamp (P := P) h c hzero
      rw [decide_eq_true hstamp] at hdecrypt
      rw [if_pos hstamp, Hop.stamp_zeroDigest] at hdigest
      refine ⟨n' :: nodes, ?_, .cons ⟨hdigest, ?_⟩ hrest, ?_⟩
      · show decryptNodes P (n :: nodes) (h.backwardCipher.encryptPayload P (h.stamp P c)).1 = _
        rw [decryptNodes, hdecrypt]
        rfl
      · exact hcipher.trans (TorStreamCipher.encryptPayload_state P h.backwardCipher _).symm
      · rw [backwardCiphers_cons, backwardCiphers_cons, hcipher, hn.cipher, Layers.advanceTo_zero,
          cellCipher_advance]
    | succ i =>
      -- a layer in front: the node does not take the cell, and hands it to the nodes behind
      obtain ⟨hquiet, hquiet'⟩ := hquiet
      obtain ⟨nodes', hrun, hm', hciphers⟩ := ih (by simpa using hi) hquiet'
      obtain ⟨n', hdecrypt, hcipher, hdigest⟩ :=
        decryptBackwardCell_encrypted P hn (Hop.sendBack P hops i c).2
      rw [decide_eq_false hquiet] at hdecrypt
      rw [if_neg hquiet] at hdigest
      refine ⟨n' :: nodes', ?_, .cons ⟨hdigest, ?_⟩ hm', ?_⟩
      · show decryptNodes P (n :: nodes)
          (h.backwardCipher.encryptPayload P (Hop.sendBack P hops i c).2).1 = _
        rw [decryptNodes, hdecrypt]
        simp only [hrun, Bool.false_eq_true, if_false, Option.map_some]
        rfl
      · exact hcipher.trans (TorStreamCipher.encryptPayload_state P h.backwardCipher _).symm
      · rw [backwardCiphers_cons, backwardCiphers_cons, hcipher, hciphers, hn.cipher,
          Layers.advanceTo_succ, cellCipher_advance]

/-! ## Sequences of cells -/

/-- The cell a relay sent, as the client gets to see it. -/
structure Exposes (hop : Nat) (cell : Cell) (r : RelayCell) : Prop where
  circuitNode : r.circuitNode = hop
  relayCommand : r.relayCommand = cell.cellBytes.getByteAt CELL_HEADER_LEN
  streamId : r.streamId = cell.cellBytes.getShortAt 6
  limit : r.limit = HEADER_SIZE + cell.cellBytes.getShortAt LENGTH_OFFSET
  data : r.remaining =
    cell.cellBytes.getBytesAt HEADER_SIZE (cell.cellBytes.getShortAt LENGTH_OFFSET)
  bytes : r.cellBytes.zeroDigest = cell.cellBytes.zeroDigest

/-- The cell is attributed to its relay. One with a length field that cannot be is refused, after
it was attributed. -/
theorem createFromCell_stamped (hop : Nat) {cell : Cell} {bytes : CellBytes}
    (hrelay : cell.command = Cell.RELAY) (hbytes : bytes.zeroDigest = cell.cellBytes.zeroDigest) :
    (HEADER_SIZE + cell.cellBytes.getShortAt LENGTH_OFFSET ≤ CELL_LEN →
      ∃ r, createFromCell hop { cell with cellBytes := bytes } = .ok r ∧ Exposes hop cell r) ∧
    (CELL_LEN < HEADER_SIZE + cell.cellBytes.getShortAt LENGTH_OFFSET →
      createFromCell hop { cell with cellBytes := bytes } =
        .error (.tor (lit "Header length field exceeds total size of cell"))) := by
  have hlength : bytes.getShortAt LENGTH_OFFSET = cell.cellBytes.getShortAt LENGTH_OFFSET :=
    getShortAt_of_zeroDigest hbytes (Or.inr (Nat.le_refl _))
  unfold createFromCell
  rw [if_neg (by rw [hrelay]; decide), hlength]
  constructor
  · intro hfits
    rw [if_neg (by omega)]
    refine ⟨_, rfl, rfl, ?_, ?_, rfl, ?_, hbytes⟩
    · exact getByteAt_of_zeroDigest hbytes (Or.inl (by decide))
    · exact getShortAt_of_zeroDigest hbytes (Or.inl (by decide))
    · show bytes.getBytesAt HEADER_SIZE (HEADER_SIZE + _ - HEADER_SIZE) = _
      rw [Nat.add_sub_cancel_left]
      exact getBytesAt_of_zeroDigest hbytes (Or.inr (by decide))
  · intro hlong
    rw [if_pos (by omega)]

/-- The client has received `cell` from the relay at position `hop`. -/
structure Received (hops : List Hop) (hop : Nat) (cell : Cell) (c c' : Circuit) : Prop where
  exposed : HEADER_SIZE + cell.cellBytes.getShortAt LENGTH_OFFSET ≤ CELL_LEN →
    ∃ r, decryptRelayCell P W
        { cell with cellBytes := (Hop.sendBack P hops hop cell.cellBytes).2 } c = .ok r c' ∧
      Exposes hop cell r
  refused : CELL_LEN < HEADER_SIZE + cell.cellBytes.getShortAt LENGTH_OFFSET →
    decryptRelayCell P W
        { cell with cellBytes := (Hop.sendBack P hops hop cell.cellBytes).2 } c =
      .error (.tor (lit "Header length field exceeds total size of cell")) c'
  keystreams : backwardCiphers c'.nodeList =
    Layers.advanceTo (cellCipher P) (backwardCiphers c.nodeList) hop
  mirrored : List.Forall₂ BackwardMirrored c'.nodeList
    (Hop.sendBack P hops hop cell.cellBytes).1

theorem received {hop : Nat} {cell : Cell} {c : Circuit}
    (hm : List.Forall₂ BackwardMirrored c.nodeList hops) (hhop : hop < hops.length)
    (hrelay : cell.command = Cell.RELAY) (hzero : cell.cellBytes.getShortAt RECOGNIZED_OFFSET = 0)
    (hquiet : Hop.Quiet P hops hop cell.cellBytes) :
    ∃ c', Received P W hops hop cell c c' := by
  obtain ⟨nodes', hrun, hm', hciphers⟩ := decryptNodes_sendBack P hm hhop hzero hquiet
  -- what is left of `decryptRelayCell` once the cell is recognised
  have hdecrypt : decryptRelayCell P W
      { cell with cellBytes := (Hop.sendBack P hops hop cell.cellBytes).2 } c =
        fromExcept (createFromCell hop
          { cell with cellBytes := Hop.stampAt P hops hop cell.cellBytes })
          { c with nodeList := nodes' } := by
    unfold decryptRelayCell decryptCell
    simp only [bind_run, get_run, hrun, modify_run, pure_run]
  have hcreate := createFromCell_stamped hop hrelay
    (Hop.stampAt_zeroDigest (P := P) hops hop cell.cellBytes)
  refine ⟨{ c with nodeList := nodes' }, ?_, ?_, hciphers, hm'⟩
  · intro hfits
    obtain ⟨r, hr, hexposes⟩ := hcreate.1 hfits
    refine ⟨r, ?_, hexposes⟩
    rw [hdecrypt, hr, fromExcept_ok]
  · intro hlong
    rw [hdecrypt, hcreate.2 hlong, fromExcept_error]

/-- The cells are received one after the other; what each finds is what the one before left. -/
def BackwardSimulates : List Hop → Circuit → List (Nat × Cell) → Prop
  | _, _, [] => True
  | hops, c, (hop, cell) :: rest =>
    ∃ c', Received P W hops hop cell c c' ∧
      BackwardSimulates (Hop.sendBack P hops hop cell.cellBytes).1 c' rest

/-- No node ever takes a cell from further on for its own. -/
def NeverMisread : List Hop → List (Nat × Cell) → Prop
  | _, [] => True
  | hops, (hop, cell) :: rest =>
    Hop.Quiet P hops hop cell.cellBytes ∧
      NeverMisread (Hop.sendBack P hops hop cell.cellBytes).1 rest

/-- A relay cell from one of the relays. -/
structure Originated (hops : List Hop) (t : Nat × Cell) : Prop where
  hop : t.1 < hops.length
  relay : t.2.command = Cell.RELAY
  recognized : t.2.cellBytes.getShortAt RECOGNIZED_OFFSET = 0

theorem backwardSimulates {c : Circuit} {ts : List (Nat × Cell)}
    (hm : List.Forall₂ BackwardMirrored c.nodeList hops) (hts : ∀ t ∈ ts, Originated hops t)
    (hquiet : NeverMisread P hops ts) : BackwardSimulates P W hops c ts := by
  -- over the cells: being mirrored is the invariant
  induction ts generalizing hops c with
  | nil => exact trivial
  | cons t ts ih =>
    obtain ⟨hop, cell⟩ := t
    have ht := hts (hop, cell) List.mem_cons_self
    obtain ⟨c', hreceived⟩ := received P W hm ht.hop ht.relay ht.recognized hquiet.1
    refine ⟨c', hreceived, ih hreceived.mirrored ?_ hquiet.2⟩
    intro t ht'
    have hrest := hts t (List.mem_cons_of_mem _ ht')
    exact ⟨by rw [Hop.sendBack_length]; exact hrest.hop, hrest.relay, hrest.recognized⟩

/-- Cells from any of the relays, in any order: the client attributes each to the relay that sent
it and sees what was sent, with exactly the keystreams up to there moved on and all digests equal
to those of the relays. A node that has looked at a cell and not recognised it has its digest as
before and passes on what it decrypted. -/
theorem backward_simulation (hops : List Hop) (c : Circuit) (ts : List (Nat × Cell))
    (hm : List.Forall₂ BackwardMirrored c.nodeList hops) (hts : ∀ t ∈ ts, Originated hops t)
    (hquiet : NeverMisread P hops ts) :
    BackwardSimulates P W hops c ts ∧
    ∀ (node : CircuitNode) (bytes : CellBytes), (node.decryptBackwardCell P bytes).1 = false →
      (node.decryptBackwardCell P bytes).2.1.cryptoState.backwardDigest =
          node.cryptoState.backwardDigest ∧
      (node.decryptBackwardCell P bytes).2.2 =
        (node.cryptoState.backwardCipher.encryptPayload P bytes).1 := by
  refine ⟨backwardSimulates P W hm hts hquiet, ?_⟩
  intro node bytes hfalse
  unfold CircuitNode.decryptBackwardCell at hfalse ⊢
  rw [decryptBackwardCell_eq] at hfalse ⊢
  by_cases hrecognized : Recognizes P node.cryptoState.backwardDigest
      (node.cryptoState.backwardCipher.encryptPayload P bytes).1
  · rw [if_pos hrecognized] at hfalse
    cases hfalse
  · rw [if_neg hrecognized]
    exact ⟨rfl, rfl⟩

end Circuit

/-! ## An example circuit -/

/-- The client's end of a hop, keyed by one byte. -/
def sampleNode (key : UInt8) : CircuitNode :=
  { router := none
    cryptoState :=
      { checksumDigest := ⟨List.replicate 20 key, HexDigest.replicate_valid key⟩
        forwardDigest := { data := [key] }
        backwardDigest := { data := [key] }
        forwardCipher := ⟨List.replicate 16 key, List.replicate 16 0, List.replicate 16 0, -1⟩
        backwardCipher := ⟨List.replicate 16 key, List.replicate 16 0, List.replicate 16 0, -1⟩ }
    packageWindow := CircuitNode.CIRCWINDOW_START
    deliverWindow := CircuitNode.CIRCWINDOW_START }

/-- The relay that shares the keys of a node. -/
def CircuitNode.hop (n : CircuitNode) : Hop :=
  { forwardDigest := n.cryptoState.forwardDigest
    backwardDigest := n.cryptoState.backwardDigest
    forwardCipher := n.cryptoState.forwardCipher
    backwardCipher := n.cryptoState.backwardCipher }

/-- An open circuit with these nodes. -/
def sampleOpen (nodes : List CircuitNode) : Circuit :=
  { circuitId := 1
    state := .OPEN
    nodeList := nodes
    streamMap := []
    relayCellResponseQueue := []
    controlCellResponseQueue := []
    currentStreamId := 0
    isMarkedForClose := false
    isClosed := false
    isBound := true
    isActive := true
    inCircuitMap := true
    managerIsBuilding := true
    connectionClosed := false
    sent := []
    extensions := []
    applications := []
    log := [] }

/-- A cell as a relay fills it in. -/
def sampleCell (streamId relayCommand : Nat) (data : List UInt8) : Cell :=
  let cell := RelayCell.create 0 1 streamId relayCommand false
  { cell.toCell with
    cellBytes := (cell.cellBytes.putShortAt LENGTH_OFFSET data.length).putBytesAt HEADER_SIZE data }

/-- Two relays, and a cell from each. -/
theorem backward_simulation_two :
    Circuit.BackwardSimulates Platform.checksum Waits.never
      [(sampleNode 1).hop, (sampleNode 2).hop] (sampleOpen [sampleNode 1, sampleNode 2])
      [(1, sampleCell 5 RELAY_DATA [10, 11]), (0, sampleCell 0 RELAY_SENDME [])] := by
  refine (Circuit.backward_simulation Platform.checksum Waits.never _ _ _ ?_ ?_ ?_).1
  · exact .cons ⟨rfl, rfl⟩ (.cons ⟨rfl, rfl⟩ .nil)
  · intro t ht
    rcases List.mem_pair.mp ht with rfl | rfl
    · exact ⟨by decide, by decide, by decide +kernel⟩
    · exact ⟨by decide, by decide, by decide +kernel⟩
  · exact ⟨by decide +kernel, by decide +kernel, trivial⟩

end Orchid
