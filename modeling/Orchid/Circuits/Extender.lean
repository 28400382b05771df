import Orchid.Circuits.Frame

/-!
# Orchid — extending circuits

`CircuitExtender` adds one node to a circuit: the first by CREATE_FAST, the others by an EXTEND
through the circuit built so far, with ntor if the target has a key for it and with TAP
otherwise. The key agreements are given: a `KeyAgreement` says what to send and, for an answer,
whether keys were derived, the answer was refused, or an exception was raised.

Sending the request (`sendExtend`) and taking the answer (`finishExtend`) are separate calls, as
other threads run in between. The answer is whatever the queue holds by then.

* **`extendTo_spec`**: an extension that returns took one answer off the queue; it added a node
  keyed by the answer if the agreement derived keys from it, and returned null otherwise.
* **`createFastTo_spec`**: the same for the first node.
-/

namespace Orchid

open Prog RelayCell CircuitNodeCryptoState TorStreamCipher

/-! ## Key agreements -/

/-- What a key agreement derives, in arrays of fixed size. -/
structure DerivedKeys where
  keyMaterial : List UInt8
  verifyHash : List UInt8
  keyMaterial_length : keyMaterial.length = CircuitNodeCryptoState.KEY_MATERIAL_SIZE
  verifyHash_length : verifyHash.length = TOR_DIGEST_SIZE

/-- A `TorKeyAgreement` with its secrets. `deriveKeys` is none where
`deriveKeysFromHandshakeResponse` returns false. -/
structure KeyAgreement where
  onionSkin : List UInt8
  deriveKeys : List UInt8 → Except JavaException (Option DerivedKeys)

/-- The agreements the next handshake can use: they are made from fresh secrets and, except
for CREATE_FAST, from keys of the router. -/
structure Handshakes where
  createFast : KeyAgreement
  ntor : HexDigest → List UInt8 → KeyAgreement
  tap : TorPublicKey → KeyAgreement

/-! ## Texts -/

/-- `IPv4Address.toString`. -/
def IPv4Address.toJString (a : IPv4Address) : JString :=
  let n := a.addressData.toNat
  showInt (n / 2 ^ 24 % 256 : Nat) ++ lit "." ++ showInt (n / 2 ^ 16 % 256 : Nat) ++ lit "." ++
    showInt (n / 2 ^ 8 % 256 : Nat) ++ lit "." ++ showInt (n % 256 : Nat)

def IPv4Address.getAddressDataBytes (a : IPv4Address) : List UInt8 :=
  let n := a.addressData.toNat
  [UInt8.ofNat (n / 2 ^ 24), UInt8.ofNat (n / 2 ^ 16), UInt8.ofNat (n / 2 ^ 8), UInt8.ofNat n]

/-- `RouterImpl.toString`. -/
def Router.toJString (r : Router) : JString :=
  lit "Router[" ++ r.nickname ++ lit " (" ++ r.address.toJString ++ lit ":" ++
    showInt r.onionPort ++ lit ")]"

namespace CircuitExtender

open Circuit

variable (P : Platform) (W : Waits)

def DH_BYTES : Nat := 1024 / 8
def PKCS1_OAEP_PADDING_OVERHEAD : Nat := 42
def TAP_ONIONSKIN_LEN : Nat := PKCS1_OAEP_PADDING_OVERHEAD + TorStreamCipher.KEY_LEN + DH_BYTES
def TAP_ONIONSKIN_REPLY_LEN : Nat := DH_BYTES + TOR_DIGEST_SIZE

/-- `getNtorCreateMagic`. -/
def ntorCreateMagic : List UInt8 := latin1 (lit "ntorNTORntorNTOR")

/-- `getByteArray` into an array of `n` bytes. -/
def getByteArray (n : Nat) (remaining : List UInt8) : Except JavaException (List UInt8) :=
  if n ≤ remaining.length then .ok (remaining.take n) else .error .bufferUnderflow

/-! ## The first node -/

def sendCreateFastCell (kex : KeyAgreement) : CircuitM Unit := do
  let cell := Cell.createCell (← get).circuitId Cell.CREATE_FAST
  sendCell P W (← fromExcept (cell.putByteArray kex.onionSkin))

/-- The bytes of the answer that are given to the agreement. -/
def createdPayload (cell : Cell) : Except JavaException (List UInt8) :=
  getByteArray (TOR_DIGEST_SIZE * 2) cell.remaining

def appendNode (node : CircuitNode) : CircuitM Unit :=
  modify fun c => { c with nodeList := c.nodeList ++ [node] }

/-- `processCreatedFastCell`: null if the agreement refuses the answer. -/
def processCreatedFastCell (targetRouter : Router) (cell : Cell) (kex : KeyAgreement) :
    CircuitM (Option CircuitNode) := do
  let payload ← fromExcept (createdPayload cell)
  match ← fromExcept (kex.deriveKeys payload) with
  | none => return none
  | some keys =>
    let node ← fromExcept (CircuitNode.createNode targetRouter keys.keyMaterial keys.verifyHash)
    appendNode node
    return some node

def createFastTo (hs : Handshakes) (targetRouter : Router) : CircuitM (Option CircuitNode) := do
  sendCreateFastCell P W hs.createFast
  match ← receiveControlCellResponse with
  | none => throw (.tor (lit "Timeout building circuit waiting for CREATE_FAST response from " ++
      targetRouter.toJString))
  | some cell => processCreatedFastCell targetRouter cell hs.createFast

/-! ## The request -/

/-- How a circuit is extended. -/
inductive ExtendKind where
  | ntorExtend2
  | ntorExtend
  | tap
  deriving DecidableEq, Repr

/-- The agreement for a target. -/
def ExtendKind.agreement (kind : ExtendKind) (hs : Handshakes) (target : Router) : KeyAgreement :=
  match kind with
  | .tap => hs.tap target.onionKey
  | _ => hs.ntor target.identityHash (target.ntorOnionKey.getD [])

def createRelayCell (command : Nat) : CircuitM RelayCell := do
  return RelayCell.create (← getFinalCircuitNode) (← get).circuitId 0 command true

def useNtor (ntorEnabled : Bool) (targetRouter : Router) : Bool :=
  ntorEnabled && targetRouter.ntorOnionKey.isSome

/-- `getFinalRouter().getNTorOnionKey() != null`. -/
def finalRouterSupportsExtend2 : CircuitM Bool := do
  let final ← getFinalCircuitNode
  match (← get).nodeList[final]? with
  | some ⟨some router, _, _, _⟩ => return router.ntorOnionKey.isSome
  | _ => throw .nullPointer

def extendKind (ntorEnabled : Bool) (targetRouter : Router) : CircuitM ExtendKind := do
  if useNtor ntorEnabled targetRouter then
    if ← finalRouterSupportsExtend2 then return .ntorExtend2 else return .ntorExtend
  else return .tap

/-- `createExtend2Cell`. -/
def putExtend2 (router : Router) (onion : List UInt8) (cell : RelayCell) :
    Except JavaException RelayCell := do
  let cell ← cell.putByte 2
  let cell ← cell.putByte 0
  let cell ← cell.putByte 6
  let cell ← cell.putByteArray router.address.getAddressDataBytes
  let cell ← cell.putShort router.onionPort
  let cell ← cell.putByte 2
  let cell ← cell.putByte 20
  let cell ← cell.putByteArray router.identityHash.digestBytes
  let cell ← cell.putShort 0x0002
  let cell ← cell.putShort onion.length
  cell.putByteArray onion

/-- `createExtendCell` of the ntor extender: the handshake stands in a TAP onion skin. -/
def putTunneledExtend (router : Router) (onion : List UInt8) (cell : RelayCell) :
    Except JavaException RelayCell := do
  let cell ← cell.putByteArray router.address.getAddressDataBytes
  let cell ← cell.putShort router.onionPort
  if TAP_ONIONSKIN_LEN < onion.length + ntorCreateMagic.length then throw .negativeArraySize
  let padding := List.replicate (TAP_ONIONSKIN_LEN - (onion.length + ntorCreateMagic.length)) 0
  let cell ← cell.putByteArray ntorCreateMagic
  let cell ← cell.putByteArray onion
  let cell ← cell.putByteArray padding
  cell.putByteArray router.identityHash.digestBytes

/-- `createRelayExtendCell` of the TAP extender. -/
def putTapExtend (router : Router) (onion : List UInt8) (cell : RelayCell) :
    Except JavaException RelayCell := do
  let cell ← cell.putByteArray router.address.getAddressDataBytes
  let cell ← cell.putShort router.onionPort
  let cell ← cell.putByteArray onion
  cell.putByteArray router.identityHash.digestBytes

def ExtendKind.request : ExtendKind → Nat
  | .ntorExtend2 => RELAY_EXTEND2
  | _ => RELAY_EXTEND

def ExtendKind.putRequest (kind : ExtendKind) (router : Router) (onion : List UInt8) :
    RelayCell → Except JavaException RelayCell :=
  match kind with
  | .ntorExtend2 => putExtend2 router onion
  | .ntorExtend => putTunneledExtend router onion
  | .tap => putTapExtend router onion

/-- The first half of `extendTo`, up to the sending of the request. -/
def sendExtend (hs : Handshakes) (ntorEnabled : Bool) (targetRouter : Router) :
    CircuitM ExtendKind := do
  if (← get).nodeList.length = 0 then throw (.tor (lit "Cannot EXTEND an empty circuit"))
  let kind ← extendKind ntorEnabled targetRouter
  let cell ← createRelayCell kind.request
  let cell ← fromExcept (kind.putRequest targetRouter (kind.agreement hs targetRouter).onionSkin cell)
  sendRelayCellTo P W cell cell.circuitNode
  return kind

/-! ## The answer -/

def ExtendKind.expected : ExtendKind → Nat
  | .ntorExtend2 => RELAY_EXTENDED2
  | _ => RELAY_EXTENDED

/-- `nodeToName`. -/
def nodeToName (c : Circuit) (node : Nat) : JString :=
  match c.nodeList[node]? with
  | some ⟨some router, _, _, _⟩ => router.nickname
  | _ => lit "(null)"

/-- `receiveRelayResponse`: which node the answer comes from only shows in the message. -/
def receiveRelayResponse (expectedCommand : Nat) (extendTarget : Router) : CircuitM RelayCell := do
  match ← receiveRelayCell with
  | none => throw (.tor (lit "Timeout building circuit"))
  | some cell =>
    if cell.relayCommand = RELAY_TRUNCATED then
      match cell.toCell.remaining with
      | [] => throw .bufferUnderflow
      | code :: _ => throw (.tor (lit "Error from (" ++ nodeToName (← get) cell.circuitNode ++
          lit ") while extending to (" ++ extendTarget.nickname ++ lit "): " ++
          Cell.errorToDescription code.toNat))
    else if cell.relayCommand ≠ expectedCommand then
      throw (.tor (lit "Received incorrect extend response, expecting " ++
        commandToDescription expectedCommand ++ lit " but received " ++
        commandToDescription cell.relayCommand))
    else return cell

/-- `processExtended2`: a length and so many bytes. -/
def extended2Payload (remaining : List UInt8) : Except JavaException (List UInt8) :=
  match remaining with
  | high :: low :: rest =>
    let payloadLength := high.toNat * 256 + low.toNat
    if payloadLength > rest.length then
      .error (.tor (lit "Incorrect payload length value in RELAY_EXTENED2 cell"))
    else .ok (rest.take payloadLength)
  | _ => .error .bufferUnderflow

/-- The bytes of the answer that are given to the agreement. -/
def ExtendKind.payload (kind : ExtendKind) (response : RelayCell) :
    Except JavaException (List UInt8) :=
  match kind with
  | .ntorExtend2 => extended2Payload response.toCell.remaining
  | _ => getByteArray TAP_ONIONSKIN_REPLY_LEN response.toCell.remaining

/-- `createNewNode`, which also records the answer. -/
def createNewNode (r : Router) (keys : DerivedKeys) (response : RelayCell) :
    CircuitM CircuitNode := do
  let final ← getFinalCircuitNode
  let node ← fromExcept (CircuitNode.createNode r keys.keyMaterial keys.verifyHash)
  appendNode node
  modify fun c => { c with extensions := c.extensions ++ [⟨response, final⟩] }
  return node

/-- What is done with an answer of the expected kind: null if the agreement refuses it. -/
def processExtended (kex : KeyAgreement) (kind : ExtendKind) (targetRouter : Router)
    (response : RelayCell) : CircuitM (Option CircuitNode) := do
  let payload ← fromExcept (kind.payload response)
  match ← fromExcept (kex.deriveKeys payload) with
  | none => return none
  | some keys => return some (← createNewNode targetRouter keys response)

/-- The second half of `extendTo`. -/
def finishExtend (hs : Handshakes) (kind : ExtendKind) (targetRouter : Router) :
    CircuitM (Option CircuitNode) := do
  let response ← receiveRelayResponse kind.expected targetRouter
  processExtended (kind.agreement hs targetRouter) kind targetRouter response

def extendTo (hs : Handshakes) (ntorEnabled : Bool) (targetRouter : Router) :
    CircuitM (Option CircuitNode) := do
  let kind ← sendExtend P W hs ntorEnabled targetRouter
  finishExtend hs kind targetRouter

/-! ## Nodes and their keys -/

/-- The node of a router, keyed by what an agreement derived. This is said of the node at any
time: what it was created from stays visible in its ciphers and digests. -/
structure KeyedBy (keys : DerivedKeys) (r : Router) (n : CircuitNode) : Prop where
  router : n.router = some r
  checksum : n.cryptoState.checksumDigest.digestBytes = keys.verifyHash
  forwardKey : n.cryptoState.forwardCipher.keyBytes = Segment.segment keys.keyMaterial 40 16
  backwardKey : n.cryptoState.backwardCipher.keyBytes = Segment.segment keys.keyMaterial 56 16
  forwardSeed : Segment.segment keys.keyMaterial 0 20 <+: n.cryptoState.forwardDigest.data
  backwardSeed : Segment.segment keys.keyMaterial 20 20 <+: n.cryptoState.backwardDigest.data

theorem KeyedBy.kept {keys : DerivedKeys} {r : Router} {n n' : CircuitNode}
    (h : KeyedBy keys r n) (hkept : NodeKept n n') : KeyedBy keys r n' :=
  ⟨hkept.router.trans h.router, by rw [hkept.checksum]; exact h.checksum,
    hkept.forwardKey.trans h.forwardKey, hkept.backwardKey.trans h.backwardKey,
    h.forwardSeed.trans hkept.forwardDigest, h.backwardSeed.trans hkept.backwardDigest⟩

theorem createFromKeyBytes_ok {key : List UInt8} (h : key.length = 16) :
    ∃ cipher, createFromKeyBytes key = .ok cipher ∧ cipher.keyBytes = key := by
  have hne : key ≠ [] := by
    rintro rfl
    exact absurd h (by decide)
  have hvalid : isValidKey key = true := by
    unfold isValidKey
    rw [h]
    rfl
  refine ⟨⟨key, List.replicate 16 0, List.replicate 16 0, -1⟩, ?_, rfl⟩
  unfold createFromKeyBytes
  rw [if_neg hne, if_pos hvalid]
  rfl

theorem extractBytes_ok (keys : DerivedKeys) {offset n : Nat} (h : offset + n ≤ 72) :
    extractBytes keys.keyMaterial offset n = .ok (Segment.segment keys.keyMaterial offset n) := by
  have hlength : keys.keyMaterial.length = 72 := keys.keyMaterial_length
  unfold extractBytes
  rw [if_pos (by omega)]

theorem segment_key_length (keys : DerivedKeys) {offset : Nat} (h : offset + 16 ≤ 72) :
    (Segment.segment keys.keyMaterial offset 16).length = 16 := by
  have hlength : keys.keyMaterial.length = 72 := keys.keyMaterial_length
  exact Segment.segment_length (by omega)

/-- Derived keys always make a node, and it is keyed by them. -/
theorem createNode_keyed (r : Router) (keys : DerivedKeys) :
    ∃ n, CircuitNode.createNode r keys.keyMaterial keys.verifyHash = .ok n ∧ KeyedBy keys r n := by
  obtain ⟨forward, hforward, hforwardKey⟩ :=
    createFromKeyBytes_ok (segment_key_length keys (show 40 + 16 ≤ 72 by decide))
  obtain ⟨backward, hbackward, hbackwardKey⟩ :=
    createFromKeyBytes_ok (segment_key_length keys (show 56 + 16 ≤ 72 by decide))
  have hdigest : HexDigest.createFromDigestBytes keys.verifyHash =
      .ok ⟨keys.verifyHash, Or.inl keys.verifyHash_length⟩ := by
    unfold HexDigest.createFromDigestBytes
    rw [dif_pos (Or.inl keys.verifyHash_length)]
  let cs : CircuitNodeCryptoState :=
    { checksumDigest := ⟨keys.verifyHash, Or.inl keys.verifyHash_length⟩
      forwardDigest := ({ } : TorMessageDigest).update (Segment.segment keys.keyMaterial 0 20)
      backwardDigest := ({ } : TorMessageDigest).update (Segment.segment keys.keyMaterial 20 20)
      forwardCipher := forward
      backwardCipher := backward }
  have hcrypto : createFromKeyMaterial keys.keyMaterial keys.verifyHash = .ok cs := by
    unfold createFromKeyMaterial extractDigestBytes extractCipherKey
    simp only [hdigest, extractBytes_ok keys (show 0 + TOR_DIGEST_SIZE ≤ 72 by decide),
      extractBytes_ok keys (show TOR_DIGEST_SIZE + TOR_DIGEST_SIZE ≤ 72 by decide),
      extractBytes_ok keys (show TOR_DIGEST_SIZE * 2 + KEY_LEN ≤ 72 by decide),
      extractBytes_ok keys
        (show TOR_DIGEST_SIZE * 2 + KEY_LEN + KEY_LEN ≤ 72 by
          decide)]
    show (createFromKeyBytes (Segment.segment keys.keyMaterial 40 16) >>= fun f =>
      createFromKeyBytes (Segment.segment keys.keyMaterial 56 16) >>= fun b =>
        Except.ok (mk _ _ _ f b)) = _
    rw [hforward, hbackward]
    rfl
  refine ⟨⟨some r, cs, CircuitNode.CIRCWINDOW_START, CircuitNode.CIRCWINDOW_START⟩, ?_,
    ⟨rfl, rfl, hforwardKey, hbackwardKey, ?_, ?_⟩⟩
  · unfold CircuitNode.createNode
    rw [hcrypto]
    rfl
  · exact List.prefix_refl _
  · exact List.prefix_refl _

/-! ## What an extension does -/

/-- The router of the final node. -/
def finalRouter (c : Circuit) : Option Router := c.nodeList.getLast?.bind CircuitNode.router

/-- How a circuit that ends at `previous` is extended to `target`. -/
def kindAfter (ntorEnabled : Bool) (previous : Option Router) (target : Router) : ExtendKind :=
  if useNtor ntorEnabled target then
    if (previous.bind Router.ntorOnionKey).isSome then .ntorExtend2 else .ntorExtend
  else .tap

variable {c c' : Circuit} {kind : ExtendKind} {ntorEnabled : Bool} {R : Circuit → Circuit → Prop}
  {hs : Handshakes} {o : Option CircuitNode}

theorem getFinalCircuitNode_ok {i : Nat} (h : getFinalCircuitNode c = .ok i c') :
    c' = c ∧ i = c.nodeList.length - 1 ∧ c.nodeList ≠ [] := by
  unfold getFinalCircuitNode at h
  rw [get_bind_run] at h
  cases hnodes : c.nodeList with rw [hnodes] at h
  | nil => cases h
  | cons n nodes =>
    cases h
    exact ⟨rfl, rfl, List.cons_ne_nil n nodes⟩

theorem finalRouterSupportsExtend2_ok {b : Bool} (h : finalRouterSupportsExtend2 c = .ok b c') :
    c' = c ∧ b = ((finalRouter c).bind Router.ntorOnionKey).isSome := by
  obtain ⟨final, c₁, hfinal, h⟩ := bind_eq_ok.mp h
  obtain ⟨rfl, rfl, hne⟩ := getFinalCircuitNode_ok hfinal
  rw [get_bind_run] at h
  unfold finalRouter
  rw [List.getLast?_eq_getElem?]
  cases hnode : c₁.nodeList[c₁.nodeList.length - 1]? with
  | none => rw [hnode] at h; cases h
  | some node =>
    obtain ⟨router, cs, pw, dw⟩ := node
    rw [hnode] at h
    cases router with
    | none => cases h
    | some router =>
      cases h
      exact ⟨rfl, rfl⟩

variable {target : Router}

theorem extendKind_ok (h : extendKind ntorEnabled target c = .ok kind c') :
    c' = c ∧ kind = kindAfter ntorEnabled (finalRouter c) target := by
  unfold extendKind at h
  unfold kindAfter
  split at h
  · obtain ⟨b, c₁, hb, h⟩ := bind_eq_ok.mp h
    obtain ⟨rfl, rfl⟩ := finalRouterSupportsExtend2_ok hb
    rw [if_pos (by assumption)]
    split at h
    · cases h
      exact ⟨rfl, (if_pos (by assumption)).symm⟩
    · cases h
      exact ⟨rfl, (if_neg (by assumption)).symm⟩
  · cases h
    exact ⟨rfl, (if_neg (by assumption)).symm⟩

/-- The request reads the final node and sends one cell. -/
theorem sendExtend_steps (hR : StepOrder R) (hsend : ∀ cell i, Steps R (sendRelayCellTo P W cell i))
    (hs : Handshakes) (ntorEnabled : Bool) (target : Router) :
    Steps R (sendExtend P W hs ntorEnabled target) := by
  have hfinalRouter : Steps R finalRouterSupportsExtend2 := by
    refine hR.bind (getFinalCircuitNode_steps hR) fun final => ?_
    refine Steps.get_bind fun c => ?_
    split
    · exact hR.pure _
    · exact hR.throw _
  have hkind : Steps R (extendKind ntorEnabled target) := by
    refine Steps.ite ?_ (hR.pure _)
    refine hR.bind hfinalRouter fun b => ?_
    exact (hR.pure _).ite (hR.pure _)
  have hcell : ∀ command, Steps R (createRelayCell command) := by
    intro command
    refine hR.bind (getFinalCircuitNode_steps hR) fun final => ?_
    exact Steps.get_bind fun c => hR.pure _
  have hmain : Steps R (do
      let kind ← extendKind ntorEnabled target
      let cell ← createRelayCell kind.request
      let cell ← fromExcept (kind.putRequest target (kind.agreement hs target).onionSkin cell)
      Circuit.sendRelayCellTo P W cell cell.circuitNode
      return kind) := by
    refine hR.bind hkind fun kind => hR.bind (hcell _) fun cell => ?_
    refine hR.bind (hR.fromExcept _) fun cell' => ?_
    exact hR.bind (hsend _ _) fun _ => hR.pure _
  refine Steps.get_bind fun c => Steps.ite ?_ hmain
  exact hR.bind (hR.throw _) fun _ => hmain

/-- It changes nothing but keystreams and digests, unless it destroys the circuit. -/
theorem sendExtend_writes (hs : Handshakes) (ntorEnabled : Bool) (target : Router) :
    Steps Writes (sendExtend P W hs ntorEnabled target) :=
  sendExtend_steps P W Writes.order (sendRelayCellTo_steps P W writes_destroying) hs ntorEnabled target

theorem sendExtend_ok (h : sendExtend P W hs ntorEnabled target c = .ok kind c') :
    Kept c c' ∧ kind = kindAfter ntorEnabled (finalRouter c) target := by
  refine ⟨((sendExtend_writes P W hs ntorEnabled target).ok h).kept, ?_⟩
  unfold sendExtend at h
  rw [get_bind_run] at h
  split at h
  · cases h
  · obtain ⟨kind', c₁, hkind, hrest⟩ := bind_eq_ok.mp h
    obtain ⟨rfl, hkind⟩ := extendKind_ok hkind
    obtain ⟨cell, c₂, -, hrest⟩ := bind_eq_ok.mp hrest
    obtain ⟨cell', c₃, -, hrest⟩ := bind_eq_ok.mp hrest
    obtain ⟨u, c₄, -, hrest⟩ := bind_eq_ok.mp hrest
    cases hrest
    exact hkind

/-- Waiting for an answer takes one off the queue. -/
theorem receiveRelayResponse_steps (hR : StepOrder R)
    (hqueue : ∀ (c : Circuit) rest, R c { c with relayCellResponseQueue := rest })
    (expectedCommand : Nat) (target : Router) :
    Steps R (receiveRelayResponse expectedCommand target) := by
  have hpoll : Steps R receiveRelayCell := by
    refine Steps.get_bind fun c => ?_
    split
    · exact hR.pure _
    · exact hR.bind (Steps.modify fun c => hqueue c _) fun _ => hR.pure _
  refine hR.bind hpoll fun o => ?_
  split
  · exact hR.throw _
  · refine Steps.ite ?_ ((hR.throw _).ite (hR.pure _))
    split
    · exact hR.throw _
    · exact Steps.get_bind fun c => hR.throw _

theorem finishExtend_steps (hR : StepOrder R)
    (hqueue : ∀ (c : Circuit) rest, R c { c with relayCellResponseQueue := rest })
    (hnode : ∀ r keys response, Steps R (createNewNode r keys response)) (hs : Handshakes)
    (kind : ExtendKind) (target : Router) : Steps R (finishExtend hs kind target) := by
  refine hR.bind (receiveRelayResponse_steps hR hqueue _ _) fun response => ?_
  refine hR.bind (hR.fromExcept _) fun payload => ?_
  refine hR.bind (hR.fromExcept _) fun result => ?_
  split
  · exact hR.pure _
  · exact hR.bind (hnode _ _ _) fun node => hR.pure _

theorem receiveRelayResponse_ok {expectedCommand : Nat} {response : RelayCell}
    (h : receiveRelayResponse expectedCommand target c = .ok response c') :
    c.relayCellResponseQueue = response :: c'.relayCellResponseQueue ∧
      response.relayCommand = expectedCommand ∧
      c' = { c with relayCellResponseQueue := c'.relayCellResponseQueue } := by
  obtain ⟨o, c₁, hpoll, h'⟩ := bind_eq_ok.mp h
  unfold receiveRelayCell at hpoll
  rw [get_bind_run] at hpoll
  cases hqueue : c.relayCellResponseQueue with rw [hqueue] at hpoll
  | nil =>
    cases hpoll
    cases h'
  | cons cell rest =>
    cases hpoll
    simp only at h'
    split at h'
    · -- TRUNCATED is always an error
      cases hremaining : cell.toCell.remaining with
      | nil | cons code bytes => rw [hremaining] at h'; cases h'
    · split at h'
      · cases h'
      · cases h'
        exact ⟨rfl, Decidable.not_not.mp (by assumption), rfl⟩

/-- Taking an answer: it was the next in the queue, and the circuit changes by a node or not
at all. -/
theorem finishExtend_ok (h : finishExtend hs kind target c = .ok o c') :
    ∃ response rest payload result,
      c.relayCellResponseQueue = response :: rest ∧ response.relayCommand = kind.expected ∧
      kind.payload response = .ok payload ∧
      (kind.agreement hs target).deriveKeys payload = .ok result ∧
      match result with
      | none => o = none ∧ c' = { c with relayCellResponseQueue := rest }
      | some keys => ∃ n, o = some n ∧ KeyedBy keys target n ∧
          c' = { c with
            relayCellResponseQueue := rest
            nodeList := c.nodeList ++ [n]
            extensions := c.extensions ++ [⟨response, c.nodeList.length - 1⟩] } := by
  obtain ⟨response, c₁, hresponse, hprocess⟩ := bind_eq_ok.mp h
  obtain ⟨hqueue, hcommand, hc₁⟩ := receiveRelayResponse_ok hresponse
  obtain ⟨payload, hpayload, hprocess⟩ := fromExcept_bind_eq_ok.mp hprocess
  obtain ⟨result, hderive, hafter⟩ := fromExcept_bind_eq_ok.mp hprocess
  refine ⟨response, c₁.relayCellResponseQueue, payload, result, hqueue, hcommand, hpayload,
    hderive, ?_⟩
  cases result with
  | none =>
    cases hafter
    exact ⟨rfl, hc₁⟩
  | some keys =>
    obtain ⟨n, hnode, hkeyed⟩ := createNode_keyed target keys
    obtain ⟨n', c₄, hnew, hret⟩ := bind_eq_ok.mp hafter
    obtain ⟨final, c₅, hfinal, happend⟩ := bind_eq_ok.mp hnew
    obtain ⟨rfl, rfl, -⟩ := getFinalCircuitNode_ok hfinal
    rw [hnode] at happend
    cases happend
    cases hret
    refine ⟨n, rfl, hkeyed, ?_⟩
    rw [hc₁]

/-- What one handshake does to the nodes: those there are kept, and one is added if the
agreement derived keys from the answer. -/
def Grows (kex : KeyAgreement) (target : Router) (payload : List UInt8)
    (nodes nodes' : List CircuitNode) : Prop :=
  ∃ result kept, kex.deriveKeys payload = .ok result ∧ List.Forall₂ NodeKept nodes kept ∧
    match result with
    | none => nodes' = kept
    | some keys => ∃ n, KeyedBy keys target n ∧ nodes' = kept ++ [n]

/-- An extension that returns has taken one answer. -/
theorem extendTo_spec (h : extendTo P W hs ntorEnabled target c = .ok o c') :
    ∃ response payload, c.relayCellResponseQueue = response :: c'.relayCellResponseQueue ∧
      (kindAfter ntorEnabled (finalRouter c) target).payload response = .ok payload ∧
      Grows ((kindAfter ntorEnabled (finalRouter c) target).agreement hs target) target payload
        c.nodeList c'.nodeList := by
  obtain ⟨kind, c₁, hsend, hfinish⟩ := bind_eq_ok.mp h
  obtain ⟨hkept, rfl⟩ := sendExtend_ok P W hsend
  obtain ⟨response, rest, payload, result, hqueue, -, hpayload, hderive, hresult⟩ :=
    finishExtend_ok hfinish
  rw [hkept.relayQueue] at hqueue
  cases result with
  | none =>
    obtain ⟨-, rfl⟩ := hresult
    exact ⟨response, payload, hqueue, hpayload, none, c₁.nodeList, hderive, hkept.nodes, rfl⟩
  | some keys =>
    obtain ⟨n, -, hkeyed, rfl⟩ := hresult
    exact ⟨response, payload, hqueue, hpayload, some keys, c₁.nodeList, hderive, hkept.nodes, n,
      hkeyed, rfl⟩

/-- So has the creation of the first node. -/
theorem createFastTo_spec (h : createFastTo P W hs target c = .ok o c') :
    ∃ cell payload, c.controlCellResponseQueue = cell :: c'.controlCellResponseQueue ∧
      c'.relayCellResponseQueue = c.relayCellResponseQueue ∧
      createdPayload cell = .ok payload ∧
      Grows hs.createFast target payload c.nodeList c'.nodeList := by
  obtain ⟨u, c₁, hsend, hreceive⟩ := bind_eq_ok.mp h
  have hkept : Kept c c₁ := by
    have hsteps : Steps Writes (sendCreateFastCell P W hs.createFast) := by
      refine Steps.get_bind fun _ => ?_
      exact Writes.order.bind (Writes.order.fromExcept _) fun _ => sendCell_steps P W writes_destroying _
    exact (hsteps.ok hsend).kept
  obtain ⟨o', c₂, hpoll, hprocess⟩ := bind_eq_ok.mp hreceive
  unfold receiveControlCellResponse at hpoll
  rw [get_bind_run] at hpoll
  cases hqueue : c₁.controlCellResponseQueue with rw [hqueue] at hpoll
  | nil =>
    cases hpoll
    cases hprocess
  | cons cell rest =>
    cases hpoll
    obtain ⟨payload, hpayload, hderived⟩ := fromExcept_bind_eq_ok.mp hprocess
    obtain ⟨result, hderive, hafter⟩ := fromExcept_bind_eq_ok.mp hderived
    rw [hkept.controlQueue] at hqueue
    cases result with
    | none =>
      cases hafter
      exact ⟨cell, payload, hqueue, hkept.relayQueue, hpayload, none, c₁.nodeList, hderive,
        hkept.nodes, rfl⟩
    | some keys =>
      obtain ⟨n, hnode, hkeyed⟩ := createNode_keyed target keys
      simp only [hnode] at hafter
      cases hafter
      exact ⟨cell, payload, hqueue, hkept.relayQueue, hpayload, some keys, c₁.nodeList, hderive,
        hkept.nodes, n, hkeyed, rfl⟩

end CircuitExtender

end Orchid
