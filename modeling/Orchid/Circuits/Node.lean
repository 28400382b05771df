import Orchid.Circuits.Cell
import Orchid.Lib.Layers

/-!
# Orchid — circuit nodes

A `CircuitNode` is the client's end of one hop: the running digests and stream ciphers for both
directions, made from the key material of the handshake, and the two windows that count cells.

To see whether a cell is for it, a node takes its layer off, and if *recognized* is zero it
zeroes the digest field, compares the running digest it would get with what stood there, and
puts the field back.

* **`decryptBackwardCell_eq`**: what is left of that is a decryption and, for a recognised cell,
  an update of the digest.
* `cellCipher` is the stream cipher as a `Layers.Cipher`.
-/

namespace Orchid

open Segment

/-- What is known of a relay from the directory. -/
structure Router where
  nickname : JString
  identityHash : HexDigest
  address : IPv4Address
  onionPort : Nat
  onionKey : TorPublicKey
  ntorOnionKey : Option (List UInt8)
  deriving DecidableEq

/-! ## The crypto state -/

structure CircuitNodeCryptoState where
  checksumDigest : HexDigest
  forwardDigest : TorMessageDigest
  backwardDigest : TorMessageDigest
  forwardCipher : TorStreamCipher
  backwardCipher : TorStreamCipher
  deriving DecidableEq

namespace CircuitNodeCryptoState

def KEY_MATERIAL_SIZE : Nat := TOR_DIGEST_SIZE * 2 + TorStreamCipher.KEY_LEN * 2

/-- `System.arraycopy` out of the key material. -/
def extractBytes (keyMaterial : List UInt8) (offset n : Nat) : Except JavaException (List UInt8) :=
  if offset + n ≤ keyMaterial.length then .ok (segment keyMaterial offset n)
  else .error .indexOutOfBounds

def extractDigestBytes (keyMaterial : List UInt8) (offset : Nat) :
    Except JavaException (List UInt8) :=
  extractBytes keyMaterial offset TOR_DIGEST_SIZE

def extractCipherKey (keyMaterial : List UInt8) (offset : Nat) :
    Except JavaException (List UInt8) :=
  extractBytes keyMaterial offset TorStreamCipher.KEY_LEN

def createFromKeyMaterial (keyMaterial verifyDigest : List UInt8) :
    Except JavaException CircuitNodeCryptoState := do
  let checksumDigest ← HexDigest.createFromDigestBytes verifyDigest
  let forwardSeed ← extractDigestBytes keyMaterial 0
  let backwardSeed ← extractDigestBytes keyMaterial TOR_DIGEST_SIZE
  let forwardKey ← extractCipherKey keyMaterial (TOR_DIGEST_SIZE * 2)
  let forwardCipher ← TorStreamCipher.createFromKeyBytes forwardKey
  let backwardKey ← extractCipherKey keyMaterial (TOR_DIGEST_SIZE * 2 + TorStreamCipher.KEY_LEN)
  let backwardCipher ← TorStreamCipher.createFromKeyBytes backwardKey
  return { checksumDigest := checksumDigest
           forwardDigest := ({ } : TorMessageDigest).update forwardSeed
           backwardDigest := ({ } : TorMessageDigest).update backwardSeed
           forwardCipher := forwardCipher
           backwardCipher := backwardCipher }

variable (P : Platform)

def encryptForwardCell (s : CircuitNodeCryptoState) (c : CellBytes) :
    CellBytes × CircuitNodeCryptoState :=
  ((s.forwardCipher.encryptPayload P c).1,
    { s with forwardCipher := (s.forwardCipher.encryptPayload P c).2 })

def updateForwardDigest (s : CircuitNodeCryptoState) (c : CellBytes) : CircuitNodeCryptoState :=
  { s with forwardDigest := s.forwardDigest.update c.payload }

def getForwardDigestBytes (s : CircuitNodeCryptoState) : List UInt8 :=
  s.forwardDigest.getDigestBytes P

end CircuitNodeCryptoState

/-- The digest field of a cell. -/
def CellBytes.relayDigest (c : CellBytes) : List UInt8 := c.getBytesAt RelayCell.DIGEST_OFFSET 4

/-- The cell with its digest field zeroed, as digests are computed. -/
def CellBytes.zeroDigest (c : CellBytes) : CellBytes :=
  c.putBytesAt RelayCell.DIGEST_OFFSET [0, 0, 0, 0]

namespace CircuitNodeCryptoState

variable (P : Platform)

/-- `isRecognizedCell`: the answer, the state, and the cell with its digest put back. -/
def isRecognizedCell (s : CircuitNodeCryptoState) (c : CellBytes) :
    Bool × CircuitNodeCryptoState × CellBytes :=
  if c.getShortAt RelayCell.RECOGNIZED_OFFSET ≠ 0 then (false, s, c)
  else
    let digest := c.relayDigest
    let zeroed := c.zeroDigest
    let peek := s.backwardDigest.peekDigest P zeroed.payload
    if digest ≠ peek.take 4 then
      (false, s, zeroed.putBytesAt RelayCell.DIGEST_OFFSET digest)
    else
      (true, { s with backwardDigest := s.backwardDigest.update zeroed.payload },
        zeroed.putBytesAt RelayCell.DIGEST_OFFSET digest)

def decryptBackwardCell (s : CircuitNodeCryptoState) (c : CellBytes) :
    Bool × CircuitNodeCryptoState × CellBytes :=
  let decrypted := s.backwardCipher.encryptPayload P c
  isRecognizedCell P { s with backwardCipher := decrypted.2 } decrypted.1

end CircuitNodeCryptoState

/-! ## Recognising a cell -/

namespace CircuitNodeCryptoState

variable (P : Platform)

/-- The test, as a property of the digest and the cell. -/
def Recognizes (digest : TorMessageDigest) (c : CellBytes) : Prop :=
  c.getShortAt RelayCell.RECOGNIZED_OFFSET = 0 ∧
    c.relayDigest = (digest.peekDigest P c.zeroDigest.payload).take 4

instance (digest : TorMessageDigest) (c : CellBytes) : Decidable (Recognizes P digest c) :=
  inferInstanceAs (Decidable (_ ∧ _))

theorem restoreDigest (c : CellBytes) :
    c.zeroDigest.putBytesAt RelayCell.DIGEST_OFFSET c.relayDigest = c :=
  CellBytes.putBytesAt_getBytesAt (by decide) rfl

/-- Whatever the answer, the cell is left as it was, and only a recognised one is added to the
digest. -/
theorem isRecognizedCell_eq (s : CircuitNodeCryptoState) (c : CellBytes) :
    s.isRecognizedCell P c =
      if Recognizes P s.backwardDigest c then
        (true, { s with backwardDigest := s.backwardDigest.update c.zeroDigest.payload }, c)
      else (false, s, c) := by
  unfold isRecognizedCell Recognizes
  by_cases hzero : c.getShortAt RelayCell.RECOGNIZED_OFFSET = 0
  · by_cases hdigest : c.relayDigest = (s.backwardDigest.peekDigest P c.zeroDigest.payload).take 4
    · simp only [hzero, hdigest, ne_eq, not_true_eq_false, if_false, and_self, if_true]
      rw [← hdigest, restoreDigest]
    · simp only [hzero, hdigest, ne_eq, not_true_eq_false, if_false, not_false_eq_true, if_true,
        and_false, restoreDigest]
  · simp only [hzero, ne_eq, not_false_eq_true, if_true, false_and, if_false]

theorem decryptBackwardCell_eq (s : CircuitNodeCryptoState) (c : CellBytes) :
    s.decryptBackwardCell P c =
      let decrypted := s.backwardCipher.encryptPayload P c
      if Recognizes P s.backwardDigest decrypted.1 then
        (true, { s with
          backwardCipher := decrypted.2
          backwardDigest := s.backwardDigest.update decrypted.1.zeroDigest.payload },
          decrypted.1)
      else (false, { s with backwardCipher := decrypted.2 }, decrypted.1) := by
  unfold decryptBackwardCell
  rw [isRecognizedCell_eq]

end CircuitNodeCryptoState

/-- The stream cipher on cells, as one layer. -/
def cellCipher (P : Platform) : Layers.Cipher TorStreamCipher CellBytes where
  crypt := TorStreamCipher.encryptPayload P
  advance cipher := cipher.skip P CELL_PAYLOAD_LEN
  crypt_state := TorStreamCipher.encryptPayload_state P
  crypt_crypt := TorStreamCipher.encryptPayload_encryptPayload P

theorem cellCipher_advance (P : Platform) (cipher : TorStreamCipher) :
    (cellCipher P).advance cipher = cipher.skip P CELL_PAYLOAD_LEN := by
  simp only [cellCipher]

/-! ## Nodes -/

/-- `CircuitNodeImpl`. An anonymous node, the far end of a hidden service, has no router. The
previous node of a node is the one in front of it in the circuit: nodes are created with the
node that is final then, and appended. -/
structure CircuitNode where
  router : Option Router
  cryptoState : CircuitNodeCryptoState
  packageWindow : Int
  deliverWindow : Int
  deriving DecidableEq

namespace CircuitNode

def CIRCWINDOW_START : Int := 1000
def CIRCWINDOW_INCREMENT : Int := 100

def createNode (r : Option Router) (keyMaterial verifyDigest : List UInt8) :
    Except JavaException CircuitNode := do
  let cs ← CircuitNodeCryptoState.createFromKeyMaterial keyMaterial verifyDigest
  return ⟨r, cs, CIRCWINDOW_START, CIRCWINDOW_START⟩

def decrementDeliverWindow (node : CircuitNode) : CircuitNode :=
  { node with deliverWindow := javaInt (node.deliverWindow - 1) }

/-- `considerSendingSendme`: whether to send one, and the window credited with it. -/
def considerSendingSendme (node : CircuitNode) : Bool × CircuitNode :=
  if node.deliverWindow ≤ CIRCWINDOW_START - CIRCWINDOW_INCREMENT then
    (true, { node with deliverWindow := javaInt (node.deliverWindow + CIRCWINDOW_INCREMENT) })
  else (false, node)

def incrementSendWindow (node : CircuitNode) : CircuitNode :=
  { node with packageWindow := javaInt (node.packageWindow + CIRCWINDOW_INCREMENT) }

/-- What ends the wait for a window: an interrupt, or the other thread, which has incremented
the window so many times more than once. It can also be that nothing does. -/
inductive Wakeup where
  | interrupted
  | incremented (times : Nat)
  | never
  deriving DecidableEq

/-- The loop on a window: the window that is found, or why none is. -/
def awaitWindow (window increment : Int) (message : JString) (wakeup : Wakeup) :
    Except JavaException Int :=
  if window = 0 then
    match wakeup with
    | .interrupted => .error (.tor message)
    | .incremented times =>
      let found := javaInt ((times + 1 : Nat) * increment)
      if found = 0 then .error .blocked else .ok found
    | .never => .error .blocked
  else .ok window

/-- `waitForSendWindow`, with or without taking one off the window. -/
def waitForSendWindow (node : CircuitNode) (decrement : Bool) (wakeup : Wakeup) :
    Except JavaException CircuitNode := do
  let window ← awaitWindow node.packageWindow CIRCWINDOW_INCREMENT
    (lit "Thread interrupted while waiting for circuit send window") wakeup
  return { node with packageWindow := if decrement then javaInt (window - 1) else window }

def waitForSendWindowAndDecrement (node : CircuitNode) (wakeup : Wakeup) :
    Except JavaException CircuitNode :=
  node.waitForSendWindow true wakeup

/-- Without a wakeup the call waits exactly for a window that is used up. -/
theorem waitForSendWindow_never (node : CircuitNode) (decrement : Bool) :
    node.waitForSendWindow decrement .never =
      if node.packageWindow = 0 then .error .blocked
      else .ok { node with packageWindow :=
        if decrement then javaInt (node.packageWindow - 1) else node.packageWindow } := by
  unfold waitForSendWindow awaitWindow
  by_cases hwindow : node.packageWindow = 0
  · rw [if_pos hwindow, if_pos hwindow]
    rfl
  · rw [if_neg hwindow, if_neg hwindow]
    rfl

variable (P : Platform)

def encryptForwardCell (node : CircuitNode) (c : CellBytes) : CellBytes × CircuitNode :=
  ((node.cryptoState.encryptForwardCell P c).1,
    { node with cryptoState := (node.cryptoState.encryptForwardCell P c).2 })

def updateForwardDigest (node : CircuitNode) (c : CellBytes) : CircuitNode :=
  { node with cryptoState := node.cryptoState.updateForwardDigest c }

def getForwardDigestBytes (node : CircuitNode) : List UInt8 :=
  node.cryptoState.getForwardDigestBytes P

def decryptBackwardCell (node : CircuitNode) (c : CellBytes) : Bool × CircuitNode × CellBytes :=
  ((node.cryptoState.decryptBackwardCell P c).1,
    { node with cryptoState := (node.cryptoState.decryptBackwardCell P c).2.1 },
    (node.cryptoState.decryptBackwardCell P c).2.2)

end CircuitNode

end Orchid
