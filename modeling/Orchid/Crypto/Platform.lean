import Orchid.Data.Codec

/-!
# Orchid — digests, keys and signatures

What the client takes from the Java platform is one parameter, `Platform`: SHA-1, SHA-256,
the AES block function, RSA with PKCS#1 padding, and the date format of the directory
documents. Everything the repository builds on top of it is defined here: the running
digest `TorMessageDigest`, `TorPublicKey` with its fingerprint and signature check, and
`TorSignature` with its armor.

A `TorMessageDigest` is the text it has been fed. Java clones the hash object before it
finishes it, so reading the value never disturbs the running digest.
-/

namespace Orchid

/-- A public key as a document carries it: the PEM text. It is decoded only when used. -/
structure TorPublicKey where
  pemBuffer : JString
  deriving DecidableEq

/-- The parts of the Java platform the code relies on. `pkcs1Encoded` decodes the PEM text
and re-encodes the key; it and `rsaDecrypt` fail with whatever exception the code raises,
which for `rsaDecrypt` is never the one a document parser catches. -/
structure Platform where
  sha1 : List UInt8 → List UInt8
  sha1_length : ∀ data, (sha1 data).length = TOR_DIGEST_SIZE
  sha256 : List UInt8 → List UInt8
  sha256_length : ∀ data, (sha256 data).length = TOR_DIGEST256_SIZE
  aesBlock : List UInt8 → List UInt8 → List UInt8
  pkcs1Encoded : TorPublicKey → Except JavaException (List UInt8)
  rsaDecrypt : TorPublicKey → List UInt8 → Except JavaException (List UInt8)
  rsaDecrypt_raises : ∀ key data message, rsaDecrypt key data ≠ .error (.torParsing message)
  dateFormat : JString → Option Int

/-- A platform to run the model on: checksums for hashes, and signatures that carry their
digest in the clear. Concrete documents can be evaluated under it. -/
def Platform.checksum : Platform where
  sha1 data := List.replicate TOR_DIGEST_SIZE (data.foldl (· + ·) 0)
  sha1_length _ := List.length_replicate ..
  sha256 data := List.replicate TOR_DIGEST256_SIZE (data.foldl (· + ·) 0)
  sha256_length _ := List.length_replicate ..
  aesBlock key block := List.zipWith (· + ·) key block
  pkcs1Encoded key := .ok (latin1 key.pemBuffer)
  rsaDecrypt _ data := .ok data
  rsaDecrypt_raises _ _ _ := nofun
  dateFormat _ := some 0

/-! ## Running digests -/

/-- A running SHA-1 or SHA-256 computation, as the data fed to it so far. -/
structure TorMessageDigest where
  isDigest256 : Bool := false
  data : List UInt8 := []
  deriving DecidableEq

namespace TorMessageDigest

def update (d : TorMessageDigest) (input : List UInt8) : TorMessageDigest :=
  { d with data := d.data ++ input }

@[simp] theorem update_data (d : TorMessageDigest) (input : List UInt8) :
    (d.update input).data = d.data ++ input := rfl

variable (P : Platform)

def getDigestBytes (d : TorMessageDigest) : List UInt8 :=
  if d.isDigest256 then P.sha256 d.data else P.sha1 d.data

/-- The value the digest would have after `input`, without adding it. -/
def peekDigest (d : TorMessageDigest) (input : List UInt8) : List UInt8 :=
  getDigestBytes P (d.update input)

theorem getDigestBytes_length (d : TorMessageDigest) :
    (getDigestBytes P d).length = TOR_DIGEST_SIZE ∨
      (getDigestBytes P d).length = TOR_DIGEST256_SIZE := by
  unfold getDigestBytes
  split
  · exact Or.inr (P.sha256_length _)
  · exact Or.inl (P.sha1_length _)

def getHexDigest (d : TorMessageDigest) : HexDigest :=
  ⟨getDigestBytes P d, getDigestBytes_length P d⟩

end TorMessageDigest

/-- `HexDigest.createDigestForData`. -/
def HexDigest.createDigestForData (P : Platform) (data : List UInt8) : HexDigest :=
  (({ } : TorMessageDigest).update data).getHexDigest P

/-! ## Signatures -/

inductive DigestAlgorithm where
  | DIGEST_SHA1
  | DIGEST_SHA256
  deriving DecidableEq, Repr

structure TorSignature where
  signatureBytes : List UInt8
  digestAlgorithm : DigestAlgorithm
  deriving DecidableEq

namespace TorSignature

def SIGNATURE_BEGIN : JString := lit "-----BEGIN SIGNATURE-----"
def ID_SIGNATURE_BEGIN : JString := lit "-----BEGIN ID SIGNATURE-----"
def SIGNATURE_END : JString := lit "-----END SIGNATURE-----"
def ID_SIGNATURE_END : JString := lit "-----END ID SIGNATURE-----"

/-- The body between the armor lines, joined without line breaks. -/
def parseBase64Data : List JString → JString → Except JavaException JString
  | [], _ => .error (.torParsing (lit "Did not find expected signature END header"))
  | line :: lines, base64Data =>
    if line = SIGNATURE_END ∨ line = ID_SIGNATURE_END then .ok base64Data
    else parseBase64Data lines (base64Data ++ line)

/-- The lines a `BufferedReader` delivers: a final line break opens no further line. -/
def bufferedLines (buffer : JString) : List JString :=
  if buffer.getLast? = some '\n' then (buffer.splitOn '\n').dropLast else buffer.splitOn '\n'

/-- `createFromPEMBuffer`. The algorithm is always SHA-1, whatever the signed line says. -/
def createFromPEMBuffer (buffer : JString) : Except JavaException TorSignature :=
  match bufferedLines buffer with
  | [] => .error (.torParsing (lit "Did not find expected signature END header"))
  | header :: lines =>
    if header = SIGNATURE_BEGIN ∨ header = ID_SIGNATURE_BEGIN then do
      let base64Data ← parseBase64Data lines []
      let signatureBytes ← Base64.decode base64Data
      return ⟨signatureBytes, .DIGEST_SHA1⟩
    else .error (.torParsing (lit "Did not find expected signature BEGIN header"))

end TorSignature

/-! ## Public keys -/

/-- `Utils.constantTimeArrayEquals`. -/
def constantTimeArrayEquals (a₁ a₂ : List UInt8) : Bool :=
  if a₁.length ≠ a₂.length then false
  else (List.zipWith (fun x y => (x ^^^ y).toNat) a₁ a₂).sum == 0

namespace TorPublicKey

variable (P : Platform)

def getFingerprint (key : TorPublicKey) : Except JavaException HexDigest := do
  return HexDigest.createDigestForData P (← P.pkcs1Encoded key)

/-- `verifySignatureFromDigestBytes`: the decrypted block must be the digest itself. -/
def verifySignature (key : TorPublicKey) (signature : TorSignature) (digestBytes : List UInt8) :
    Except JavaException Bool := do
  let decrypted ← P.rsaDecrypt key signature.signatureBytes
  return constantTimeArrayEquals decrypted digestBytes

end TorPublicKey

end Orchid
