import Orchid.Data.Java

/-!
# Orchid — hex, base64, base32, digests and addresses

The text encodings of `encoders/` and `data/`. Each decoder follows the index walk of the
source, so that malformed text fails (or succeeds) exactly where the Java code does:
`Hex.decode` and `Base64.decode` turn every inner exception into a `DecoderException`, while
`Base32` and `HexDigest` raise a plain `TorException`.
-/

namespace Orchid

/-! ## Hex -/

namespace Hex

/-- The characters `HexEncoder` and `Base64Encoder` skip. -/
def ignore (c : Char) : Bool := c == '\n' || c == '\r' || c == '\t' || c == ' '

/-- `decodingTable`; `none` covers both `0xff` entries and indices past the table. -/
def decodingTable (c : Char) : Option Nat :=
  if '0' ≤ c ∧ c ≤ '9' then some (c.toNat - '0'.toNat)
  else if 'a' ≤ c ∧ c ≤ 'f' then some (c.toNat - 'a'.toNat + 10)
  else if 'A' ≤ c ∧ c ≤ 'F' then some (c.toNat - 'A'.toNat + 10)
  else none

/-- Pairs of digits, with ignored characters skipped before each digit. A digit missing at
the end is the `charAt` failure of the source. -/
def decodePairs : JString → Option (List UInt8)
  | [] => some []
  | [_] => none
  | c₁ :: c₂ :: cs => do
    let b₁ ← decodingTable c₁
    let b₂ ← decodingTable c₂
    let rest ← decodePairs cs
    some (UInt8.ofNat (16 * b₁ + b₂) :: rest)

/-- `Hex.decode(String)`. -/
def decode (data : JString) : Except JavaException (List UInt8) :=
  match decodePairs (data.filter (!ignore ·)) with
  | some bytes => .ok bytes
  | none => .error (.decoder (lit "exception decoding Hex string: "))

end Hex

/-! ## Base64 -/

namespace Base64

def decodingTable (c : Char) : Option Nat :=
  if 'A' ≤ c ∧ c ≤ 'Z' then some (c.toNat - 'A'.toNat)
  else if 'a' ≤ c ∧ c ≤ 'z' then some (c.toNat - 'a'.toNat + 26)
  else if '0' ≤ c ∧ c ≤ '9' then some (c.toNat - '0'.toNat + 52)
  else if c = '+' then some 62
  else if c = '/' then some 63
  else none

def padding : Char := '='

/-- `nextI`: skip ignored characters, but not past `finish`. -/
def nextI (data : JString) (finish : Nat) : Nat → Nat → Nat
  | 0, i => i
  | fuel + 1, i =>
    if i < finish ∧ (data[i]?.map Hex.ignore).getD false then nextI data finish fuel (i + 1)
    else i

/-- One character at `i`, and the index of the next one that counts. -/
def takeChar (data : JString) (finish i : Nat) : Option (Nat × Nat) := do
  let b ← data[i]? >>= decodingTable
  some (b, nextI data finish data.length (i + 1))

/-- The loop over the blocks before the last one. -/
def decodeBlocks (data : JString) (finish : Nat) : Nat → Nat → Option (List UInt8)
  | 0, _ => none
  | fuel + 1, i =>
    if i < finish then do
      let (b₁, i) ← takeChar data finish i
      let (b₂, i) ← takeChar data finish i
      let (b₃, i) ← takeChar data finish i
      let (b₄, i) ← takeChar data finish i
      let rest ← decodeBlocks data finish fuel i
      some (UInt8.ofNat (4 * b₁ + b₂ / 16) :: UInt8.ofNat (16 * b₂ + b₃ / 4)
        :: UInt8.ofNat (64 * b₃ + b₄) :: rest)
    else some []

def decodeLastBlock (c₁ c₂ c₃ c₄ : Char) : Option (List UInt8) :=
  if c₃ = padding then do
    let b₁ ← decodingTable c₁
    let b₂ ← decodingTable c₂
    some [UInt8.ofNat (4 * b₁ + b₂ / 16)]
  else if c₄ = padding then do
    let b₁ ← decodingTable c₁
    let b₂ ← decodingTable c₂
    let b₃ ← decodingTable c₃
    some [UInt8.ofNat (4 * b₁ + b₂ / 16), UInt8.ofNat (16 * b₂ + b₃ / 4)]
  else do
    let b₁ ← decodingTable c₁
    let b₂ ← decodingTable c₂
    let b₃ ← decodingTable c₃
    let b₄ ← decodingTable c₄
    some [UInt8.ofNat (4 * b₁ + b₂ / 16), UInt8.ofNat (16 * b₂ + b₃ / 4),
      UInt8.ofNat (64 * b₃ + b₄)]

/-- The walk of `Base64Encoder.decode`: trailing ignored characters are cut, the last four
characters are one block by themselves. -/
def decodeChars (data : JString) : Option (List UInt8) :=
  let trimmed := (data.reverse.dropWhile Hex.ignore).reverse
  let finish := trimmed.length - 4
  match trimmed.drop finish with
  | [c₁, c₂, c₃, c₄] => do
    let blocks ← decodeBlocks trimmed finish (trimmed.length + 1)
      (nextI trimmed finish trimmed.length 0)
    let last ← decodeLastBlock c₁ c₂ c₃ c₄
    some (blocks ++ last)
  | _ => none

/-- `Base64.decode(String)`. -/
def decode (data : JString) : Except JavaException (List UInt8) :=
  match decodeChars data with
  | some bytes => .ok bytes
  | none => .error (.decoder (lit "unable to decode base64 string: "))

/-- `Base64.decode(byte[])`, the same walk over the Latin-1 bytes of the text. -/
def decodeData (data : JString) : Except JavaException (List UInt8) :=
  match decodeChars data with
  | some bytes => .ok bytes
  | none => .error (.decoder (lit "unable to decode base64 data: "))

example : decode (lit "Zm9v\nYmE=\n") = .ok (latin1 (lit "fooba")) := by decide

end Base64

/-! ## Base32 -/

namespace Base32

def base32Chars : JString := lit "abcdefghijklmnopqrstuvwxyz234567"

/-- `base32Encode`: five bits at a time, from a window of two bytes. -/
def base32Encode (source : List UInt8) : Except JavaException JString :=
  let nbits := source.length * 8
  if nbits % 5 ≠ 0 then .error (.tor (lit "Base32 input length must be a multiple of 5 bits"))
  else
    .ok <| (List.range (nbits / 5)).map fun i =>
      let bit := 5 * i
      let high := (source.getD (bit / 8) 0).toNat * 256
      let v := if bit + 5 < nbits then high + (source.getD (bit / 8 + 1) 0).toNat else high
      base32Chars.getD (v / 2 ^ (11 - bit % 8) % 32) ' '

/-- One entry of `stringToIntVector`. -/
def charValue (c : Char) : Except JavaException Nat :=
  let b := c.toNat % 256
  if 0x60 < b ∧ b < 0x7B then .ok (b - 0x61)
  else if 0x31 < b ∧ b < 0x38 then .ok (b - 0x18)
  else if 0x40 < b ∧ b < 0x5B then .ok (b - 0x41)
  else .error (.tor (lit "Illegal character in base32 encoded string: " ++ [c]))

def ls (n shift : Nat) : Nat := n * 2 ^ shift % 256

def rs (n shift : Nat) : Nat := n / 2 ^ shift % 256

def decodeByte (bitOffset b₀ b₁ b₂ : Nat) : Nat :=
  match bitOffset % 40 with
  | 0 => ls b₀ 3 + rs b₁ 2
  | 8 => ls b₀ 6 + ls b₁ 1 + rs b₂ 4
  | 16 => ls b₀ 4 + rs b₁ 1
  | 24 => ls b₀ 7 + ls b₁ 2 + rs b₂ 3
  | _ => ls b₀ 5 + b₁ % 256

/-- `base32Decode`. The vector has one spare zero entry behind the last character. -/
def base32Decode (source : JString) : Except JavaException (List UInt8) := do
  let v ← source.mapM charValue
  let nbits := source.length * 5
  if nbits % 8 ≠ 0 then
    throw (.tor (lit "Base32 decoded array must be a muliple of 8 bits"))
  return (List.range (nbits / 8)).map fun i =>
    let bb := 8 * i / 5
    UInt8.ofNat (decodeByte (8 * i) (v.getD bb 0) (v.getD (bb + 1) 0) (v.getD (bb + 2) 0))

example : base32Decode (lit "MFRGG2LK") = .ok (latin1 (lit "abcij")) := by decide

end Base32

/-! ## Digests -/

def TOR_DIGEST_SIZE : Nat := 20

def TOR_DIGEST256_SIZE : Nat := 32

/-- A SHA-1 or SHA-256 value. The constructor of the source refuses any other length. -/
structure HexDigest where
  digestBytes : List UInt8
  valid : digestBytes.length = TOR_DIGEST_SIZE ∨ digestBytes.length = TOR_DIGEST256_SIZE
  deriving DecidableEq

namespace HexDigest

theorem replicate_valid (b : UInt8) : (List.replicate 20 b).length = TOR_DIGEST_SIZE ∨
    (List.replicate 20 b).length = TOR_DIGEST256_SIZE := Or.inl rfl

@[ext] theorem ext {d d' : HexDigest} (h : d.digestBytes = d'.digestBytes) : d = d' := by
  cases d
  cases d'
  congr

def createFromDigestBytes (data : List UInt8) : Except JavaException HexDigest :=
  if h : data.length = TOR_DIGEST_SIZE ∨ data.length = TOR_DIGEST256_SIZE then .ok ⟨data, h⟩
  else
    .error (.tor (lit "Digest data is not the correct length " ++ showInt data.length
      ++ lit " != (20 or 32)"))

/-- `createFromString`: a spaced fingerprint is joined first. -/
def createFromString (fingerprint : JString) : Except JavaException HexDigest := do
  let parts := split ' ' fingerprint
  let digestData ← Hex.decode (if parts.length > 1 then parts.flatten else fingerprint)
  createFromDigestBytes digestData

def createFromBase32String (b32 : JString) : Except JavaException HexDigest := do
  createFromDigestBytes (← Base32.base32Decode b32)

def toBase32 (d : HexDigest) : Except JavaException JString :=
  Base32.base32Encode d.digestBytes

end HexDigest

/-! ## Addresses -/

/-- An IPv4 address: the 32 bits of `addressData`. -/
structure IPv4Address where
  addressData : BitVec 32
  deriving DecidableEq

namespace IPv4Address

def octetStringToInt (octet : JString) : Except JavaException Nat :=
  match parseInt octet with
  | none => .error (.torParsing (lit "Failed to parse octet: " ++ octet))
  | some result =>
    if result < 0 ∨ result > 255 then .error (.torParsing (lit "Octet out of range: " ++ octet))
    else .ok result.toNat

/-- The loop over the octets. A fifth octet runs past the array of shifts. -/
def addOctets : List JString → List Nat → BitVec 32 → Except JavaException (BitVec 32)
  | [], _, addressData => .ok addressData
  | o :: octets, shifts, addressData => do
    let value ← octetStringToInt o
    match shifts with
    | [] => throw .indexOutOfBounds
    | shift :: shifts => addOctets octets shifts (addressData ||| (BitVec.ofNat 32 value <<< shift))

def parseStringToAddressData (ipString : JString) : Except JavaException (BitVec 32) :=
  addOctets (split '.' ipString) [24, 16, 8, 0] 0

def createFromString (addressString : JString) : Except JavaException IPv4Address := do
  return ⟨← parseStringToAddressData addressString⟩

example : createFromString (lit "10.0.0.1") = .ok ⟨0x0A000001#32⟩ := by decide

def stringFormat (addressData : BitVec 32) : JString :=
  let octet (shift : Nat) : JString := showInt ((addressData >>> shift) &&& 0xFF).toNat
  octet 24 ++ lit "." ++ octet 16 ++ lit "." ++ octet 8 ++ lit "." ++ octet 0

end IPv4Address

end Orchid
