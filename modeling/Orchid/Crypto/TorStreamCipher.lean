import Orchid.Crypto.Platform
import Orchid.Lib.Keystream

/-!
# Orchid — the stream cipher

`TorStreamCipher` is AES in counter mode, written out by hand: a counter block, its
encryption `counterOut`, and a pointer to the next byte of that block.

* **`encryptRange_encryptRange`**: a cipher in the same state undoes an encryption.
* **`encryptRange_state`**: the state it leaves depends on the number of bytes only.
-/

namespace Orchid

/-- `TorStreamCipher`. The pointer is `-1` before the first block. -/
structure TorStreamCipher where
  keyBytes : List UInt8
  counter : List UInt8
  counterOut : List UInt8
  keystreamPointer : Int
  deriving DecidableEq

namespace TorStreamCipher

def KEY_LEN : Nat := 16

def BLOCK_SIZE : Nat := 16

/-- The Java platform takes AES keys of three lengths. -/
def isValidKey (keyBytes : List UInt8) : Bool :=
  keyBytes.length = 16 || keyBytes.length = 24 || keyBytes.length = 32

def createFromKeyBytes (keyBytes : List UInt8) : Except JavaException TorStreamCipher :=
  if keyBytes = [] then .error (.illegalArgument (lit "Empty key"))
  else if isValidKey keyBytes then
    .ok ⟨keyBytes, List.replicate BLOCK_SIZE 0, List.replicate BLOCK_SIZE 0, -1⟩
  else .error (.tor (lit "InvalidKeyException"))

def createFromKeyBytesWithIV (keyBytes iv : List UInt8) : Except JavaException TorStreamCipher := do
  let cipher ← createFromKeyBytes keyBytes
  if iv.length ≠ BLOCK_SIZE then throw (.illegalArgument [])
  return { cipher with counter := iv }

/-- `incrementCounter`: the carry runs from the last byte to the first. -/
def incrementCounter (counter : List UInt8) : List UInt8 :=
  (counter.foldr (fun b (acc : List UInt8 × Nat) =>
    let x := b.toNat + acc.2
    (UInt8.ofNat x :: acc.1, if x > 0xff then 1 else 0)) ([], 1)).1

example : incrementCounter [0, 1, 255] = [0, 2, 0] ∧ incrementCounter [255, 255] = [0, 0] := by
  decide

variable (P : Platform)

def updateCounter (c : TorStreamCipher) : TorStreamCipher :=
  { c with
    counterOut := P.aesBlock c.keyBytes c.counter
    counter := incrementCounter c.counter
    keystreamPointer := 0 }

def nextKeystreamByte (c : TorStreamCipher) : UInt8 × TorStreamCipher :=
  let c :=
    if c.keystreamPointer = -1 ∨ c.keystreamPointer ≥ BLOCK_SIZE then c.updateCounter P else c
  (c.counterOut.getD c.keystreamPointer.toNat 0,
    { c with keystreamPointer := c.keystreamPointer + 1 })

/-- `encrypt(data, offset, length)` for a range inside the array. -/
def encryptRange (c : TorStreamCipher) (data : List UInt8) (offset length : Nat) :
    List UInt8 × TorStreamCipher :=
  let mixed := Keystream.mixWith (nextKeystreamByte P) (· ^^^ ·) c ((data.drop offset).take length)
  (data.take offset ++ mixed.1 ++ data.drop (offset + length), mixed.2)

def encrypt (c : TorStreamCipher) (data : List UInt8) : List UInt8 × TorStreamCipher :=
  c.encryptRange P data 0 data.length

/-- The state after `length` bytes. -/
def skip (c : TorStreamCipher) (length : Nat) : TorStreamCipher :=
  Keystream.advance (nextKeystreamByte P) length c

theorem xor_cancel (k b : UInt8) : k ^^^ (k ^^^ b) = b := by
  rw [← UInt8.xor_assoc, UInt8.xor_self, UInt8.zero_xor]

variable {data : List UInt8} {offset length : Nat} (c : TorStreamCipher)

theorem encryptRange_length (h : offset + length ≤ data.length) :
    (c.encryptRange P data offset length).1.length = data.length := by
  simp only [encryptRange, List.length_append, Keystream.mixWith_length, List.length_take,
    List.length_drop]
  omega

theorem encryptRange_state (h : offset + length ≤ data.length) :
    (c.encryptRange P data offset length).2 = c.skip P length := by
  have hlen : ((data.drop offset).take length).length = length := by
    rw [List.length_take, List.length_drop]
    omega
  unfold encryptRange skip
  rw [Keystream.mixWith_state, hlen]

/-- The three parts of the array after an encryption. -/
theorem encryptRange_parts (h : offset + length ≤ data.length) :
    let out := (c.encryptRange P data offset length).1
    out.take offset = data.take offset ∧
      (out.drop offset).take length = (Keystream.mixWith (nextKeystreamByte P) (· ^^^ ·) c
        ((data.drop offset).take length)).1 ∧
      out.drop (offset + length) = data.drop (offset + length) := by
  let mixed := (Keystream.mixWith (nextKeystreamByte P) (· ^^^ ·) c
    ((data.drop offset).take length)).1
  have hhead : (data.take offset).length = offset := List.length_take_of_le (by omega)
  have hmixed : mixed.length = length := by
    rw [Keystream.mixWith_length, List.length_take, List.length_drop]
    omega
  intro out
  have hout : out = data.take offset ++ (mixed ++ data.drop (offset + length)) :=
    List.append_assoc ..
  refine ⟨?_, ?_, List.drop_left' (by rw [List.length_append, hhead, hmixed])⟩
  · rw [hout, List.take_left' hhead]
  · rw [hout, List.drop_left' hhead, List.take_left' hmixed]

/-- A cipher in the same state undoes an encryption. -/
theorem encryptRange_encryptRange (h : offset + length ≤ data.length) :
    (c.encryptRange P (c.encryptRange P data offset length).1 offset length).1 = data := by
  obtain ⟨htake, hrange, hdrop⟩ := encryptRange_parts P c h
  show _ ++ (Keystream.mixWith (nextKeystreamByte P) (· ^^^ ·) c _).1 ++ _ = _
  rw [htake, hrange, hdrop, Keystream.mixWith_mixWith (nextKeystreamByte P) xor_cancel,
    ← List.drop_drop, List.append_assoc, List.take_append_drop, List.take_append_drop]

end TorStreamCipher

end Orchid
