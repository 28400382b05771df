import Orchid.Crypto.TorStreamCipher

/-!
# Orchid — hybrid encryption

`HybridEncryption` puts a short message into one RSA block. Of a longer one the block holds a
random key and the first bytes, and the rest is encrypted under that key. The two directions tell
the formats apart by different lengths: `encrypt` by that of the message, `decrypt` by that of the
ciphertext.

* `OaepKeyPair`: RSA with OAEP padding under a 1024-bit key.
* **`decrypt_encrypt`**: every message comes back, and how long its ciphertext is.
-/

namespace Orchid

open TorStreamCipher

namespace HybridEncryption

def PK_ENC_LEN : Nat := 128
def PK_PAD_LEN : Nat := 42
def PK_DATA_LEN : Nat := PK_ENC_LEN - PK_PAD_LEN
def PK_DATA_LEN_WITH_KEY : Nat := PK_DATA_LEN - KEY_LEN

/-- `Cipher.doFinal` of the platform under the two keys of a pair, with what it raises. The padding
draws a seed. Up to 86 bytes are taken to 128, and decryption inverts that. -/
structure OaepKeyPair where
  Seed : Type
  encryptBlock : Seed → List UInt8 → Except JString (List UInt8)
  decryptBlock : List UInt8 → Except JString (List UInt8)
  inverts : ∀ seed data, data.length ≤ PK_DATA_LEN → ∃ block,
    encryptBlock seed data = .ok block ∧ block.length = PK_ENC_LEN ∧ decryptBlock block = .ok data

/-- A pair to run the model on: the padding is the length of the data and zeroes behind them. -/
def OaepKeyPair.padded : OaepKeyPair where
  Seed := Unit
  encryptBlock _ data :=
    if data.length ≤ PK_DATA_LEN then
      .ok (UInt8.ofNat data.length :: data ++ List.replicate (PK_ENC_LEN - 1 - data.length) 0)
    else .error (lit "IllegalBlockSizeException")
  decryptBlock block := .ok (block.tail.take (block.headD 0).toNat)
  inverts _ data h := by
    have hlength : (UInt8.ofNat data.length).toNat = data.length := by
      rw [UInt8.toNat_ofNat']
      exact Nat.mod_eq_of_lt (Nat.lt_of_le_of_lt h (by decide))
    have hle : data.length ≤ 86 := h
    refine ⟨_, if_pos h, ?_, ?_⟩
    · simp only [List.cons_append, List.length_cons, List.length_append, List.length_replicate,
        PK_ENC_LEN]
      omega
    · show Except.ok ((data ++ _).take (UInt8.ofNat data.length).toNat) = _
      rw [hlength, List.take_left]

/-- What the platform's `KeyGenerator` draws. -/
abbrev RandomKey : Type := { key : List UInt8 // key.length = KEY_LEN }

variable (P : Platform) (keys : OaepKeyPair)

def encryptSimple (seed : keys.Seed) (data : List UInt8) : Except JavaException (List UInt8) :=
  (keys.encryptBlock seed data).mapError .tor

def encrypt (seed : keys.Seed) (randomKey : RandomKey) (data : List UInt8) :
    Except JavaException (List UInt8) :=
  if data.length < PK_DATA_LEN then encryptSimple keys seed data
  else do
    let randomKeyCipher ← createFromKeyBytes randomKey.val
    let kAndM1 := randomKeyCipher.keyBytes ++ data.take PK_DATA_LEN_WITH_KEY
    let c1 ← encryptSimple keys seed kAndM1
    let c2 := (randomKeyCipher.encrypt P (data.drop PK_DATA_LEN_WITH_KEY)).1
    return c1 ++ c2

def decryptSimple (data : List UInt8) : Except JavaException (List UInt8) :=
  (keys.decryptBlock data).mapError .tor

def decrypt (data : List UInt8) : Except JavaException (List UInt8) :=
  if data.length < PK_ENC_LEN then .error (.tor (lit "Message is too short"))
  else if data.length = PK_ENC_LEN then decryptSimple keys data
  else do
    let kAndM1 ← decryptSimple keys (data.take PK_ENC_LEN)
    -- the array for what stands behind the key
    if kAndM1.length < KEY_LEN then throw .negativeArraySize
    let streamCipher ← createFromKeyBytes (kAndM1.take KEY_LEN)
    let m2 := (streamCipher.encrypt P (data.drop PK_ENC_LEN)).1
    return kAndM1.drop KEY_LEN ++ m2

variable {P keys}

/-- A key of the length that is drawn is taken. -/
theorem createFromKeyBytes_random (randomKey : RandomKey) :
    ∃ cipher, createFromKeyBytes randomKey.val = .ok cipher ∧ cipher.keyBytes = randomKey.val := by
  obtain ⟨key, hkey⟩ := randomKey
  have hne : key ≠ [] := by
    rintro rfl
    cases hkey
  have hvalid : isValidKey key = true := by
    unfold isValidKey
    rw [hkey]
    decide
  unfold createFromKeyBytes
  rw [if_neg hne, if_pos hvalid]
  exact ⟨_, rfl, rfl⟩

/-- What `decrypt` does with a block and bytes behind it. -/
theorem decrypt_append {block rest kAndM1 : List UInt8} {randomKey : RandomKey}
    {cipher : TorStreamCipher} (hblock : block.length = PK_ENC_LEN) (hrest : rest ≠ [])
    (hdecrypt : keys.decryptBlock block = .ok (randomKey.val ++ kAndM1))
    (hcipher : createFromKeyBytes randomKey.val = .ok cipher) :
    decrypt P keys (block ++ rest) = .ok (kAndM1 ++ (cipher.encrypt P rest).1) := by
  have hpositive := List.length_pos_of_ne_nil hrest
  have hsimple : decryptSimple keys block = .ok (randomKey.val ++ kAndM1) := by
    unfold decryptSimple
    rw [hdecrypt]
    rfl
  have hlong : ¬ (randomKey.val ++ kAndM1).length < KEY_LEN := by
    rw [List.length_append, randomKey.property]
    omega
  unfold decrypt
  rw [List.length_append, hblock, if_neg (by omega), if_neg (by omega), List.take_left' hblock,
    List.drop_left' hblock, hsimple]
  show (if _ then _ else _ : Except JavaException (List UInt8)) = _
  rw [if_neg hlong, List.take_left' randomKey.property, List.drop_left' randomKey.property, hcipher]
  rfl

/-- **The round trip.** -/
theorem decrypt_encrypt (P : Platform) (keys : OaepKeyPair) (seed : keys.Seed)
    (randomKey : RandomKey) (data : List UInt8) :
    ∃ output, encrypt P keys seed randomKey data = .ok output ∧
      decrypt P keys output = .ok data ∧
      output.length = if data.length < 86 then 128 else data.length + 58 := by
  unfold encrypt
  by_cases hshort : data.length < PK_DATA_LEN
  · obtain ⟨block, hencrypt, hlength, hdecrypt⟩ := keys.inverts seed data (Nat.le_of_lt hshort)
    refine ⟨block, ?_, ?_, ?_⟩
    · rw [if_pos hshort, encryptSimple, hencrypt]
      rfl
    · unfold decrypt decryptSimple
      rw [hlength, hdecrypt]
      rfl
    · rw [if_pos (show data.length < 86 from hshort), hlength]
      rfl
  · have hlong : 86 ≤ data.length := Nat.le_of_not_lt hshort
    obtain ⟨cipher, hcipher, hkey⟩ := createFromKeyBytes_random randomKey
    -- the key and the first 70 bytes fill the block
    have hfull : (randomKey.val ++ data.take PK_DATA_LEN_WITH_KEY).length ≤ PK_DATA_LEN := by
      rw [List.length_append, randomKey.property, List.length_take]
      exact Nat.add_le_add_left (Nat.min_le_left _ _) _
    obtain ⟨block, hencrypt, hlength, hdecrypt⟩ := keys.inverts seed _ hfull
    let rest := data.drop PK_DATA_LEN_WITH_KEY
    have hrest : rest.length = data.length - 70 := List.length_drop ..
    have hmixed : (cipher.encrypt P rest).1.length = rest.length :=
      encryptRange_length P cipher (Nat.le_of_eq (Nat.zero_add _))
    have hne : (cipher.encrypt P rest).1 ≠ [] := by
      apply List.ne_nil_of_length_pos
      omega
    refine ⟨block ++ (cipher.encrypt P rest).1, ?_, ?_, ?_⟩
    · rw [if_neg hshort, hcipher]
      show (encryptSimple keys seed (cipher.keyBytes ++ _) >>= _) = _
      rw [hkey, encryptSimple, hencrypt]
      rfl
    · -- the cipher `decrypt` makes of the key undoes the one that encrypted
      have hundone : (cipher.encrypt P (cipher.encrypt P rest).1).1 = rest := by
        have h : (cipher.encryptRange P (cipher.encrypt P rest).1 0 rest.length).1 = rest :=
          encryptRange_encryptRange P cipher (Nat.le_of_eq (Nat.zero_add _))
        rw [← hmixed] at h
        exact h
      rw [decrypt_append hlength hne hdecrypt hcipher, hundone, List.take_append_drop]
    · rw [List.length_append, hlength, hmixed, hrest, if_neg (Nat.not_lt.mpr hlong)]
      show 128 + (data.length - 70) = _
      omega

end HybridEncryption

end Orchid
