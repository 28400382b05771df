import Orchid.Crypto.TorStreamCipher
import Orchid.Lib.BigEndian

/-!
# Orchid — counter mode

`TorStreamCipher` makes its keystream block by block, keeps the present block, and counts in an
array of bytes. None of this shows outside: the byte at a position of the stream depends on the key,
the first counter block and the position.

* `At`: the state after a number of bytes.
* **`nextKeystreamByte_at`**, **`encryptCalls_at`**: what a byte and a run of calls do to it.
* **`counter_mode`**: the keystream is that of counter mode, for every way to spread a text over
  calls.
-/

namespace Orchid

namespace TorStreamCipher

open BigEndian

/-- A call of `encrypt` on a range inside its array. -/
structure EncryptCall where
  data : List UInt8
  offset : Nat
  length : Nat
  inside : offset + length ≤ data.length

namespace EncryptCall

def range (call : EncryptCall) : List UInt8 := (call.data.drop call.offset).take call.length

def outside (call : EncryptCall) : List UInt8 × List UInt8 :=
  (call.data.take call.offset, call.data.drop (call.offset + call.length))

end EncryptCall

def ranges (calls : List EncryptCall) : List UInt8 := calls.flatMap EncryptCall.range

variable (P : Platform)

/-- Successive calls, each with its array as it is afterwards. -/
def encryptCalls (c : TorStreamCipher) : List EncryptCall → List EncryptCall
  | [] => []
  | call :: calls =>
    ⟨(c.encryptRange P call.data call.offset call.length).1, call.offset, call.length, by
      rw [encryptRange_length P c call.inside]
      exact call.inside⟩ ::
    encryptCalls (c.encryptRange P call.data call.offset call.length).2 calls

/-- Byte `i` of the blocks made of `start`, `start + 1` and so on, modulo `2 ^ 128`. -/
def keystreamByte (keyBytes : List UInt8) (start i : Nat) : UInt8 :=
  (P.aesBlock keyBytes (bytes 16 (start + i / 16))).getD (i % 16) 0

/-- The carry is added to the number, and what is behind it stays. -/
theorem foldr_carry {k n carry : Nat} {acc : List UInt8} (hcarry : carry ≤ 1) :
    ((bytes k n).foldr (fun b (acc : List UInt8 × Nat) =>
      let x := b.toNat + acc.2
      (UInt8.ofNat x :: acc.1, if x > 0xff then 1 else 0)) (acc, carry)).1 =
      bytes k (n + carry) ++ acc := by
  induction k generalizing n carry acc with
  | zero => rfl
  | succ k ih =>
    have hdigit : (UInt8.ofNat n).toNat = n % 256 := UInt8.toNat_ofNat
    have hlast : UInt8.ofNat (n % 256 + carry) = UInt8.ofNat (n + carry) :=
      UInt8.toNat.inj (by simp)
    have hrest : n / 256 + (if n % 256 + carry > 255 then 1 else 0) = (n + carry) / 256 := by
      split <;> omega
    rw [bytes, List.foldr_append]
    simp only [List.foldr_cons, List.foldr_nil, hdigit, hlast]
    rw [ih (by split <;> omega), hrest, bytes, List.append_assoc]
    rfl

theorem incrementCounter_bytes (k n : Nat) : incrementCounter (bytes k n) = bytes k (n + 1) :=
  (foldr_carry (Nat.le_refl 1)).trans (List.append_nil _)

/-- The state after `n` bytes: the counter is that of the next block, and within a block the
encryption of the present one is there. -/
structure At (keyBytes : List UInt8) (start n : Nat) (c : TorStreamCipher) : Prop where
  key : c.keyBytes = keyBytes
  counter : c.counter = bytes 16 (start + (n + 15) / 16)
  between : n % 16 = 0 → c.keystreamPointer = -1 ∨ c.keystreamPointer = 16
  within : n % 16 ≠ 0 → c.keystreamPointer = (n % 16 : Nat) ∧
    c.counterOut = P.aesBlock keyBytes (bytes 16 (start + n / 16))

variable {keyBytes : List UInt8}

/-- **One byte.** -/
theorem nextKeystreamByte_at {start : Nat} (n : Nat) (c : TorStreamCipher)
    (h : At P keyBytes start n c) :
    (c.nextKeystreamByte P).1 = keystreamByte P keyBytes start n ∧
      At P keyBytes start (n + 1) (c.nextKeystreamByte P).2 := by
  obtain ⟨rfl, hcounter, hbetween, hwithin⟩ := h
  unfold nextKeystreamByte keystreamByte
  by_cases hblock : n % 16 = 0
  · -- a block has ended, and the next one is made
    have hupdate : c.keystreamPointer = -1 ∨ c.keystreamPointer ≥ BLOCK_SIZE :=
      (hbetween hblock).imp_right fun h => h.ge
    rw [show (n + 15) / 16 = n / 16 by omega] at hcounter
    rw [if_pos hupdate, hblock, ← hcounter]
    refine ⟨rfl, rfl, ?_, by omega, fun _ => ⟨?_, ?_⟩⟩
    · show incrementCounter c.counter = _
      rw [hcounter, incrementCounter_bytes]
      congr 1
      omega
    · show (0 + 1 : Int) = _
      omega
    · rw [show (n + 1) / 16 = n / 16 by omega, ← hcounter]
      rfl
  · obtain ⟨hpointer, hout⟩ := hwithin hblock
    have hkeep : ¬ (c.keystreamPointer = -1 ∨ c.keystreamPointer ≥ (16 : Nat)) := by omega
    rw [if_neg (show ¬ (_ ∨ _ ≥ (BLOCK_SIZE : Int)) from hkeep)]
    refine ⟨?_, rfl, ?_, ?_, fun hwithin => ⟨?_, ?_⟩⟩
    · show c.counterOut.getD c.keystreamPointer.toNat 0 = _
      rw [hpointer, hout]
      rfl
    · rw [hcounter, show (n + 1 + 15) / 16 = (n + 15) / 16 by omega]
    · dsimp only
      omega
    · dsimp only
      omega
    · rw [hout, show (n + 1) / 16 = n / 16 by omega]

variable {c : TorStreamCipher}

theorem at_start {iv : List UInt8}
    (h : createFromKeyBytesWithIV keyBytes iv = .ok c) : At P keyBytes (value iv) 0 c := by
  unfold createFromKeyBytesWithIV createFromKeyBytes at h
  split at h
  · cases h
  split at h
  · by_cases hiv : iv.length = BLOCK_SIZE
    · have hc : c = ⟨keyBytes, iv, List.replicate BLOCK_SIZE 0, -1⟩ := by
        simpa [hiv, bind, Except.bind, pure, Except.pure] using h.symm
      subst hc
      have hbytes := bytes_value iv
      rw [hiv] at hbytes
      exact ⟨rfl, hbytes.symm, fun _ => Or.inl rfl, absurd rfl⟩
    · simp [hiv, bind, Except.bind, throw, throwThe, MonadExceptOf.throw] at h
  · cases h

variable {P}

/-- **Successive calls.** -/
theorem encryptCalls_at {start n : Nat} (h : At P keyBytes start n c) (calls : List EncryptCall) :
    ranges (encryptCalls P c calls) =
        (ranges calls).mapIdx (fun i b => keystreamByte P keyBytes start (n + i) ^^^ b) ∧
      (encryptCalls P c calls).map EncryptCall.outside = calls.map EncryptCall.outside := by
  induction calls generalizing n c with
  | nil => exact ⟨rfl, rfl⟩
  | cons call calls ih =>
    obtain ⟨data, offset, length, hinside⟩ := call
    have hlength : ((data.drop offset).take length).length = length := by
      rw [List.length_take, List.length_drop]
      omega
    obtain ⟨hmixed, hat⟩ := Keystream.mixWith_at (· ^^^ ·) (nextKeystreamByte_at P) h
      ((data.drop offset).take length)
    obtain ⟨hrest, houtside⟩ := ih hat
    obtain ⟨htake, hrange, hdrop⟩ := encryptRange_parts P c hinside
    constructor
    · show List.take length (List.drop offset _) ++ ranges (encryptCalls P _ calls) =
        ((data.drop offset).take length ++ ranges calls).mapIdx _
      rw [hrange, hmixed, List.mapIdx_append, hlength]
      rw [hlength] at hrest
      refine congrArg₂ _ rfl (hrest.trans ?_)
      simp only [Nat.add_assoc, Nat.add_comm length]
    · show (List.take offset _, List.drop (offset + length) _) ::
        (encryptCalls P _ calls).map EncryptCall.outside = _
      rw [htake, hdrop]
      exact congrArg _ houtside

/-- **Counter mode.** Whatever calls a text is spread over, it is mixed with the encryptions of the
counter blocks, in order, and no call touches what is outside its range; and a second cipher undoes
the first, whatever calls the result is spread over. -/
theorem counter_mode (P : Platform) (keyBytes iv : List UInt8) (c : TorStreamCipher)
    (hcreate : createFromKeyBytesWithIV keyBytes iv = .ok c) (calls : List EncryptCall) :
    ranges (encryptCalls P c calls) =
        (ranges calls).mapIdx (fun i b => keystreamByte P keyBytes (value iv) i ^^^ b) ∧
      (encryptCalls P c calls).map EncryptCall.outside = calls.map EncryptCall.outside ∧
      ∀ calls', ranges calls' = ranges (encryptCalls P c calls) →
        ranges (encryptCalls P c calls') = ranges calls := by
  have hat : At P keyBytes (value iv) 0 c := at_start P hcreate
  obtain ⟨hmixed, houtside⟩ := encryptCalls_at hat calls
  simp only [Nat.zero_add] at hmixed
  refine ⟨hmixed, houtside, fun calls' hcalls' => ?_⟩
  have hback := (encryptCalls_at hat calls').1
  rw [hback, hcalls', hmixed, List.mapIdx_mapIdx]
  simp only [Nat.zero_add, Function.comp_def, xor_cancel]
  exact List.ext_getElem? fun i => by simp

/-- Three bytes in two calls, from the last counter block on. -/
theorem two_calls_mixed :
    ∃ c, createFromKeyBytesWithIV (List.replicate 16 1) (List.replicate 16 255) = .ok c ∧
      ranges (encryptCalls Platform.checksum c [⟨[9, 1, 2], 1, 2, by decide⟩, ⟨[3], 0, 1, by decide⟩]) =
        [1, 2, 3].mapIdx (fun i b => keystreamByte Platform.checksum (List.replicate 16 1)
          (value (List.replicate 16 255)) i ^^^ b) :=
  ⟨_, rfl, (counter_mode Platform.checksum _ _ _ rfl _).1⟩

end TorStreamCipher

end Orchid
