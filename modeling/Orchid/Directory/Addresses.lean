import Orchid.Directory.FieldEscapes

/-!
# Orchid — dotted quads

`IPv4Address.createFromString` splits at the dots, which drops empty parts at the end, reads each
part with `Integer.parseInt`, which takes a sign, and has room for four.

* **`dotted_quads`**: what is formatted is read back, and a string is read exactly if it is a dotted
  quad, unless one of these three shows.
-/

namespace Orchid

open Prog IPv4Address

/-- An octet written with digits. -/
def DigitOctet (o : JString) : Prop := OctetText o ∧ ∀ c ∈ o, (digitValue c).isSome = true

/-- Four octets with single dots between them. -/
def DottedQuad (s : JString) : Prop :=
  ∃ octets : List JString, octets.length = 4 ∧ (∀ o ∈ octets, DigitOctet o) ∧
    s = List.intercalate ['.'] octets

namespace IPv4Address

def isValidIPv4AddressString (addressString : JString) : Bool :=
  match createFromString addressString with
  | .ok _ => true
  | .error _ => false

theorem octetStringToInt_showInt : ∀ n : Fin 256,
    octetStringToInt (showInt n.val) = .ok n.val ∧ showInt n.val ≠ [] ∧ '.' ∉ showInt n.val := by
  decide +kernel

variable (v : BitVec 32)

/-- The bits of one octet in its place. -/
theorem octet_getLsbD (shift : Nat) {i : Nat} (hi : i < 32) :
    (((v >>> shift) &&& 0xFF#32) <<< shift).getLsbD i =
      (decide (shift ≤ i ∧ i < shift + 8) && v.getLsbD i) := by
  have hmask : ∀ j, (0xFF#32).getLsbD j = decide (j < 8) := by
    intro j
    rw [show 0xFF#32 = BitVec.ofNat 32 (2 ^ 8 - 1) from rfl, BitVec.getLsbD_ofNat,
      Nat.testBit_two_pow_sub_one]
    grind
  rw [BitVec.getLsbD_shiftLeft, BitVec.getLsbD_and, BitVec.getLsbD_ushiftRight, hmask]
  grind

theorem octets_eq :
    0#32 ||| (((v >>> 24) &&& 0xFF#32) <<< 24) ||| (((v >>> 16) &&& 0xFF#32) <<< 16) |||
      (((v >>> 8) &&& 0xFF#32) <<< 8) ||| (((v >>> 0) &&& 0xFF#32) <<< 0) = v := by
  refine BitVec.eq_of_getLsbD_eq fun i hi => ?_
  simp only [BitVec.getLsbD_or, octet_getLsbD v _ hi, BitVec.getLsbD_zero]
  cases v.getLsbD i <;> grind

theorem createFromString_stringFormat : createFromString (stringFormat v) = .ok ⟨v⟩ := by
  have hoctet : ∀ shift : Nat, ((v >>> shift) &&& 0xFF#32).toNat < 256 := by
    intro shift
    rw [BitVec.toNat_and]
    exact Nat.and_lt_two_pow _ (n := 8) (by decide)
  have hshow := fun shift => octetStringToInt_showInt ⟨_, hoctet shift⟩
  have hsplit : split '.' (stringFormat v) =
      [24, 16, 8, 0].map fun shift : Nat => showInt ((v >>> shift) &&& 0xFF#32).toNat := by
    refine (congrArg (split '.') ?_).trans (split_intercalate (by simp) ?_ ?_)
    · simp [stringFormat, List.intercalate, List.intersperse, lit]
    · simp only [List.forall_mem_map]
      exact fun shift _ => (hshow shift).2.1
    · simp only [List.forall_mem_map]
      exact fun shift _ => (hshow shift).2.2
  unfold createFromString parseStringToAddressData
  rw [hsplit]
  have hread := fun shift => (hshow shift).1
  simp only [List.map_cons, List.map_nil, addOctets, hread]
  show Except.ok (⟨_⟩ : IPv4Address) = _
  simp only [BitVec.ofNat_toNat, BitVec.setWidth_eq]
  exact congrArg (fun data => Except.ok (mk data)) (octets_eq v)

end IPv4Address

/-- The text does not begin with five octets, and if it consists of octets they are four, written
with digits, and no part was dropped. -/
def PlainAddress (s : JString) : Prop :=
  ¬ FiveOctets s ∧ (AddressText s → (split '.' s).length = 4 ∧ s.splitOn '.' = split '.' s ∧
    ∀ o ∈ split '.' s, ∀ c ∈ o, (digitValue c).isSome = true)

theorem split_dottedQuad {octets : List JString} (hfour : octets.length = 4)
    (hoctets : ∀ o ∈ octets, DigitOctet o) :
    split '.' (List.intercalate ['.'] octets) = octets := by
  refine split_intercalate (by omega) ?_ ?_
  · rintro _ ho rfl
    obtain ⟨⟨n, hn, -⟩, -⟩ := hoctets _ ho
    cases hn
  · intro o ho hdot
    cases (hoctets o ho).2 '.' hdot

theorem dottedQuad_iff (s : JString) :
    DottedQuad s ↔ AddressText s ∧ (split '.' s).length = 4 ∧ s.splitOn '.' = split '.' s ∧
      ∀ o ∈ split '.' s, ∀ c ∈ o, (digitValue c).isSome = true := by
  constructor
  · rintro ⟨octets, hfour, hoctets, rfl⟩
    rw [AddressText, split_dottedQuad hfour hoctets]
    refine ⟨⟨hfour.le, fun o ho => (hoctets o ho).1⟩, hfour, ?_, fun o ho => (hoctets o ho).2⟩
    refine List.splitOn_intercalate '.' (fun o ho hdot => ?_) ?_
    · cases (hoctets o ho).2 '.' hdot
    · rintro rfl
      cases hfour
  · rintro ⟨⟨-, htext⟩, hfour, hsplit, hdigits⟩
    refine ⟨split '.' s, hfour, fun o ho => ⟨htext o ho, hdigits o ho⟩, ?_⟩
    rw [← hsplit, List.intercalate_splitOn]

/-- **Dotted quads.** What is formatted is read back. A string is valid exactly if it is a dotted
quad, and otherwise reported as a parsing error, exactly if it has no more than four octets and, if
these are all octets, just four, with digits and nothing else between single dots. -/
theorem dotted_quads (v : BitVec 32) (s : JString) :
    createFromString (stringFormat v) = .ok ⟨v⟩ ∧
    (((isValidIPv4AddressString s = true ↔ DottedQuad s) ∧
        ∀ e, createFromString s = .error e → ∃ message, e = .torParsing message) ↔
      PlainAddress s) := by
  refine ⟨createFromString_stringFormat v, ?_⟩
  have hvalid : isValidIPv4AddressString s = true ↔ AddressText s := by
    rw [← (createFromString_address s).1]
    unfold isValidIPv4AddressString
    cases createFromString s <;> simp
  have hreported : (∀ e, createFromString s = .error e → ∃ m, e = .torParsing m) ↔
      ¬ FiveOctets s := by
    rw [← (createFromString_address s).2]
    constructor
    · rintro h ⟨e, he, hnot⟩
      obtain ⟨m, rfl⟩ := h e he
      exact hnot trivial
    · intro h e he
      cases e with
      | torParsing message => exact ⟨message, rfl⟩
      | _ => exact absurd ⟨_, he, id⟩ h
  rw [hvalid, hreported, dottedQuad_iff]
  unfold PlainAddress
  tauto

/-- Two octets of 127.0.0.1, a sign, a dot at the end; and five octets, which nothing catches. -/
theorem lenient_addresses :
    createFromString (lit "127.1") = .ok ⟨0x7F010000#32⟩ ∧
      isValidIPv4AddressString (lit "10.0.0.+1.") = true ∧
      createFromString (lit "1.2.3.4.5") = .error .indexOutOfBounds := by
  decide

end Orchid
