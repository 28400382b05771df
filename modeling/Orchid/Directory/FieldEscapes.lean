import Orchid.Directory.RouterDescriptor
import Orchid.Lib.Escapes

/-!
# Orchid — what the field parser lets escape

The parsers of directory documents catch `TorParsingException`. Below them, hex and base64 decoders
raise exceptions of their own, the header of an object is asked for its text although the document
may have ended, and a dotted address may have more parts than it should. This module says, for each
kind of field, which texts do that.

* `DigestText`, `AddressText`, … say when a text is read; `FiveOctets`, `ReversedRange`,
  `EscapingRule`, `UndecodableData` when something escapes.
* **`Stumbles`**: reading fields in order, the first that cannot be read lets something escape.
  A `FieldReader` reads one field, and **`FieldReader.bind`** follows the readers of a line.
-/

namespace Orchid

open Prog PortRange ArgM

/-- The exceptions that end up in the result of a parse. -/
def Reported : JavaException → Prop
  | .torParsing _ => True
  | _ => False

@[simp] theorem reported_torParsing (message : JString) : Reported (.torParsing message) := trivial

/-! ## Digests -/

/-- The digits of a digest: without blanks. -/
def digitsOf (s : JString) : JString :=
  (if (split ' ' s).length > 1 then (split ' ' s).flatten else s).filter (!Hex.ignore ·)

/-- Hex digits of a SHA-1 or SHA-256 value. -/
def DigestText (s : JString) : Prop :=
  (∀ c ∈ digitsOf s, (Hex.decodingTable c).isSome) ∧
    ((digitsOf s).length = 40 ∨ (digitsOf s).length = 64)

/-- Digits in pairs are decoded, two to a byte. -/
theorem decodePairs_iff (l : JString) (n : Nat) :
    (∃ bytes, Hex.decodePairs l = some bytes ∧ bytes.length = n) ↔
      (∀ c ∈ l, (Hex.decodingTable c).isSome) ∧ l.length = 2 * n := by
  induction l using Hex.decodePairs.induct generalizing n with
  | case1 =>
    have hhalf : 0 = n ↔ 0 = 2 * n := by omega
    simpa [Hex.decodePairs] using hhalf
  | case2 c =>
    refine iff_of_false (by simp [Hex.decodePairs]) ?_
    rintro ⟨-, hlength⟩
    rw [List.length_singleton] at hlength
    omega
  | case3 c₁ c₂ cs ih =>
    simp only [Hex.decodePairs, Option.bind_eq_bind, Option.bind_eq_some_iff, Option.some.injEq,
      List.mem_cons, forall_eq_or_imp, Option.isSome_iff_exists, List.length_cons]
    constructor
    · rintro ⟨_, ⟨b₁, h₁, b₂, h₂, rest, hrest, rfl⟩, rfl⟩
      obtain ⟨hdigits, hlength⟩ := (ih rest.length).mp ⟨rest, hrest, rfl⟩
      simp only [Option.isSome_iff_exists] at hdigits
      exact ⟨⟨⟨b₁, h₁⟩, ⟨b₂, h₂⟩, hdigits⟩, by rw [List.length_cons]; omega⟩
    · rintro ⟨⟨⟨b₁, h₁⟩, ⟨b₂, h₂⟩, hdigits⟩, hlength⟩
      simp only [← Option.isSome_iff_exists] at hdigits
      obtain ⟨rest, hrest, hcount⟩ := (ih (n - 1)).mpr ⟨hdigits, by omega⟩
      exact ⟨_, ⟨b₁, h₁, b₂, h₂, rest, hrest, rfl⟩, by rw [List.length_cons]; omega⟩

/-- What is decoded is a digest if it has the length of one, and otherwise something escapes. -/
theorem decoded_digest (o : Option (List UInt8)) (message : JString) :
    let y : Except JavaException HexDigest :=
      (match o with | some bytes => .ok bytes | none => .error (.decoder message)) >>=
        HexDigest.createFromDigestBytes
    let Digest := ∃ bytes, o = some bytes ∧
      (bytes.length = TOR_DIGEST_SIZE ∨ bytes.length = TOR_DIGEST256_SIZE)
    ((∃ d, y = .ok d) ↔ Digest) ∧ (Raises Reported y ↔ ¬ Digest) := by
  cases o with
  | none => simp [bind, Except.bind, Reported]
  | some bytes =>
    by_cases hsize : bytes.length = TOR_DIGEST_SIZE ∨ bytes.length = TOR_DIGEST256_SIZE
    · simp [bind, Except.bind, HexDigest.createFromDigestBytes, hsize]
    · simp [bind, Except.bind, HexDigest.createFromDigestBytes, hsize, Reported]

variable (s : JString)

theorem digestText_iff :
    (∃ bytes, Hex.decodePairs (digitsOf s) = some bytes ∧
      (bytes.length = TOR_DIGEST_SIZE ∨ bytes.length = TOR_DIGEST256_SIZE)) ↔ DigestText s := by
  simp only [and_or_left, exists_or, decodePairs_iff]
  rw [← and_or_left]
  rfl

theorem createFromString_eq_ok : (∃ d, HexDigest.createFromString s = .ok d) ↔ DigestText s :=
  (decoded_digest _ _).1.trans (digestText_iff s)

/-- What is not the text of a digest escapes. -/
theorem createFromString_raises : Raises Reported (HexDigest.createFromString s) ↔ ¬ DigestText s :=
  (decoded_digest _ _).2.trans (digestText_iff s).not

/-- The padding that an argument is given before it is decoded. -/
def padded (s : JString) : JString :=
  match s.length % 4 with
  | 2 => s ++ lit "=="
  | 3 => s ++ lit "="
  | _ => s

/-- Base64 data of a digest. -/
def DigestData (s : JString) : Prop :=
  ∃ bytes, Base64.decodeChars (padded s) = some bytes ∧
    (bytes.length = TOR_DIGEST_SIZE ∨ bytes.length = TOR_DIGEST256_SIZE)

/-! ## Addresses and ports -/

def OctetText (s : JString) : Prop := ∃ n, parseInt s = some n ∧ 0 ≤ n ∧ n ≤ 255

/-- Up to four octets. -/
def AddressText (s : JString) : Prop :=
  (split '.' s).length ≤ 4 ∧ ∀ o ∈ split '.' s, OctetText o

/-- At least five parts, of which the first five are octets. -/
def FiveOctets (s : JString) : Prop :=
  4 < (split '.' s).length ∧ ∀ o ∈ (split '.' s).take 5, OctetText o

def PortText (s : JString) : Prop := ∃ n, parseInt s = some n ∧ 0 ≤ n ∧ n ≤ 65535

theorem octetStringToInt_cases (o : JString) :
    (OctetText o ∧ ∃ n, IPv4Address.octetStringToInt o = .ok n) ∨
      (¬ OctetText o ∧ ∃ message, IPv4Address.octetStringToInt o = .error (.torParsing message)) := by
  unfold IPv4Address.octetStringToInt OctetText
  cases parseInt o with
  | none => exact Or.inr ⟨by simp, _, rfl⟩
  | some n =>
    dsimp only
    split
    · rename_i hrange
      refine Or.inr ⟨?_, _, rfl⟩
      rintro ⟨m, hm, hlow, hhigh⟩
      cases hm
      omega
    · rename_i hrange
      exact Or.inl ⟨⟨n, rfl, by omega, by omega⟩, _, rfl⟩

/-- The loop over the octets, against the shifts that are left. -/
theorem addOctets_spec (octets : List JString) (shifts : List Nat) (data : BitVec 32) :
    ((∃ d, IPv4Address.addOctets octets shifts data = .ok d) ↔
        octets.length ≤ shifts.length ∧ ∀ o ∈ octets, OctetText o) ∧
      (Raises Reported (IPv4Address.addOctets octets shifts data) ↔
        shifts.length < octets.length ∧ ∀ o ∈ octets.take (shifts.length + 1), OctetText o) := by
  induction octets generalizing shifts data with
  | nil => simp [IPv4Address.addOctets]
  | cons o octets ih =>
    unfold IPv4Address.addOctets
    rcases octetStringToInt_cases o with ⟨hoctet, n, hn⟩ | ⟨hnot, message, herror⟩
    · rw [hn]
      cases shifts with
      | nil =>
        show ((∃ d, (.error .indexOutOfBounds : Except JavaException (BitVec 32)) = .ok d) ↔ _) ∧
          (Raises Reported (.error .indexOutOfBounds) ↔ _)
        simp [Reported, hoctet]
      | cons shift shifts =>
        have hrest := ih shifts (data ||| (BitVec.ofNat 32 n <<< shift))
        show ((∃ d, IPv4Address.addOctets octets shifts _ = .ok d) ↔ _) ∧
          (Raises Reported (IPv4Address.addOctets octets shifts _) ↔ _)
        rw [hrest.1, hrest.2]
        simp [hoctet]
    · rw [herror]
      show ((∃ d, (.error (.torParsing message) : Except JavaException (BitVec 32)) = .ok d) ↔ _) ∧
          (Raises Reported (.error (.torParsing message)) ↔ _)
      simp [hnot]

theorem createFromString_address :
    ((∃ a, IPv4Address.createFromString s = .ok a) ↔ AddressText s) ∧
      (Raises Reported (IPv4Address.createFromString s) ↔ FiveOctets s) := by
  have hspec := addOctets_spec (split '.' s) [24, 16, 8, 0] 0
  unfold IPv4Address.createFromString IPv4Address.parseStringToAddressData
  refine ⟨Iff.trans ?_ hspec.1, Iff.trans ?_ hspec.2⟩
  · simp only [except_bind_eq_ok]
    constructor
    · rintro ⟨_, data, hdata, -⟩
      exact ⟨data, hdata⟩
    · rintro ⟨data, hdata⟩
      exact ⟨_, data, hdata, rfl⟩
  · simp only [raises_bind, raises_pure, and_false, exists_false, or_false]

theorem parsePortOf_cases (items : List JString) :
    (PortText s ∧ ∃ n, parsePortOf s items = .ok (n, items)) ∨
      (¬ PortText s ∧ ∃ message, parsePortOf s items = .error (.torParsing message)) := by
  unfold PortText
  cases hparse : parseInt s with
  | none =>
    refine Or.inr ⟨by simp, lit "Failed to parse expected integer value: " ++ s, ?_⟩
    simp only [parsePortOf, parseIntegerOf, hparse]
    rfl
  | some n =>
    have hport : parsePortOf s items =
        (if n < 0 ∨ n > 65535 then throw (.torParsing (lit "Illegal port value: " ++ showInt n))
          else return n : ArgM Int) items := by
      simp only [parsePortOf, parseIntegerOf, hparse]
      show (if n < 0 ∨ n > 65535 then _ else _ : ArgM Int) items = _
      split <;> rfl
    rw [hport]
    by_cases hrange : n < 0 ∨ n > 65535
    · rw [if_pos hrange]
      refine Or.inr ⟨?_, _, rfl⟩
      rintro ⟨m, hm, hlow, hhigh⟩
      cases hm
      omega
    · rw [if_neg hrange]
      exact Or.inl ⟨⟨n, rfl, by omega, by omega⟩, n, rfl⟩

/-- A range of ports whose end lies before its start. -/
def ReversedRange (s : JString) : Prop :=
  ∃ first last start stop, split '-' s = [first, last] ∧ parseInt first = some start ∧
    parseInt last = some stop ∧ 0 ≤ stop ∧ stop < start ∧ start ≤ MAX_PORT

theorem stringToPort_eq_ok (n : Int) :
    stringToPort s = .ok n ↔ parseInt s = some n ∧ 0 ≤ n ∧ n ≤ MAX_PORT := by
  unfold stringToPort
  cases parseInt s with
  | none => simp
  | some m =>
    by_cases hvalid : isValidPort m = true
    · simp only [hvalid, if_true, Except.ok.injEq, Option.some.injEq]
      simp only [isValidPort, Bool.and_eq_true, decide_eq_true_eq] at hvalid
      constructor
      · rintro rfl
        exact ⟨rfl, hvalid⟩
      · exact And.left
    · simp only [hvalid]
      refine iff_of_false nofun ?_
      rintro ⟨hm, hrange⟩
      cases hm
      simp [isValidPort, hrange] at hvalid

theorem stringToPort_raises : ¬ Raises Reported (stringToPort s) := by
  unfold stringToPort
  cases parseInt s with
  | none => simp
  | some n =>
    dsimp only
    split <;> simp

theorem create_raises (start stop : Int) :
    Raises Reported (create start stop) ↔ ¬ isValidRange start stop = true := by
  unfold create
  split
  · rename_i hvalid
    simp [hvalid]
  · rename_i hvalid
    simp [hvalid, Reported]

/-- Of all port ranges that cannot be read, only the reversed ones let something escape. -/
theorem portRange_raises : Raises Reported (createFromString s) ↔ ReversedRange s := by
  unfold createFromString ReversedRange
  split
  · rename_i port hsplit
    rw [raises_bind, hsplit]
    refine iff_of_false ?_ (by simp)
    rintro (hraises | ⟨n, hn, hraises⟩)
    · exact stringToPort_raises port hraises
    · obtain ⟨-, hlow, hhigh⟩ := (stringToPort_eq_ok port n).mp hn
      exact (create_raises n n).mp hraises (by simp [isValidRange, isValidPort, hlow, hhigh])
  · rename_i first last hsplit
    simp only [raises_bind, stringToPort_raises, stringToPort_eq_ok, create_raises, false_or, hsplit]
    constructor
    · rintro ⟨start, ⟨hstart, hlow, hhigh⟩, stop, ⟨hstop, hlow', hhigh'⟩, hinvalid⟩
      simp only [isValidRange, isValidPort, Bool.and_eq_true, decide_eq_true_eq] at hinvalid
      exact ⟨first, last, start, stop, rfl, hstart, hstop, hlow', by omega, hhigh⟩
    · rintro ⟨_, _, start, stop, hparts, hstart, hstop, hlow, hreversed, hhigh⟩
      cases hparts
      refine ⟨start, ⟨hstart, by omega, hhigh⟩, stop, ⟨hstop, hlow, by omega⟩, ?_⟩
      simp only [isValidRange, isValidPort, Bool.and_eq_true, decide_eq_true_eq]
      omega
  · rename_i hone htwo
    refine iff_of_false (by simp) ?_
    rintro ⟨first, last, _, _, hparts, -⟩
    exact htwo first last hparts

/-- A list of ports, in which the first range that cannot be read is reversed. -/
def ReversedPorts (s : JString) : Prop :=
  ∃ before range after, split ',' s = before ++ range :: after ∧
    (∀ b ∈ before, ∃ r, PortRange.createFromString b = .ok r) ∧ ReversedRange range

theorem exitPorts_raises (acceptPorts : Bool) (s : JString) :
    Raises Reported (ExitPorts.create acceptPorts s) ↔ ReversedPorts s := by
  unfold ExitPorts.create ReversedPorts
  rw [raises_bind, raises_mapM]
  simp only [portRange_raises, raises_pure, and_false, exists_false, or_false]

/-! ## Base64 arguments and exit rules -/

/-- An argument that is not base64 data. -/
def UndecodableData (s : JString) : Prop := Base64.decodeChars (padded s) = none

theorem decodeData_raises : Raises Reported (Base64.decodeData (padded s)) ↔ UndecodableData s := by
  unfold Base64.decodeData UndecodableData
  cases Base64.decodeChars (padded s) <;> simp [Reported]

/-- The network of an exit rule: slashes alone, or an address with too many octets. -/
def EscapingNetwork (s : JString) : Prop :=
  s ≠ PolicyRule.WILDCARD ∧
    (split '/' s = [] ∨ ∃ address parts, split '/' s = address :: parts ∧ FiveOctets address)

theorem parseNetwork_raises : Raises Reported (PolicyRule.parseNetwork s) ↔ EscapingNetwork s := by
  unfold PolicyRule.parseNetwork EscapingNetwork
  split
  · rename_i hwildcard
    simp [hwildcard]
  · rename_i hwildcard
    unfold Network.createFromString
    cases hsplit : split '/' s with
    | nil => simp [Reported, hwildcard]
    | cons address parts =>
      show Raises Reported (IPv4Address.createFromString address >>= _) ↔ _
      rw [raises_bind, (createFromString_address address).2]
      constructor
      · rintro (hfive | ⟨network, -, hraises⟩)
        · exact ⟨hwildcard, Or.inr ⟨address, parts, rfl, hfive⟩⟩
        · -- behind the address only what is reported can be raised
          revert hraises
          match parts with
          | [] => simp
          | [bits] =>
            dsimp only
            cases parseInt bits <;> simp
          | _ :: _ :: _ => simp
      · rintro ⟨-, hnil | ⟨address', parts', hparts, hfive⟩⟩
        · cases hnil
        · cases hparts
          exact Or.inl hfive

/-- An exit rule of a network and a range of ports of which something escapes. -/
def EscapingRule (s : JString) : Prop :=
  ∃ network ports, split ':' s = [network, ports] ∧
    (EscapingNetwork network ∨
      (∃ n, PolicyRule.parseNetwork network = .ok n) ∧ ports ≠ PolicyRule.WILDCARD ∧
        ReversedRange ports)

theorem parsePortRange_raises :
    Raises Reported (PolicyRule.parsePortRange s) ↔ s ≠ PolicyRule.WILDCARD ∧ ReversedRange s := by
  unfold PolicyRule.parsePortRange
  split
  · rename_i hwildcard
    simp [hwildcard]
  · rename_i hwildcard
    rw [portRange_raises]
    simp [hwildcard]

theorem createRule_raises (isAccept : Bool) :
    Raises Reported (PolicyRule.createRule s isAccept) ↔ EscapingRule s := by
  unfold PolicyRule.createRule EscapingRule
  split
  · rename_i network ports hsplit
    rw [hsplit, raises_bind, parseNetwork_raises]
    simp only [raises_bind, parsePortRange_raises, raises_pure, and_false, exists_false, or_false]
    constructor
    · rintro (hnetwork | ⟨n, hn, hports⟩)
      · exact ⟨network, ports, rfl, Or.inl hnetwork⟩
      · exact ⟨network, ports, rfl, Or.inr ⟨⟨n, hn⟩, hports⟩⟩
    · rintro ⟨network', ports', hparts, hescapes⟩
      cases hparts
      rcases hescapes with hnetwork | ⟨⟨n, hn⟩, hports⟩
      · exact Or.inl hnetwork
      · exact Or.inr ⟨n, hn, hports⟩
  · rename_i hnot
    constructor
    · intro h
      simp at h
    · rintro ⟨network, ports, hparts, -⟩
      exact absurd hparts (hnot network ports)

/-! ## Fields in order -/

/-- The kinds of fields that stand one behind the other on a line. -/
inductive Field where
  | text
  | port
  | timestamp
  | hexDigest
  | base64Digest
  | address
  deriving DecidableEq

namespace Field

variable (P : Platform)

/-- The field lets something escape. -/
def Escapes : Field → List JString → Prop
  | .hexDigest, s :: _ => ¬ DigestText s
  | .base64Digest, s :: _ => ¬ DigestData s
  | .address, s :: _ => FiveOctets s
  | _, _ => False

/-- The field is read, and what is left of the arguments. -/
def Reads : Field → List JString → List JString → Prop
  | .text, _ :: items, rest => rest = items
  | .port, s :: items, rest => PortText s ∧ rest = items
  | .timestamp, date :: time :: items, rest =>
    (P.dateFormat (date ++ lit " " ++ time)).isSome ∧ rest = items
  | .hexDigest, s :: items, rest => DigestText s ∧ rest = items
  | .base64Digest, s :: items, rest => DigestData s ∧ rest = items
  | .address, s :: items, rest => AddressText s ∧ rest = items
  | _, _, _ => False

end Field

/-- The first field that cannot be read lets something escape. -/
def Stumbles (P : Platform) : List Field → List JString → Prop
  | [], _ => False
  | field :: fields, items =>
    field.Escapes items ∨ ∃ rest, field.Reads P items rest ∧ Stumbles P fields rest

/-- All fields are read. -/
def ReadsAll (P : Platform) : List Field → List JString → Prop
  | [], _ => True
  | field :: fields, items => ∃ rest, field.Reads P items rest ∧ ReadsAll P fields rest

/-- A reader of one field. -/
structure FieldReader {α : Type} (P : Platform) (field : Field) (x : ArgM α) : Prop where
  escapes : ∀ items, Raises Reported (x items) ↔ field.Escapes items
  reads : ∀ items rest, (∃ a, x items = .ok (a, rest)) ↔ field.Reads P items rest

section Readers

variable {P : Platform} {α β : Type} {field : Field} {x : ArgM α}

variable {fields : List Field} {f : α → ArgM β}

/-- A line is read field by field. -/
theorem FieldReader.bind (hx : FieldReader P field x)
    (hf : ∀ a items, Raises Reported (f a items) ↔ Stumbles P fields items) (items : List JString) :
    Raises Reported ((x >>= f) items) ↔ Stumbles P (field :: fields) items := by
  rw [raises_stateT_bind, hx.escapes]
  constructor
  · rintro (hescapes | ⟨a, rest, hok, hrest⟩)
    · exact Or.inl hescapes
    · exact Or.inr ⟨rest, (hx.reads items rest).mp ⟨a, hok⟩, (hf a rest).mp hrest⟩
  · rintro (hescapes | ⟨rest, hreads, hrest⟩)
    · exact Or.inl hescapes
    · obtain ⟨a, hok⟩ := (hx.reads items rest).mpr hreads
      exact Or.inr ⟨a, rest, hok, (hf a rest).mpr hrest⟩

theorem FieldReader.map (hx : FieldReader P field x) (g : α → β) :
    FieldReader P field (g <$> x) := by
  have hrun : ∀ items, (g <$> x) items = (x items).map fun p => (g p.1, p.2) := by
    intro items
    show (x items >>= fun p => pure (g p.1, p.2)) = _
    cases x items <;> rfl
  constructor
  · intro items
    rw [hrun, ← hx.escapes]
    cases x items <;> simp [Except.map]
  · intro items rest
    rw [hrun, ← hx.reads]
    cases x items with
    | error e => simp [Except.map]
    | ok p =>
      constructor
      · rintro ⟨b, hb⟩
        cases hb
        exact ⟨p.1, rfl⟩
      · rintro ⟨a, ha⟩
        cases ha
        exact ⟨g a, rfl⟩

/-- And nothing escapes behind its last field. -/
theorem stumbles_pure (a : α) (items : List JString) :
    Raises Reported ((pure a : ArgM α) items) ↔ Stumbles P [] items :=
  iff_of_false (raises_stateT_pure a) id

/-- And so is the whole line read. -/
theorem FieldReader.bind_ok (hx : FieldReader P field x)
    (hf : ∀ a items, (∃ b rest, f a items = .ok (b, rest)) ↔ ReadsAll P fields items)
    (items : List JString) :
    (∃ b rest, (x >>= f) items = .ok (b, rest)) ↔ ReadsAll P (field :: fields) items := by
  simp only [stateT_bind_eq_ok]
  constructor
  · rintro ⟨b, rest, a, items', hfirst, hsecond⟩
    exact ⟨items', (hx.reads items items').mp ⟨a, hfirst⟩, (hf a items').mp ⟨b, rest, hsecond⟩⟩
  · rintro ⟨items', hreads, hall⟩
    obtain ⟨a, ha⟩ := (hx.reads items items').mpr hreads
    obtain ⟨b, rest, hb⟩ := (hf a items').mpr hall
    exact ⟨b, rest, a, items', ha, hb⟩

theorem readsAll_pure (a : α) (items : List JString) :
    (∃ b rest, (pure a : ArgM α) items = .ok (b, rest)) ↔ ReadsAll P [] items :=
  iff_of_true ⟨a, items, rfl⟩ trivial

theorem getItem_nil :
    getItem [] = .error (.torParsing (lit "Overrun while reading arguments")) := rfl

theorem getItem_cons (item : JString) (items : List JString) :
    getItem (item :: items) = .ok (item, items) := rfl

/-- What is read from one argument by a computation. -/
theorem reader_of_item {y : JString → Except JavaException α}
    (hnil : ¬ field.Escapes [] ∧ ∀ rest, ¬ field.Reads P [] rest)
    (hescapes : ∀ s items, Raises Reported (y s) ↔ field.Escapes (s :: items))
    (hreads : ∀ s items rest, ((∃ a, y s = .ok a) ∧ rest = items) ↔
      field.Reads P (s :: items) rest) :
    FieldReader P field (getItem >>= fun s => (liftM (y s) : ArgM α)) where
  escapes := by
    intro items
    cases items with
    | nil => exact iff_of_false (by rw [raises_stateT_bind, getItem_nil]; simp) hnil.1
    | cons s items =>
      rw [raises_stateT_bind, getItem_cons, ← hescapes s items]
      simp [raises_stateT_lift]
  reads := by
    intro items rest
    cases items with
    | nil =>
      refine iff_of_false ?_ (hnil.2 rest)
      rintro ⟨a, ha⟩
      cases ha
    | cons s items =>
      rw [← hreads s items rest]
      show (∃ a, (liftM (y s) : ArgM α) items = .ok (a, rest)) ↔ _
      simp only [stateT_lift_eq_ok, exists_and_right]

/-- A reader from which nothing escapes returns, or what it raises is caught. -/
theorem reader_of_cases (hescapes : ∀ items, ¬ field.Escapes items)
    (hcases : ∀ items, (∃ a rest, x items = .ok (a, rest) ∧
        ∀ rest', field.Reads P items rest' ↔ rest' = rest) ∨
      (∃ message, x items = .error (.torParsing message)) ∧ ∀ rest, ¬ field.Reads P items rest) :
    FieldReader P field x where
  escapes := by
    intro items
    refine iff_of_false ?_ (hescapes items)
    rcases hcases items with ⟨a, rest, hok, -⟩ | ⟨⟨message, herror⟩, -⟩
    · simp [hok]
    · simp [herror]
  reads := by
    intro items rest'
    rcases hcases items with ⟨a, rest, hok, hreads⟩ | ⟨⟨message, herror⟩, hreads⟩
    · simp [hok, hreads, eq_comm]
    · simp [herror, hreads]

theorem text_reader : FieldReader P .text getItem := by
  refine reader_of_cases (fun _ => id) fun items => ?_
  cases items with
  | nil => exact Or.inr ⟨⟨_, getItem_nil⟩, fun _ => id⟩
  | cons s items => exact Or.inl ⟨s, items, getItem_cons s items, fun _ => Iff.rfl⟩

theorem hexDigest_reader : FieldReader P .hexDigest parseHexDigest := by
  refine reader_of_item ⟨id, fun _ => id⟩ (fun s _ => createFromString_raises s) ?_
  intro s items rest
  rw [createFromString_eq_ok]
  rfl

theorem address_reader : FieldReader P .address parseAddress := by
  refine reader_of_item ⟨id, fun _ => id⟩ (fun s _ => (createFromString_address s).2) ?_
  intro s items rest
  rw [(createFromString_address s).1]
  rfl

theorem port_reader : FieldReader P .port parsePort := by
  refine reader_of_cases (fun _ => id) fun items => ?_
  cases items with
  | nil => exact Or.inr ⟨⟨_, rfl⟩, fun _ => id⟩
  | cons s items =>
    rcases parsePortOf_cases s items with ⟨hport, n, hn⟩ | ⟨hnot, message, herror⟩
    · exact Or.inl ⟨n, items, hn, fun _ => and_iff_right hport⟩
    · exact Or.inr ⟨⟨message, herror⟩, fun _ h => hnot h.1⟩

/-- A date and a time are read if the platform's format does. -/
theorem parseTimestamp_cases (date time : JString) (items : List JString) :
    ((P.dateFormat (date ++ lit " " ++ time)).isSome ∧
        ∃ t, parseTimestamp P (date :: time :: items) = .ok (t, items)) ∨
      ((P.dateFormat (date ++ lit " " ++ time)).isSome = false ∧ ∃ message,
        parseTimestamp P (date :: time :: items) = .error (.torParsing message)) := by
  unfold parseTimestamp
  cases hdate : P.dateFormat (date ++ lit " " ++ time) with
  | none =>
    refine Or.inr ⟨rfl, lit "Could not parse timestamp value: " ++ (date ++ lit " " ++ time), ?_⟩
    simp only [bind, StateT.bind, Except.bind, getItem_cons, hdate]
    rfl
  | some t =>
    refine Or.inl ⟨rfl, t, ?_⟩
    simp only [bind, StateT.bind, Except.bind, getItem_cons, hdate]
    rfl

theorem timestamp_reader : FieldReader P .timestamp (parseTimestamp P) := by
  refine reader_of_cases (fun _ => id) fun items => ?_
  rcases items with _ | ⟨date, _ | ⟨time, items⟩⟩
  · exact Or.inr ⟨⟨_, rfl⟩, fun _ => id⟩
  · exact Or.inr ⟨⟨_, rfl⟩, fun _ => id⟩
  · rcases parseTimestamp_cases date time items with ⟨hdate, t, ht⟩ | ⟨hdate, message, herror⟩
    · exact Or.inl ⟨t, items, ht, fun _ => and_iff_right hdate⟩
    · exact Or.inr ⟨⟨message, herror⟩, fun _ h => Bool.false_ne_true (hdate.symm.trans h.1)⟩

end Readers

end Orchid
