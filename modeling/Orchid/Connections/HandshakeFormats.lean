import Orchid.Connections.Connect

/-!
# Orchid — what the cells of the handshake hold

The formats of the NETINFO and CERTS cells, without their readers.

* `NetInfoItem`: a timestamp, an address, and so many further addresses. `processNetInfo` reads it,
  and fails where a cell does not start with it.
* `Entry`, `Fills`: the entries of a CERTS cell, and the certificates that they leave. An entry is
  taken for as long as its type has no certificate yet.
* **`readCerts_ok`**, **`readCerts_short`**: the CERTS cells that are accepted, and those on which
  the reader runs out of bytes. All others are refused with a `ConnectionHandshakeException`
  (`readCerts_error`).
-/

namespace Orchid

open Prog

namespace ConnectionHandshake

/-! ## Numbers -/

theorem parses_getByte :
    Parses .bufferUnderflow PayloadM.getByte fun item n => ∃ b, item = [b] ∧ n = b.toNat :=
  (parses_getNext _).map UInt8.toNat

theorem parses_getByteArray (length : Nat) :
    Parses .bufferUnderflow (PayloadM.getByteArray length) fun item bytes =>
      item = bytes ∧ bytes.length = length :=
  parses_getMany _ length

theorem parses_getInt :
    Parses .bufferUnderflow PayloadM.getInt fun item n => item.length = 4 ∧ n = wireNat item := by
  refine ((parses_getByteArray 4).map wireNat).congr fun item n => ?_
  constructor
  · rintro ⟨bytes, ⟨rfl, hlength⟩, rfl⟩
    exact ⟨hlength, rfl⟩
  · rintro ⟨hlength, rfl⟩
    exact ⟨item, ⟨rfl, hlength⟩, rfl⟩

/-! ## NETINFO -/

/-- An address: its type, its length, and so many bytes. Only an IPv4 address is kept. -/
def AddressItem (item : List UInt8) (address : Option IPv4Address) : Prop :=
  ∃ type length body, item = type :: length :: body ∧ body.length = length.toNat ∧
    address = if type.toNat = ADDRESS_TYPE_IPV4 ∧ length.toNat = 4 then
      some ⟨BitVec.ofNat 32 (wireNat body)⟩ else none

/-- The same bytes are taken, whether the address is kept or not. -/
theorem parses_readAddressData (type len : Nat) :
    Parses .bufferUnderflow (readAddressData type len) fun item address => item.length = len ∧
      address = if type = ADDRESS_TYPE_IPV4 ∧ len = 4 then
        some ⟨BitVec.ofNat 32 (wireNat item)⟩ else none := by
  unfold readAddressData
  by_cases hipv4 : type = ADDRESS_TYPE_IPV4 ∧ len = 4
  · simp only [if_pos hipv4]
    refine (parses_getInt.map _).congr fun item address => ?_
    constructor
    · rintro ⟨n, ⟨hlength, rfl⟩, rfl⟩
      exact ⟨hlength.trans hipv4.2.symm, rfl⟩
    · rintro ⟨hlength, rfl⟩
      exact ⟨_, ⟨hlength.trans hipv4.2, rfl⟩, rfl⟩
  · simp only [if_neg hipv4]
    refine ((parses_getByteArray len).map _).congr fun item address => ?_
    constructor
    · rintro ⟨bytes, ⟨rfl, hlength⟩, rfl⟩
      exact ⟨hlength, rfl⟩
    · rintro ⟨hlength, rfl⟩
      exact ⟨item, ⟨rfl, hlength⟩, rfl⟩

theorem parses_readAddress : Parses .bufferUnderflow readAddress AddressItem := by
  refine (parses_getByte.bind fun type => parses_getByte.bind fun len =>
    parses_readAddressData type len).congr fun item address => ?_
  constructor
  · rintro ⟨_, _, _, rfl, ⟨type, rfl, rfl⟩, _, _, body, rfl, ⟨length, rfl, rfl⟩, hlength, rfl⟩
    exact ⟨type, length, body, rfl, hlength, rfl⟩
  · rintro ⟨type, length, body, rfl, hlength, rfl⟩
    exact ⟨[type], _, length :: body, rfl, ⟨type, rfl, rfl⟩, [length], _, body, rfl,
      ⟨length, rfl, rfl⟩, hlength, rfl⟩

/-- A NETINFO cell starts with a timestamp, the client's own address as the peer sees it, a count,
and so many addresses. -/
def NetInfoItem (item : List UInt8) (info : NetInfo) : Prop :=
  ∃ stamp own count others myAddress addresses,
    item = stamp ++ (own ++ (count :: others)) ∧ stamp.length = 4 ∧ AddressItem own myAddress ∧
      Repeated AddressItem others addresses ∧ addresses.length = count.toNat ∧
      info = ⟨wireNat stamp, myAddress, addresses.filterMap id⟩

theorem parses_processNetInfo : Parses .bufferUnderflow processNetInfo NetInfoItem := by
  refine (parses_getInt.bind fun stamp => parses_readAddress.bind fun myAddress =>
    parses_getByte.bind fun count =>
      (parses_getRepeated _ parses_readAddress count).bind fun addresses =>
        Parses.pure _).congr fun item info => ?_
  constructor
  · rintro ⟨stamp, _, _, rfl, ⟨hstamp, rfl⟩, own, myAddress, _, rfl, hown, _, _, _, rfl,
      ⟨count, rfl, rfl⟩, others, addresses, _, rfl, ⟨hothers, hlength⟩, rfl, rfl⟩
    rw [List.append_nil]
    exact ⟨stamp, own, count, others, myAddress, addresses, rfl, hstamp, hown, hothers, hlength, rfl⟩
  · rintro ⟨stamp, own, count, others, myAddress, addresses, rfl, hstamp, hown, hothers, hlength,
      rfl⟩
    exact ⟨stamp, _, _, rfl, ⟨hstamp, rfl⟩, own, myAddress, _, rfl, hown, [count], _, others, rfl,
      ⟨count, rfl, rfl⟩, others, addresses, [], (List.append_nil _).symm, ⟨hothers, hlength⟩, rfl,
      rfl⟩

/-- A NETINFO cell that can be read, whatever follows. -/
def NetInfoPayload (payload : List UInt8) (info : NetInfo) : Prop :=
  ∃ item rest, payload = item ++ rest ∧ NetInfoItem item info

variable {payload : List UInt8}

theorem processNetInfo_ok {info : NetInfo} :
    (∃ rest, processNetInfo payload = .ok info rest) ↔ NetInfoPayload payload info := by
  constructor
  · rintro ⟨rest, hrun⟩
    obtain ⟨item, hpayload, hitem⟩ := parses_processNetInfo.sound hrun
    exact ⟨item, rest, hpayload, hitem⟩
  · rintro ⟨item, rest, rfl, hitem⟩
    exact ⟨rest, parses_processNetInfo.complete rest hitem⟩

end ConnectionHandshake

/-! ## CERTS -/

namespace ConnectionHandshakeV3

open ConnectionHandshake

variable {C : Type} (X : X509 C)

/-- A certificate: its length and so many bytes. -/
def CertificateItem (item certificateBuffer : List UInt8) : Prop :=
  ∃ high low, item = high :: low :: certificateBuffer ∧
    certificateBuffer.length = wireShort high low

theorem parses_readCertificateFromCell :
    Parses .bufferUnderflow (readCertificateFromCell X) fun item certificate =>
      ∃ certificateBuffer, CertificateItem item certificateBuffer ∧
        certificate = X.generateCertificate certificateBuffer := by
  refine (((parses_getByteArray 2).map wireNat).bind fun clen =>
    (parses_getByteArray clen).bind fun bytes => Parses.pure _).congr fun item certificate => ?_
  constructor
  · rintro ⟨front, _, _, rfl, ⟨length, ⟨rfl, htwo⟩, rfl⟩, bytes, _, _, rfl, ⟨rfl, hlength⟩, rfl,
      rfl⟩
    obtain ⟨high, low, rfl⟩ := List.length_eq_two.mp htwo
    refine ⟨bytes, ⟨high, low, ?_, ?_⟩, rfl⟩
    · rw [List.append_nil]
      rfl
    · simpa [wireNat, wireShort] using hlength
  · rintro ⟨bytes, ⟨high, low, rfl, hlength⟩, rfl⟩
    refine ⟨[high, low], _, bytes, rfl, ⟨[high, low], ⟨rfl, rfl⟩, rfl⟩, bytes, bytes, [],
      (List.append_nil _).symm, ⟨rfl, ?_⟩, rfl, rfl⟩
    simpa [wireNat, wireShort] using hlength

/-- An entry of a CERTS cell. -/
structure Entry where
  type : CertificateType
  certificateBuffer : List UInt8

/-- The bytes of an entry. -/
def EntryItem (item : List UInt8) (entry : Entry) : Prop :=
  ∃ body, item = entry.type.byte :: body ∧ CertificateItem body entry.certificateBuffer

/-- From the certificates on the left the entries lead to those on the right: each is of a type that
has no certificate at that point. -/
inductive Fills : Certificates C → List Entry → Certificates C → Prop where
  | nil (certificates : Certificates C) : Fills certificates [] certificates
  | cons {certificates certificates' : Certificates C} {entry : Entry} {entries : List Entry}
    (free : certificates entry.type = none)
    (tail : Fills (Function.update certificates entry.type
      (X.generateCertificate entry.certificateBuffer)) entries certificates') :
    Fills certificates (entry :: entries) certificates'

variable {X} {certificates : Certificates C} {entries : List Entry} {type : CertificateType}

variable {certificates' : Certificates C}

/-- A certificate that is there in the end was there before, or an entry presents it. -/
theorem Fills.presented
    (h : Fills X certificates entries certificates') {c : C} (hc : certificates' type = some c) :
    certificates type = some c ∨
      ∃ buffer, ⟨type, buffer⟩ ∈ entries ∧ X.generateCertificate buffer = some c := by
  induction h with
  | nil _ => exact Or.inl hc
  | @cons certificates _ entry entries _ _ ih =>
    rcases ih hc with hbefore | ⟨buffer, hmem, hbuffer⟩
    · rcases eq_or_ne type entry.type with rfl | htype
      · rw [Function.update_self] at hbefore
        exact Or.inr ⟨entry.certificateBuffer, List.mem_cons_self, hbefore⟩
      · rw [Function.update_of_ne htype] at hbefore
        exact Or.inl hbefore
    · exact Or.inr ⟨buffer, List.mem_cons_of_mem _ hmem, hbuffer⟩

theorem CertificateType.ofByte_byte (type : CertificateType) :
    CertificateType.ofByte type.byte.toNat = some type := by
  cases type <;> rfl

theorem CertificateType.byte_of_ofByte {b : UInt8}
    (h : CertificateType.ofByte b.toNat = some type) : b = type.byte := by
  unfold CertificateType.ofByte at h
  repeat' split at h
  all_goals first
    | cases h; apply UInt8.toNat_inj.mp; assumption
    | cases h

variable (X) (n : Nat)

/-- One round of the loop. -/
theorem readCertificates_succ (certificates : Certificates C) (b : UInt8) (buffer : List UInt8) :
    readCertificates X (n + 1) certificates (b :: buffer) =
      match CertificateType.ofByte b.toNat with
      | some slot => (do
          let certificate ← testAndReadCertificate X (certificates slot) slot.label
          readCertificates X n (Function.update certificates slot certificate) :
            PayloadM (Certificates C)) buffer
      | none => .error (.connectionHandshake (lit "Unexpected certificate type = " ++
          showInt b.toNat ++ lit " in CERTS cell")) buffer := by
  have hbyte : PayloadM.getByte (b :: buffer) = .ok b.toNat buffer := rfl
  conv_lhs => unfold readCertificates
  rw [bind_of_ok hbyte]
  cases CertificateType.ofByte b.toNat <;> rfl

/-- The reader takes an entry whose type is free. -/
theorem readCertificates_entry {item rest : List UInt8}
    {entry : Entry} (hitem : EntryItem item entry) (hfree : certificates entry.type = none) :
    readCertificates X (n + 1) certificates (item ++ rest) =
      readCertificates X n (Function.update certificates entry.type
        (X.generateCertificate entry.certificateBuffer)) rest := by
  obtain ⟨body, rfl, hbody⟩ := hitem
  have hread : testAndReadCertificate X (certificates entry.type) entry.type.label (body ++ rest) =
      .ok (X.generateCertificate entry.certificateBuffer) rest := by
    rw [hfree]
    exact (parses_readCertificateFromCell X).complete rest ⟨_, hbody, rfl⟩
  rw [List.cons_append, readCertificates_succ, CertificateType.ofByte_byte]
  dsimp only
  rw [bind_of_ok hread]

/-- The bytes end inside an entry, or before it. -/
def EndsInside (certificates : Certificates C) (tail : List UInt8) : Prop :=
  tail = [] ∨ ∃ type body, tail = CertificateType.byte type :: body ∧ certificates type = none ∧
    ¬ Starts CertificateItem body

theorem readCertificates_endsInside {tail : List UInt8} (h : EndsInside certificates tail) :
    ∃ rest, readCertificates X (n + 1) certificates tail = .error .bufferUnderflow rest := by
  rcases h with rfl | ⟨type, body, rfl, hfree, hstarts⟩
  · exact ⟨[], rfl⟩
  · have hshort : ¬ Starts (fun item certificate => ∃ certificateBuffer,
        CertificateItem item certificateBuffer ∧
          certificate = X.generateCertificate certificateBuffer) body := by
      rintro ⟨item, _, rest, hbuffer, certificateBuffer, hitem, -⟩
      exact hstarts ⟨item, certificateBuffer, rest, hbuffer, hitem⟩
    obtain ⟨rest, hread⟩ := (parses_readCertificateFromCell X).fails_iff.mp hshort
    refine ⟨rest, ?_⟩
    rw [readCertificates_succ, CertificateType.ofByte_byte]
    dsimp only
    rw [hfree]
    exact bind_of_error hread

/-- What a round can do: read an entry whose type is free and go on, run out of bytes, or refuse
what stands there. -/
theorem readCertificates_cases (certificates : Certificates C) (buffer : List UInt8) :
    (∃ item rest entry, buffer = item ++ rest ∧ EntryItem item entry ∧
        certificates entry.type = none) ∨
      (EndsInside certificates buffer ∧ ∃ rest,
        readCertificates X (n + 1) certificates buffer = .error .bufferUnderflow rest) ∨
      ∃ message rest, readCertificates X (n + 1) certificates buffer =
        .error (.connectionHandshake message) rest := by
  cases buffer with
  | nil => exact Or.inr (Or.inl ⟨Or.inl rfl, [], rfl⟩)
  | cons b body =>
    cases hslot : CertificateType.ofByte b.toNat with
    | none =>
      rw [readCertificates_succ, hslot]
      exact Or.inr (Or.inr ⟨_, body, rfl⟩)
    | some slot =>
      cases CertificateType.byte_of_ofByte hslot
      cases hfree : certificates slot with
      | some c =>
        rw [readCertificates_succ, hslot]
        dsimp only
        rw [hfree]
        exact Or.inr (Or.inr ⟨_, body, rfl⟩)
      | none =>
        by_cases hstarts : Starts CertificateItem body
        · obtain ⟨item, certificateBuffer, rest, rfl, hitem⟩ := hstarts
          exact Or.inl ⟨slot.byte :: item, rest, ⟨slot, certificateBuffer⟩, rfl,
            ⟨item, rfl, hitem⟩, hfree⟩
        · have hends : EndsInside certificates (slot.byte :: body) :=
            Or.inr ⟨slot, body, rfl, hfree, hstarts⟩
          exact Or.inr (Or.inl ⟨hends, readCertificates_endsInside X n hends⟩)

/-- The entries of a buffer, up to the `rest`, and the certificates they lead to. -/
def EntriesRead (certificates : Certificates C) (buffer : List UInt8) (entries : List Entry)
    (rest : List UInt8) (certificates' : Certificates C) : Prop :=
  ∃ item, buffer = item ++ rest ∧ Repeated EntryItem item entries ∧
    Fills X certificates entries certificates'

variable {X} in
/-- One more entry in front. -/
theorem EntriesRead.cons {item buffer rest : List UInt8}
    {entry : Entry} (hitem : EntryItem item entry) (hfree : certificates entry.type = none)
    (h : EntriesRead X (Function.update certificates entry.type
      (X.generateCertificate entry.certificateBuffer)) buffer entries rest certificates') :
    EntriesRead X certificates (item ++ buffer) (entry :: entries) rest certificates' := by
  obtain ⟨back, rfl, hback, hfills⟩ := h
  exact ⟨item ++ back, (List.append_assoc ..).symm, .cons hitem hback, .cons hfree hfills⟩

/-- The loop reads what is there, and goes on behind it. -/
theorem readCertificates_read {buffer rest : List UInt8}
    (h : EntriesRead X certificates buffer entries rest certificates') (n : Nat) :
    readCertificates X (entries.length + n) certificates buffer =
      readCertificates X n certificates' rest := by
  obtain ⟨item, rfl, hitems, hfills⟩ := h
  induction hitems generalizing certificates with
  | nil =>
    cases hfills
    rw [List.length_nil, Nat.zero_add, List.nil_append]
  | @cons item back entry entries hhead _ ih =>
    cases hfills with
    | cons hfree hfills =>
      have hlength : (entry :: entries).length + n = (entries.length + n) + 1 := by
        rw [List.length_cons]
        omega
      rw [hlength, List.append_assoc, readCertificates_entry X _ hhead hfree]
      exact ih hfills

/-- **How the loop ends**, one way or another: with all entries read, out of bytes, or refusing. -/
theorem readCertificates_ends (certificates : Certificates C) (buffer : List UInt8) :
    (∃ certificates' rest entries, entries.length = n ∧
        EntriesRead X certificates buffer entries rest certificates' ∧
        readCertificates X n certificates buffer = .ok certificates' rest) ∨
      (∃ certificates' tail entries rest, entries.length < n ∧
        EntriesRead X certificates buffer entries tail certificates' ∧
        EndsInside certificates' tail ∧
        readCertificates X n certificates buffer = .error .bufferUnderflow rest) ∨
      ∃ message rest, readCertificates X n certificates buffer =
        .error (.connectionHandshake message) rest := by
  induction n generalizing certificates buffer with
  | zero =>
    exact Or.inl ⟨certificates, buffer, [], rfl, ⟨[], rfl, .nil, .nil certificates⟩, rfl⟩
  | succ n ih =>
    rcases readCertificates_cases X n certificates buffer with
      ⟨item, rest, entry, rfl, hitem, hfree⟩ | ⟨hends, rest, hrun⟩ | hrefused
    · -- the entry is read, and the rest of the loop runs behind it
      rw [readCertificates_entry X n hitem hfree]
      rcases ih (Function.update certificates entry.type
          (X.generateCertificate entry.certificateBuffer)) rest with
        ⟨certificates', rest', entries, hlength, hread, hrun⟩ |
          ⟨certificates', tail, entries, rest', hlength, hread, hends, hrun⟩ | hrefused
      · refine Or.inl ⟨certificates', rest', entry :: entries, ?_, hread.cons hitem hfree, hrun⟩
        rw [List.length_cons, hlength]
      · refine Or.inr (Or.inl ⟨certificates', tail, entry :: entries, rest', ?_,
          hread.cons hitem hfree, hends, hrun⟩)
        rw [List.length_cons]
        omega
      · exact Or.inr (Or.inr hrefused)
    · exact Or.inr (Or.inl ⟨certificates, buffer, [], rest, Nat.succ_pos n,
        ⟨[], rfl, .nil, .nil certificates⟩, hends, hrun⟩)
    · exact Or.inr (Or.inr hrefused)

/-! ### The whole cell -/

/-- A CERTS cell that is accepted: two or five entries, and the certificates they lead to. -/
def CertsPayload (payload : List UInt8) (certificates : Certificates C) : Prop :=
  ∃ count buffer entries rest, payload = count :: buffer ∧ (count = 2 ∨ count = 5) ∧
    entries.length = count.toNat ∧ EntriesRead X (fun _ => none) buffer entries rest certificates

/-- A CERTS cell that ends before its last entry does, with nothing to refuse up to there. -/
def CertsEndEarly (payload : List UInt8) : Prop :=
  payload = [] ∨ ∃ count buffer entries tail certificates, payload = count :: buffer ∧
    (count = 2 ∨ count = 5) ∧ entries.length < count.toNat ∧
    EntriesRead X (fun _ => none) buffer entries tail certificates ∧ EndsInside certificates tail

/-- The count is two or five for the loop to start. -/
theorem readCerts_cons {count : UInt8} (h : count = 2 ∨ count = 5) (buffer : List UInt8) :
    readCerts X (count :: buffer) = readCertificates X count.toNat (fun _ => none) buffer := by
  have hbyte : PayloadM.getByte (count :: buffer) = .ok count.toNat buffer := rfl
  have hcount : ¬ (count.toNat ≠ 2 ∧ count.toNat ≠ 5) := by
    rcases h with rfl | rfl <;> decide
  unfold readCerts
  rw [bind_of_ok hbyte]
  rw [if_neg hcount]

theorem readCerts_ends (payload : List UInt8) :
    (∃ certificates rest, CertsPayload X payload certificates ∧
        readCerts X payload = .ok certificates rest) ∨
      (CertsEndEarly X payload ∧ ∃ rest, readCerts X payload = .error .bufferUnderflow rest) ∨
      ∃ message rest, readCerts X payload = .error (.connectionHandshake message) rest := by
  cases payload with
  | nil => exact Or.inr (Or.inl ⟨Or.inl rfl, [], rfl⟩)
  | cons count buffer =>
    by_cases hcount : count = 2 ∨ count = 5
    · rw [readCerts_cons X hcount]
      rcases readCertificates_ends X count.toNat (fun _ => none) buffer with
        ⟨certificates, rest, entries, hlength, hread, hrun⟩ |
          ⟨certificates, tail, entries, rest, hlength, hread, hends, hrun⟩ | hrefused
      · exact Or.inl ⟨certificates, rest, ⟨count, buffer, entries, rest, rfl, hcount, hlength,
          hread⟩, hrun⟩
      · exact Or.inr (Or.inl ⟨Or.inr ⟨count, buffer, entries, tail, certificates, rfl, hcount,
          hlength, hread, hends⟩, rest, hrun⟩)
      · exact Or.inr (Or.inr hrefused)
    · have hbyte : PayloadM.getByte (count :: buffer) = .ok count.toNat buffer := rfl
      have hother : count.toNat ≠ 2 ∧ count.toNat ≠ 5 := by
        constructor
        · intro h
          exact hcount (Or.inl (UInt8.toNat_inj.mp h))
        · intro h
          exact hcount (Or.inr (UInt8.toNat_inj.mp h))
      unfold readCerts
      rw [bind_of_ok hbyte]
      rw [if_pos hother]
      exact Or.inr (Or.inr ⟨_, buffer, rfl⟩)

theorem readCerts_ok :
    (∃ rest, readCerts X payload = .ok certificates rest) ↔ CertsPayload X payload certificates := by
  constructor
  · rintro ⟨rest, hrun⟩
    rcases readCerts_ends X payload with ⟨certificates', rest', hpayload, hrun'⟩ |
      ⟨-, rest', hrun'⟩ | ⟨message, rest', hrun'⟩
    · cases hrun.symm.trans hrun'
      exact hpayload
    · cases hrun.symm.trans hrun'
    · cases hrun.symm.trans hrun'
  · rintro ⟨count, buffer, entries, rest, rfl, hcount, hlength, hread⟩
    refine ⟨rest, ?_⟩
    rw [readCerts_cons X hcount, ← hlength]
    exact readCertificates_read X hread 0

theorem readCerts_short :
    (∃ rest, readCerts X payload = .error .bufferUnderflow rest) ↔ CertsEndEarly X payload := by
  constructor
  · rintro ⟨rest, hrun⟩
    rcases readCerts_ends X payload with ⟨certificates, rest', -, hrun'⟩ | ⟨hshort, -⟩ |
      ⟨message, rest', hrun'⟩
    · cases hrun.symm.trans hrun'
    · exact hshort
    · cases hrun.symm.trans hrun'
  · rintro (rfl | ⟨count, buffer, entries, tail, certificates, rfl, hcount, hlength, hread, hends⟩)
    · exact ⟨[], rfl⟩
    · -- the loop comes to the entry that is cut off
      obtain ⟨n, hn⟩ := Nat.exists_eq_add_of_lt hlength
      rw [readCerts_cons X hcount, hn, Nat.add_assoc, readCertificates_read X hread (n + 1)]
      exact readCertificates_endsInside X n hends

end ConnectionHandshakeV3

end Orchid
