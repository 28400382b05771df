import Orchid.Directory.KeyCertificate
import Orchid.Directory.LineEscapes

/-!
# Orchid — documents from which an exception escapes

For key certificates, router descriptors and microdescriptors, the keyword lines at which an
exception leaves `parse`. A `Hazard` is a property of the line, of the lines behind it and of the
document as far as it has been read, and each keyword has its own.

* `KeyCertificateParser.processKeywordLine_escapes`, `RouterDescriptorParser.…`,
  `RouterMicrodescriptorParser.…`: an exception escapes from a line exactly if it is a hazard.
* **`parse_returns`**, for each parser: `parse` returns if no line it comes to is a hazard.
-/

namespace Orchid

open Prog ArgM

variable {α : Type}

/-- One argument is taken. -/
theorem raises_getItem_bind (f : JString → ArgM α) (items : List JString) :
    Raises Reported ((getItem >>= f) items) ↔
      ∃ item rest, items = item :: rest ∧ Raises Reported (f item rest) := by
  rw [raises_stateT_bind]
  cases items with
  | nil =>
    rw [getItem_nil]
    simp
  | cons item rest =>
    rw [getItem_cons]
    simp

theorem raises_bind_harmless {β : Type} {x : ArgM α} {f : α → ArgM β} (hf : ∀ a, Harmless (f a))
    (items : List JString) :
    Raises Reported ((x >>= f) items) ↔ Raises Reported (x items) := by
  rw [raises_stateT_bind]
  constructor
  · rintro (hx | ⟨a, rest, -, hrest⟩)
    · exact hx
    · exact absurd hrest (hf a rest)
  · intro hx
    exact Or.inl hx

/-! ## Key certificates -/

namespace KeyCertificateParser

variable (P : Platform)

/-- Keys that a cross signature cannot be checked with. -/
def CrossHazard (c : KeyCertificate) (signature : TorSignature) : Prop :=
  match c.identityKey with
  | none => True
  | some identityKey =>
    Raises Reported (P.pkcs1Encoded identityKey) ∨
      (∃ encoded, P.pkcs1Encoded identityKey = .ok encoded) ∧
        (c.signingKey = none ∨ ∃ signingKey e, c.signingKey = some signingKey ∧
          P.rsaDecrypt signingKey signature.signatureBytes = .error e)

theorem verifyCrossSignature_escapes (signature : TorSignature)
    (h : HandlerState CertificateParser) :
    Escapes Reported (verifyCrossSignature P signature) h ↔
      CrossHazard P h.document.currentCertificate signature := by
  unfold verifyCrossSignature CrossHazard
  rw [escapes_bind_of_ok (get_run h)]
  dsimp only
  cases h.document.currentCertificate.identityKey with
  | none => exact iff_of_true ⟨_, _, rfl, id⟩ trivial
  | some identityKey =>
    have hkey : ∀ signingKey : TorPublicKey, ∀ digest : List UInt8, Escapes Reported
        (fromExcept (signingKey.verifySignature P signature digest) >>=
          fun verified => if (!verified) = true then
            throw (.torParsing (lit "Cross signature on certificate failed.")) else pure () :
          HandlerM CertificateParser Unit) h ↔
        ∃ e, P.rsaDecrypt signingKey signature.signatureBytes = .error e := by
      intro signingKey digest
      rw [escapes_bind_contained (fun _ => Contained.ite
        (Contained.throw (reported_torParsing _)) (Contained.pure _)), escapes_fromExcept,
        verifySignature_raises]
    have hencoded : (∃ fingerprint, identityKey.getFingerprint P = .ok fingerprint) ↔
        ∃ encoded, P.pkcs1Encoded identityKey = .ok encoded := by
      simp [TorPublicKey.getFingerprint, except_bind_eq_ok, pure, Except.pure]
    have hfingerprint : Raises Reported (identityKey.getFingerprint P) ↔
        Raises Reported (P.pkcs1Encoded identityKey) := by
      rw [TorPublicKey.getFingerprint, raises_bind]
      simp
    dsimp only
    rw [escapes_fromExcept_bind, hfingerprint, ← hencoded]
    apply or_congr Iff.rfl
    cases h.document.currentCertificate.signingKey with
    | none => simp [Reported]
    | some signingKey =>
      simp only [hkey]
      simp

theorem finishCertificate_escapes (signature : TorSignature) (h : HandlerState CertificateParser) :
    Escapes Reported (finishCertificate P signature) h ↔
      Unverifiable P h.document.currentCertificate.identityKey h.recorder.signatureDigest
        signature := by
  have hstart : Contained Reported startNewCertificate :=
    (contained_onRecorder _).bind fun _ =>
      (contained_onRecorder _).bind fun _ => contained_onDocument _
  unfold finishCertificate
  rw [escapes_bind_contained]
  · unfold verifyCurrentCertificate
    rw [escapes_bind_of_ok (get_run h)]
    rw [escapes_bind_contained, verifySignedEntity_escapes]
    intro verified
    refine ((contained_onDocument _).bind fun _ => Contained.pure _).ite ?_
    refine (contained_onDocument _).bind fun _ => Contained.get.bind fun s => ?_
    refine Contained.ite ?_ (Contained.pure _)
    exact (contained_onDocument _).bind fun _ => Contained.pure _
  · intro valid
    refine (Contained.get.bind fun s => ?_).ite hstart
    exact (contained_onDocument _).bind fun _ =>
      (contained_onDocument _).bind fun _ => hstart

/-- The address of a `dir-address` line has too many octets. -/
def AddressHazard (items : List JString) : Prop :=
  ∃ item rest address port, items = item :: rest ∧ split ':' item = [address, port] ∧
    FiveOctets address

theorem processDirectoryAddress_raises (items : List JString) :
    Raises Reported (processDirectoryAddress items) ↔ AddressHazard items := by
  refine (raises_getItem_bind _ items).trans ?_
  constructor
  · rintro ⟨item, rest, rfl, hraises⟩
    generalize hsplit : split ':' item = parts at hraises
    rcases parts with _ | ⟨address, _ | ⟨port, _ | ⟨_, _⟩⟩⟩
    · exact absurd hraises (Harmless.throw _ _)
    · exact absurd hraises (Harmless.throw _ _)
    · refine ⟨item, rest, address, port, rfl, hsplit, ?_⟩
      have haddress := (raises_bind_harmless (fun _ => (Harmless.parsePortOf port).bind
        fun _ => Harmless.pure _) rest).mp hraises
      exact (createFromString_address address).2.mp ((raises_stateT_lift _).mp haddress)
    · exact absurd hraises (Harmless.throw _ _)
  · rintro ⟨item, rest, address, port, rfl, hsplit, hfive⟩
    refine ⟨item, rest, rfl, ?_⟩
    rw [hsplit]
    refine (raises_stateT_bind _ _).mpr (Or.inl ?_)
    exact (raises_stateT_lift _).mpr ((createFromString_address address).2.mpr hfive)

/-- The lines of a key certificate at which an exception escapes. -/
def Hazard (s : ParserState CertificateParser) : Prop :=
  match KeyCertificateKeyword.findKeyword s.cursor.currentKeyword with
  | .DIR_ADDRESS => AddressHazard s.cursor.currentItems
  | .FINGERPRINT => Stumbles P [.hexDigest] s.cursor.currentItems
  | .DIR_IDENTITY_KEY | .DIR_SIGNING_KEY => NoObject s.cursor.inputLines
  | .DIR_KEY_CROSSCERT =>
    NoSignature s.cursor.inputLines ∨ ∃ signature, SignatureAt s.cursor.inputLines signature ∧
      CrossHazard P s.handler.document.currentCertificate signature
  | .DIR_KEY_CERTIFICATION =>
    NoSignature s.cursor.inputLines ∨ ∃ signature, SignatureAt s.cursor.inputLines signature ∧
      Unverifiable P s.handler.document.currentCertificate.identityKey
        s.handler.recorder.signatureDigest signature
  | _ => False

theorem processCertificateVersion_harmless : Harmless processCertificateVersion :=
  Harmless.parseInteger.bind fun _ => (Harmless.throw _).ite (Harmless.pure _)

theorem processKeywordLine_escapes (s : ParserState CertificateParser) :
    Escapes Reported (processKeywordLine P) s ↔ Hazard P s := by
  unfold processKeywordLine Hazard
  rw [escapes_getCurrentKeyword_bind]
  have hset : ∀ f : KeyCertificate → KeyCertificate,
      Contained Reported (handle (setCertificate f)) :=
    fun f => contained_handle (contained_onDocument _)
  cases KeyCertificateKeyword.findKeyword s.cursor.currentKeyword with
  | DIR_KEY_CERTIFICATE_VERSION =>
    exact iff_of_false (processCertificateVersion_harmless.contained s) id
  | DIR_ADDRESS =>
    refine (escapes_bind_contained (fun _ => hset _) s).trans ?_
    rw [escapes_read_args]
    exact processDirectoryAddress_raises _
  | FINGERPRINT =>
    refine (escapes_bind_contained (fun _ => hset _) s).trans ?_
    rw [escapes_read_args, (hexDigest_reader (P := P)).escapes]
    simp [Stumbles]
  | DIR_IDENTITY_KEY | DIR_SIGNING_KEY =>
    refine (escapes_bind_contained (fun _ => hset _) s).trans ?_
    rw [escapes_read, parsePublicKey_escapes]
  | DIR_KEY_PUBLISHED | DIR_KEY_EXPIRES =>
    exact iff_of_false (Contained.bind (Harmless.parseTimestamp P).contained (fun _ => hset _) s) id
  | DIR_KEY_CROSSCERT =>
    exact escapes_signature (verifyCrossSignature_escapes P) (fun _ _ _ => Iff.rfl) s
  | DIR_KEY_CERTIFICATION =>
    have hend : handle (onRecorder Recorder.endSignedEntity) s = .ok ()
        { s with handler := { s.handler with recorder := s.handler.recorder.endSignedEntity } } := rfl
    refine (escapes_bind_of_ok hend).trans ?_
    refine escapes_signature (finishCertificate_escapes P) ?_ _
    intro signature h ls
    unfold Unverifiable
    rw [recordLines_signatureDigest]
  | UNKNOWN_KEYWORD => exact iff_of_false (escapes_pure _ s) id

/-- The state a parse begins with, behind `startNewCertificate`. -/
def startState (input : List UInt8) : ParserState CertificateParser :=
  ⟨⟨lines input, [], []⟩, ⟨({ } : Recorder).resetRawDocument.startSignedEntity, { }⟩⟩

/-- **Key certificates.** -/
theorem parse_returns (input : List UInt8) :
    (∃ b s', parse P ⟨⟨lines input, [], []⟩, ⟨{ }, { }⟩⟩ = .ok b s') ↔
      ∀ s', LineReached false (processKeywordLine P) (startState input) s' → ¬ Hazard P s' := by
  have hfront : Front unreadLines (processKeywordLine P) := by
    rw [processKeywordLine_eq_format]
    exact Format.parseKeywordLine_front _
  exact parse_returns_iff hfront (fun s' _ => processKeywordLine_escapes P s')
    fun s' _ => contained_handle (Contained.pure _) s'

end KeyCertificateParser

/-! ## What both kinds of descriptors check first -/

/-- The line has as many arguments as its keyword takes. -/
def CountExpected (expected : Option Nat) (items : List JString) : Prop :=
  ∀ n, expected = some n → items.length = n

theorem verifyExpectedArgumentCount_eq_ok (keyword : JString) (expected : Option Nat)
    (items : List JString) :
    (CountExpected expected items ∧
        verifyExpectedArgumentCount keyword expected items = .ok ((), items)) ∨
      (¬ CountExpected expected items ∧
        ∃ message, verifyExpectedArgumentCount keyword expected items =
          .error (.torParsing message)) := by
  cases expected with
  | none => exact Or.inl ⟨nofun, rfl⟩
  | some n =>
    have hcount : CountExpected (some n) items ↔ items.length = n := by
      simp [CountExpected]
    have hrun : verifyExpectedArgumentCount keyword (some n) items =
        (if items.length < n then throw _ >>= _ else if items.length > n then throw _ else pure ()
          : ArgM Unit) items := rfl
    rw [hcount, hrun]
    rcases Nat.lt_trichotomy items.length n with hless | hequal | hmore
    · rw [if_pos hless]
      exact Or.inr ⟨by omega, _, rfl⟩
    · rw [if_neg (by omega), if_neg (by omega)]
      exact Or.inl ⟨hequal, rfl⟩
    · rw [if_neg (by omega), if_pos hmore]
      exact Or.inr ⟨by omega, _, rfl⟩

/-- A line with another number of arguments is reported before it is looked at. -/
theorem escapes_verifyExpectedArgumentCount {δ : Type} (keyword : JString) (expected : Option Nat)
    (x : ParserM δ Unit) (s : ParserState δ) :
    Escapes Reported (read (args (verifyExpectedArgumentCount keyword expected)) >>= fun _ => x) s ↔
      CountExpected expected s.cursor.currentItems ∧ Escapes Reported x s := by
  rcases verifyExpectedArgumentCount_eq_ok keyword expected s.cursor.currentItems with
    ⟨hcount, hok⟩ | ⟨hcount, message, herror⟩
  · have hread : (read (args (verifyExpectedArgumentCount keyword expected)) :
        ParserM δ Unit) s = .ok () s := by
      have htaken : taken s.cursor.inputLines s.cursor.inputLines = [] := taken_append [] _
      simp only [read, args, hok, HandlerState.recordTaken, htaken]
      rfl
    rw [escapes_bind_of_ok hread]
    simp [hcount]
  · refine iff_of_false ?_ fun h => hcount h.1
    rw [escapes_bind, escapes_read_args, herror]
    rintro (hraises | ⟨a, s', hread, -⟩)
    · simp at hraises
    · simp only [read, args, herror] at hread
      cases hread

/-- An argument that should be base64 data. -/
def DataHazard (items : List JString) : Prop :=
  ∃ item rest, items = item :: rest ∧ UndecodableData item

/-- Data is read, and what is then done with it is harmless. -/
theorem raises_parseBase64Data_bind {f : List UInt8 → ArgM α} (hf : ∀ bytes, Harmless (f bytes))
    (items : List JString) :
    Raises Reported ((parseBase64Data >>= f) items) ↔ DataHazard items := by
  rw [raises_bind_harmless hf]
  refine (raises_getItem_bind _ items).trans ?_
  refine exists_congr fun item => exists_congr fun rest => and_congr Iff.rfl ?_
  exact (raises_stateT_lift _).trans (decodeData_raises item)

theorem parseNtorPublicKey_raises (items : List JString) :
    Raises Reported (parseNtorPublicKey items) ↔ DataHazard items :=
  raises_parseBase64Data_bind (fun _ => Harmless.check fun _ => Harmless.pure _) items

/-- A list of accepted or rejected ports with a reversed range in it. -/
def PortsHazard (items : List JString) : Prop :=
  ∃ kind ports rest, items = kind :: ports :: rest ∧
    (kind = lit "accept" ∨ kind = lit "reject") ∧ ReversedPorts ports

/-- A kind of rule and a list of ports are read; another kind is passed over. -/
theorem raises_ports {accept reject : ExitPorts → ArgM α} {other : ArgM α}
    (haccept : ∀ ports, Harmless (accept ports)) (hreject : ∀ ports, Harmless (reject ports))
    (hother : Harmless other) (items : List JString) :
    Raises Reported ((getItem >>= fun kind =>
      if kind = lit "accept" then
        getItem >>= fun ports => (liftM (ExitPorts.create true ports) : ArgM _) >>= accept
      else if kind = lit "reject" then
        getItem >>= fun ports => (liftM (ExitPorts.create false ports) : ArgM _) >>= reject
      else other) items) ↔ PortsHazard items := by
  have hports : ∀ (acceptPorts : Bool) (f : ExitPorts → ArgM α) (rest : List JString),
      (∀ ports, Harmless (f ports)) →
      (Raises Reported ((getItem >>= fun ports =>
        (liftM (ExitPorts.create acceptPorts ports) : ArgM _) >>= f) rest) ↔
        ∃ ports rest', rest = ports :: rest' ∧ ReversedPorts ports) := by
    intro acceptPorts f rest hf
    refine (raises_getItem_bind _ rest).trans ?_
    simp only [raises_bind_harmless hf, raises_stateT_lift, exitPorts_raises]
  have hhazard : PortsHazard items ↔ ∃ kind rest, items = kind :: rest ∧
      (kind = lit "accept" ∨ kind = lit "reject") ∧
        ∃ ports rest', rest = ports :: rest' ∧ ReversedPorts ports := by
    constructor
    · rintro ⟨kind, ports, rest, rfl, hkind, hreversed⟩
      exact ⟨kind, _, rfl, hkind, ports, rest, rfl, hreversed⟩
    · rintro ⟨kind, _, rfl, hkind, ports, rest, rfl, hreversed⟩
      exact ⟨kind, ports, rest, rfl, hkind, hreversed⟩
  rw [raises_getItem_bind, hhazard]
  refine exists_congr fun kind => exists_congr fun rest => and_congr Iff.rfl ?_
  split
  · simp [hports true accept rest haccept, *]
  · split
    · simp [hports false reject rest hreject, *]
    · simp [hother rest, *]

/-! ## Router descriptors -/

namespace RouterDescriptorParser

variable (P : Platform) (verifySignatures : Bool)

/-- The arguments of a `fingerprint` line in one string. -/
def concatenated (items : List JString) : JString :=
  items.foldl (fun result item =>
    (if result.length > 0 then result ++ lit " " else result) ++ item) []

/-- An exit rule of which something escapes. -/
def RuleHazard (items : List JString) : Prop :=
  ∃ rule rest, items = rule :: rest ∧ EscapingRule rule

/-- A history whose interval is an empty argument, of which `substring(1)` cannot be taken. -/
def HistoryHazard (items : List JString) : Prop :=
  ∃ unit rest, Field.timestamp.Reads P items ([] :: unit :: rest)

variable (items : List JString)

theorem parseFingerprint_raises :
    Raises Reported (parseFingerprint items) ↔ ¬ DigestText (concatenated items) :=
  (raises_stateT_lift _).trans (createFromString_raises _)

theorem parseRule_raises (isAccept : Bool) (items : List JString) :
    Raises Reported (parseRule isAccept items) ↔ RuleHazard items := by
  refine (raises_getItem_bind _ items).trans ?_
  simp only [raises_stateT_lift, createRule_raises]
  rfl

theorem substring_raises (nsec : JString) :
    Raises Reported (substring nsec 1 nsec.length) ↔ nsec = [] := by
  unfold substring
  cases nsec with
  | nil => simp [Reported]
  | cons c cs => simp

theorem parseHistory_raises : Raises Reported (parseHistory P items) ↔ HistoryHazard P items := by
  -- behind the two arguments only the empty interval matters
  have hinterval : ∀ (ts : Int) (nsec : JString) (rest : List JString), Raises Reported ((do
      let interval ← parseIntegerOf (← substring nsec 1 nsec.length)
      if (← argumentsRemaining) = 0 then return ⟨ts, interval, []⟩
      let samples ← (split ',' (← parseString)).mapM parseIntegerOf
      return ⟨ts, interval, samples⟩ : ArgM BandwidthHistory) rest) ↔ nsec = [] := by
    intro ts nsec rest
    refine (raises_bind_harmless (fun _ => ?_) rest).trans
      ((raises_stateT_lift _).trans (substring_raises nsec))
    refine (Harmless.parseIntegerOf _).bind fun _ => ?_
    refine Harmless.argumentsRemaining.bind fun _ => ?_
    refine (Harmless.pure _).ite ?_
    refine Harmless.getItem.bind fun _ => ?_
    exact (Harmless.mapM Harmless.parseIntegerOf _).bind fun _ => Harmless.pure _
  unfold parseHistory HistoryHazard
  rw [raises_stateT_bind, (timestamp_reader (P := P)).escapes]
  simp only [show parseString = getItem from rfl, raises_getItem_bind] at hinterval ⊢
  simp only [hinterval]
  constructor
  · rintro (hnever | ⟨ts, _, hts, _, _, rfl, unit, rest, rfl, rfl⟩)
    · exact hnever.elim
    · exact ⟨unit, rest, (timestamp_reader.reads items _).mp ⟨ts, hts⟩⟩
  · rintro ⟨unit, rest, hreads⟩
    obtain ⟨ts, hts⟩ := (timestamp_reader.reads items _).mpr hreads
    exact Or.inr ⟨ts, _, hts, [], _, rfl, unit, rest, rfl, rfl⟩

theorem takeLinkVersions_harmless : Harmless takeLinkVersions := by
  intro items
  induction items with
  | nil => simp [takeLinkVersions]
  | cons kw items ih =>
    unfold takeLinkVersions
    split
    · simp
    · cases parseInt kw with
      | none => simp
      | some version =>
        show ¬ Raises Reported (takeLinkVersions items >>= _)
        rw [raises_bind]
        simp [ih]

theorem parseProtocols_harmless : Harmless parseProtocols := by
  refine Harmless.getItem.bind fun kw => Harmless.check fun _ => ?_
  refine takeLinkVersions_harmless.bind fun _ => ?_
  refine Harmless.remainingItems.bind fun _ => ?_
  exact (Harmless.mapM Harmless.parseIntegerOf _).bind fun _ => Harmless.pure _

theorem parseBandwidthArgs_harmless : Harmless parseBandwidthArgs :=
  Harmless.parseInteger.bind fun _ => Harmless.parseInteger.bind fun _ =>
    Harmless.parseInteger.bind fun _ => Harmless.pure _

theorem parseRouterArgs_raises :
    Raises Reported (parseRouterArgs items) ↔
      Stumbles P [.text, .address, .port, .port, .port] items := by
  refine text_reader.bind (fun nickname => ?_) items
  refine address_reader.bind (fun address => ?_)
  refine port_reader.bind (fun routerPort => ?_)
  refine port_reader.bind (fun _ => ?_)
  exact port_reader.bind (fun directoryPort => stumbles_pure _)

theorem setDescriptor_run (f : RouterDescriptor → RouterDescriptor)
    (h : HandlerState RouterParser) :
    setDescriptor f h = .ok () { h with
      document := { h.document with currentDescriptor := f h.document.currentDescriptor } } := rfl

theorem setDescriptor_contained (f : RouterDescriptor → RouterDescriptor) :
    Contained Reported (setDescriptor f) := contained_onDocument _

theorem setDescriptorHash_run (h : HandlerState RouterParser) :
    setDescriptorHash P h = (match h.recorder.signatureDigest with
      | none => throw .nullPointer
      | some digest => setDescriptor fun d =>
        { d with descriptorDigest := some (digest.getHexDigest P) } : HandlerM RouterParser Unit)
      { h with recorder := h.recorder.endSignedEntity } := rfl

theorem verifyCurrentDescriptor_escapes (signature : TorSignature) (h : HandlerState RouterParser) :
    Escapes Reported (verifyCurrentDescriptor P verifySignatures signature) h ↔
      verifySignatures = true ∧ Unverifiable P h.document.currentDescriptor.identityKey
        h.recorder.signatureDigest signature := by
  -- once the signature is checked nothing escapes
  have hbehind : ∀ verified : Bool, Contained Reported (do
      if !verified then
        documentInvalid (lit "Signature failed.")
        return false
      setDescriptor fun d => { d with hasValidSignature := true }
      let isValid := (← get).document.currentDescriptor.isValidDocument
      if !isValid then documentInvalid (lit "Router data invalid")
      return isValid : HandlerM RouterParser Bool) := by
    intro verified
    refine ((contained_onDocument _).bind fun _ => Contained.pure _).ite ?_
    refine (contained_onDocument _).bind fun _ => Contained.get.bind fun s => ?_
    refine Contained.ite ?_ (Contained.pure _)
    exact (contained_onDocument _).bind fun _ => Contained.pure _
  unfold verifyCurrentDescriptor
  rw [escapes_bind_of_ok (get_run h)]
  cases verifySignatures with
  | false =>
    refine iff_of_false ?_ (by simp)
    exact (Contained.pure true).bind hbehind h
  | true =>
    refine (escapes_bind_contained hbehind h).trans ?_
    rw [verifySignedEntity_escapes]
    simp

theorem finishDescriptor_escapes (signature : TorSignature) (h : HandlerState RouterParser) :
    Escapes Reported (finishDescriptor P verifySignatures signature) h ↔
      verifySignatures = true ∧ Unverifiable P h.document.currentDescriptor.identityKey
        h.recorder.signatureDigest signature := by
  have hstart : Contained Reported startNewDescriptor :=
    (contained_onRecorder _).bind fun _ =>
      (contained_onRecorder _).bind fun _ => contained_onDocument _
  unfold finishDescriptor
  rw [escapes_bind_of_ok (get_run h)]
  rw [escapes_bind_of_ok (setDescriptor_run _ h), escapes_bind_contained,
    verifyCurrentDescriptor_escapes]
  intro valid
  exact ((contained_onDocument _).bind fun _ => hstart).ite hstart

/-- A descriptor is signed, but there is no digest, no signature or no key to check it. -/
def SignatureHazard (s : ParserState RouterParser) : Prop :=
  s.handler.recorder.signatureDigest.isSome = false ∨ NoSignature s.cursor.inputLines ∨
    ∃ signature, SignatureAt s.cursor.inputLines signature ∧ verifySignatures = true ∧
      Unverifiable P s.handler.document.currentDescriptor.identityKey
        s.handler.recorder.signatureDigest signature

theorem processSignature_escapes (s : ParserState RouterParser) :
    Escapes Reported (processSignature P verifySignatures) s ↔
      SignatureHazard P verifySignatures s := by
  unfold processSignature SignatureHazard
  cases hdigest : s.handler.recorder.signatureDigest with
  | none =>
    refine iff_of_true ?_ (Or.inl rfl)
    rw [escapes_bind, escapes_handle]
    unfold Escapes
    rw [setDescriptorHash_run, hdigest]
    exact Or.inl ⟨.nullPointer, _, rfl, id⟩
  | some digest =>
    have hhash : ∃ s₁, handle (setDescriptorHash P) s = .ok () s₁ ∧ s₁.cursor = s.cursor ∧
        s₁.handler.recorder.signatureDigest = some digest ∧
        s₁.handler.document.currentDescriptor.identityKey =
          s.handler.document.currentDescriptor.identityKey := by
      unfold handle
      rw [setDescriptorHash_run, hdigest]
      exact ⟨_, rfl, rfl, hdigest, rfl⟩
    obtain ⟨s₁, hrun, hcursor, hdigest₁, hidentity⟩ := hhash
    rw [escapes_bind_of_ok hrun]
    rw [escapes_signature (finishDescriptor_escapes P verifySignatures), hcursor, hdigest₁,
      hidentity]
    · simp
    · intro signature h ls
      unfold Unverifiable
      rw [recordLines_signatureDigest]

/-- What the keywords of a router descriptor let escape. -/
def ArgsHazard (keyword : RouterDescriptorKeyword) (s : ParserState RouterParser) : Prop :=
  match keyword with
  | .ROUTER => Stumbles P [.text, .address, .port, .port, .port] s.cursor.currentItems
  | .FINGERPRINT => ¬ DigestText (concatenated s.cursor.currentItems)
  | .ONION_KEY | .SIGNING_KEY => NoObject s.cursor.inputLines
  | .NTOR_ONION_KEY => DataHazard s.cursor.currentItems
  | .ACCEPT | .REJECT => RuleHazard s.cursor.currentItems
  | .EXTRA_INFO_DIGEST => Stumbles P [.hexDigest] s.cursor.currentItems
  | .READ_HISTORY | .WRITE_HISTORY => HistoryHazard P s.cursor.currentItems
  | .ROUTER_SIGNATURE => SignatureHazard P verifySignatures s
  | _ => False

/-- The lines of a router descriptor at which an exception escapes. -/
def Hazard (s : ParserState RouterParser) : Prop :=
  let keyword := RouterDescriptorKeyword.findKeyword s.cursor.currentKeyword
  CountExpected keyword.getArgumentCount s.cursor.currentItems ∧
    ArgsHazard P verifySignatures keyword s

theorem escapes_store (x : ArgM α) (f : α → RouterDescriptor → RouterDescriptor)
    (s : ParserState RouterParser) :
    Escapes Reported (store x f) s ↔ Raises Reported (x s.cursor.currentItems) := by
  unfold store
  rw [escapes_bind_contained (fun _ => contained_handle (setDescriptor_contained _)),
    escapes_read_args]

theorem store_contained {x : ArgM α} (hx : Harmless x)
    (f : α → RouterDescriptor → RouterDescriptor) : Contained Reported (store x f) := by
  intro s h
  exact hx _ ((escapes_store x f s).mp h)

theorem processKeywordArgs_escapes (keyword : RouterDescriptorKeyword)
    (s : ParserState RouterParser) :
    Escapes Reported (processKeywordArgs P verifySignatures keyword) s ↔
      ArgsHazard P verifySignatures keyword s := by
  have hset : ∀ f, Contained Reported (handle (setDescriptor f)) :=
    fun f => contained_handle (setDescriptor_contained f)
  have hkey : ∀ f : TorPublicKey → RouterDescriptor → RouterDescriptor,
      Escapes Reported (read parsePublicKey >>= fun key => handle (setDescriptor (f key))) s ↔
        NoObject s.cursor.inputLines := by
    intro f
    rw [escapes_bind_contained (fun _ => hset _), escapes_read, parsePublicKey_escapes]
  cases keyword with
  | ROUTER => exact (escapes_store _ _ s).trans (parseRouterArgs_raises P _)
  | BANDWIDTH => exact iff_of_false (store_contained parseBandwidthArgs_harmless _ s) id
  | PLATFORM | CONTACT =>
    exact iff_of_false (store_contained Harmless.parseConcatenatedString _ s) id
  | PUBLISHED => exact iff_of_false (store_contained (Harmless.parseTimestamp P) _ s) id
  | FINGERPRINT => exact (escapes_store _ _ s).trans (parseFingerprint_raises _)
  | HIBERNATING | EVENTDNS => exact iff_of_false (store_contained Harmless.parseBoolean _ s) id
  | UPTIME => exact iff_of_false (store_contained Harmless.parseInteger _ s) id
  | ONION_KEY => exact hkey fun key d => { d with onionKey := some key }
  | NTOR_ONION_KEY => exact (escapes_store _ _ s).trans (parseNtorPublicKey_raises _)
  | SIGNING_KEY => exact hkey fun key d => { d with identityKey := some key }
  | ACCEPT => exact (escapes_store _ _ s).trans (parseRule_raises true _)
  | REJECT => exact (escapes_store _ _ s).trans (parseRule_raises false _)
  | ROUTER_SIGNATURE => exact processSignature_escapes P verifySignatures s
  | FAMILY => exact iff_of_false (store_contained Harmless.remainingItems _ s) id
  | READ_HISTORY | WRITE_HISTORY => exact (escapes_store _ _ s).trans (parseHistory_raises P _)
  | CACHES_EXTRA_INFO | HIDDEN_SERVICE_DIR | ALLOW_SINGLE_HOP_EXITS =>
    unfold processKeywordArgs
    exact iff_of_false (hset _ s) id
  | EXTRA_INFO_DIGEST =>
    refine (escapes_store _ _ s).trans ?_
    rw [(hexDigest_reader (P := P)).escapes]
    simp [ArgsHazard, Stumbles]
  | PROTOCOLS => exact iff_of_false (store_contained parseProtocols_harmless _ s) id
  | UNKNOWN_KEYWORD => exact iff_of_false (escapes_pure _ s) id

theorem processKeywordLine_escapes (s : ParserState RouterParser) :
    Escapes Reported (processKeywordLine P verifySignatures) s ↔ Hazard P verifySignatures s := by
  unfold processKeywordLine Hazard
  rw [escapes_getCurrentKeyword_bind]
  dsimp only
  split
  · unfold processKeyword
    rw [escapes_verifyExpectedArgumentCount, processKeywordArgs_escapes]
  · rename_i hunknown
    rw [not_not.mp hunknown]
    exact iff_of_false (escapes_pure _ s) fun h => h.2

/-- The state a parse begins with, behind `startNewDescriptor`. -/
def startState (input : List UInt8) : ParserState RouterParser :=
  ⟨⟨lines input, [], []⟩, ⟨({ } : Recorder).resetRawDocument.startSignedEntity, { }⟩⟩

/-- **Router descriptors.** -/
theorem parse_returns (input : List UInt8) :
    (∃ b s', parse P verifySignatures ⟨⟨lines input, [], []⟩, ⟨{ }, { }⟩⟩ = .ok b s') ↔
      ∀ s', LineReached true (processKeywordLine P verifySignatures) (startState input) s' →
        ¬ Hazard P verifySignatures s' := by
  refine parse_returns_iff (processKeywordLine_front P verifySignatures) (fun s' _ => ?_) ?_
  · exact processKeywordLine_escapes P verifySignatures s'
  · exact fun s' _ => contained_handle (Contained.pure _) s'

end RouterDescriptorParser

/-! ## Microdescriptors -/

namespace RouterMicrodescriptorParser

variable (P : Platform)

/-- A descriptor without its text is about to be finished. -/
def TextMissing (s : ParserState MicrodescriptorParser) : Prop :=
  ∃ descriptor, s.handler.document.currentDescriptor = some descriptor ∧
    descriptor.rawDocumentData = none

variable {s : ParserState MicrodescriptorParser}

/-- With its text the descriptor is finished. -/
theorem finalizeCurrent_ok (htext : ¬ TextMissing s) :
    ∃ h', finalizeCurrent P s.handler = .ok () h' := by
  unfold finalizeCurrent
  rw [get_bind_run]
  cases hcurrent : s.handler.document.currentDescriptor with
  | none => exact ⟨_, rfl⟩
  | some descriptor =>
    cases hraw : descriptor.rawDocumentData with
    | none => exact absurd ⟨descriptor, hcurrent, hraw⟩ htext
    | some raw =>
      dsimp only
      rw [hraw]
      exact ⟨_, rfl⟩

theorem finalizeCurrent_escapes (s : ParserState MicrodescriptorParser) :
    Escapes Reported (finalizeCurrent P) s.handler ↔ TextMissing s := by
  by_cases htext : TextMissing s
  · refine iff_of_true ?_ htext
    obtain ⟨descriptor, hcurrent, hraw⟩ := htext
    unfold finalizeCurrent
    rw [escapes_bind_of_ok (get_run s.handler)]
    rw [hcurrent]
    dsimp only
    rw [hraw]
    simp [Reported]
  · obtain ⟨h', hrun⟩ := finalizeCurrent_ok P htext
    exact iff_of_false (escapes_of_ok hrun) htext

/-- Then the next one is begun. -/
theorem startDescriptor_ok (htext : ¬ TextMissing s) :
    ∃ s', handle (startDescriptor P) s = .ok () s' ∧ s'.cursor = s.cursor := by
  obtain ⟨h', hrun⟩ := finalizeCurrent_ok P htext
  unfold handle startDescriptor
  rw [bind_of_ok hrun]
  exact ⟨_, rfl, rfl⟩

theorem setDescriptor_contained (f : RouterMicrodescriptor → RouterMicrodescriptor) :
    Contained Reported (setDescriptor f) := contained_onDocument _

theorem processOnionKeyLine_escapes (htext : ¬ TextMissing s) :
    Escapes Reported (processOnionKeyLine P) s ↔ NoObject s.cursor.inputLines := by
  unfold processOnionKeyLine
  obtain ⟨s', hrun, hcursor⟩ := startDescriptor_ok P htext
  rw [escapes_bind_of_ok hrun,
    escapes_bind_contained (fun _ => contained_handle (setDescriptor_contained _)), escapes_read,
    parsePublicKey_escapes, hcursor]

theorem parsePortsArgs_raises (items : List JString) :
    Raises Reported (parsePortsArgs items) ↔ PortsHazard items :=
  raises_ports (fun _ => Harmless.pure _) (fun _ => Harmless.pure _) (Harmless.pure _) items

/-- What the keywords of a microdescriptor let escape; outside a descriptor only the one that opens
it is looked at. -/
def ArgsHazard (keyword : RouterMicrodescriptorKeyword)
    (s : ParserState MicrodescriptorParser) : Prop :=
  match keyword with
  | .ONION_KEY => NoObject s.cursor.inputLines
  | .NTOR_ONION_KEY =>
    s.handler.document.currentDescriptor.isSome = true ∧ DataHazard s.cursor.currentItems
  | .P => s.handler.document.currentDescriptor.isSome = true ∧ PortsHazard s.cursor.currentItems
  | _ => False

/-- The lines of a microdescriptor at which an exception escapes. -/
def Hazard (s : ParserState MicrodescriptorParser) : Prop :=
  let keyword := RouterMicrodescriptorKeyword.findKeyword s.cursor.currentKeyword
  CountExpected keyword.getArgumentCount s.cursor.currentItems ∧ ArgsHazard keyword s

theorem escapes_store (x : ArgM α) (f : α → RouterMicrodescriptor → RouterMicrodescriptor)
    (s : ParserState MicrodescriptorParser) :
    Escapes Reported (store x f) s ↔
      s.handler.document.currentDescriptor.isSome = true ∧
        Raises Reported (x s.cursor.currentItems) := by
  unfold store
  have hcurrent : current s = .ok s.handler.document.currentDescriptor s := rfl
  rw [escapes_bind_of_ok hcurrent]
  cases s.handler.document.currentDescriptor with
  | none => simp
  | some descriptor =>
    simp only [Option.isSome_some, if_true, true_and]
    rw [escapes_bind_contained (fun _ => contained_handle (setDescriptor_contained _)),
      escapes_read_args]

theorem processKeywordArgs_escapes (keyword : RouterMicrodescriptorKeyword)
    (htext : ¬ TextMissing s) :
    Escapes Reported (processKeywordArgs P keyword) s ↔ ArgsHazard keyword s := by
  cases keyword with
  | ONION_KEY => exact processOnionKeyLine_escapes P htext
  | NTOR_ONION_KEY =>
    exact (escapes_store _ _ s).trans (and_congr Iff.rfl (parseNtorPublicKey_raises _))
  | A | UNKNOWN_KEYWORD => exact iff_of_false (escapes_pure _ s) id
  | FAMILY =>
    refine iff_of_false ?_ id
    exact fun h => Harmless.remainingItems _ ((escapes_store _ _ s).mp h).2
  | P => exact (escapes_store _ _ s).trans (and_congr Iff.rfl (parsePortsArgs_raises _))

theorem processKeywordLine_escapes (htext : ¬ TextMissing s) :
    Escapes Reported (processKeywordLine P) s ↔ Hazard s := by
  have hraw : Contained Reported (handle updateRawDocumentData) :=
    contained_handle (Contained.get.bind fun _ => setDescriptor_contained _)
  unfold processKeywordLine Hazard
  rw [escapes_getCurrentKeyword_bind]
  rw [escapes_bind_contained (fun _ => hraw)]
  unfold processKnownKeyword
  split
  · unfold processKeyword
    rw [escapes_verifyExpectedArgumentCount, processKeywordArgs_escapes P _ htext]
  · rename_i hunknown
    rw [not_not.mp hunknown]
    exact iff_of_false (escapes_pure _ s) fun h => h.2

/-- The state a parse begins with. -/
def startState (input : List UInt8) : ParserState MicrodescriptorParser :=
  ⟨⟨lines input, [], []⟩, ⟨{ }, { }⟩⟩

/-- A line leaves the current descriptor with the text so far. -/
theorem processKeywordLine_text {s' : ParserState MicrodescriptorParser}
    (h : processKeywordLine P s = .ok () s') : ¬ TextMissing s' := by
  obtain ⟨keyword, s₁, -, h⟩ := bind_eq_ok.mp h
  obtain ⟨⟨⟩, s₂, -, h⟩ := bind_eq_ok.mp h
  have hs' : s' = ⟨s₂.cursor, { s₂.handler with document :=
      { s₂.handler.document with
        currentDescriptor := s₂.handler.document.currentDescriptor.map fun d =>
          { d with rawDocumentData := some s₂.handler.recorder.rawDocumentBuffer } } }⟩ := by
    cases h
    rfl
  rintro ⟨descriptor, hcurrent, hraw⟩
  rw [hs'] at hcurrent
  obtain ⟨d, -, rfl⟩ := Option.map_eq_some_iff.mp hcurrent
  cases hraw

/-- So between two lines the text is never missing. -/
theorem reached_text {input : List UInt8}
    (h : Reached unreadLines (processKeywordLineWith false (processKeywordLine P))
      (startState input) s) : ¬ TextMissing s := by
  induction h with
  | start =>
    rintro ⟨descriptor, hcurrent, -⟩
    cases hcurrent
  | @round s₁ s₂ line rest _ _ hstep ih =>
    rw [processKeywordLineWith_run] at hstep
    cases hsplit : splitLine false line with rw [hsplit] at hstep
    | none =>
      cases hstep
      exact ih
    | some p =>
      exact processKeywordLine_text P hstep

/-- **Microdescriptors.** -/
theorem parse_returns (input : List UInt8) :
    (∃ b s', parse P (startState input) = .ok b s') ↔
      ∀ s', LineReached false (processKeywordLine P) (startState input) s' → ¬ Hazard s' := by
  refine parse_returns_iff (processKeywordLine_front P) ?_ ?_
  · rintro _ ⟨before, line, rest, keyword, items, hreached, -, -, rfl⟩
    have htext : ¬ TextMissing before := reached_text P hreached
    exact processKeywordLine_escapes P htext
  · -- the last descriptor is finished at the end, and has its text
    rintro s' ⟨hreached, -⟩
    rw [escapes_handle, finalizeCurrent_escapes]
    exact reached_text P hreached

end RouterMicrodescriptorParser

end Orchid
