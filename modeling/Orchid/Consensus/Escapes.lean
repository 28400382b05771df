import Orchid.Consensus.Parser
import Orchid.Directory.DocumentEscapes

/-!
# Orchid — consensus documents from which an exception escapes

The consensus parser hands a line to the section it is in, or to the section the line opens, and
the keywords of that section decide what can escape.

* `LineHazard` says for a section and a keyword when something escapes, `Hazard` for a line.
* **`processKeywordLine_escapes`**: an exception escapes from a line exactly if it is a hazard.
* **`documents_reported`**: `parse` of each of the four kinds of documents returns if no line it
  comes to is a hazard.
-/

namespace Orchid

open Prog RouterMicrodescriptorParser

namespace ConsensusParser

variable (P : Platform)

/-! ## Arguments -/

theorem parseBase64Digest_eq : parseBase64Digest = (ArgM.getItem >>= fun s =>
    (liftM (Base64.decodeData (padded s) >>= HexDigest.createFromDigestBytes) :
      ArgM HexDigest)) := by
  funext items
  cases items with
  | nil => rfl
  | cons s items =>
    show ((liftM (Base64.decodeData (padded s)) : ArgM _) >>= fun bytes =>
      liftM (HexDigest.createFromDigestBytes bytes)) items =
      (liftM (Base64.decodeData (padded s) >>= HexDigest.createFromDigestBytes) : ArgM _) items
    cases Base64.decodeData (padded s) with
    | error | ok => rfl

theorem base64Digest_reader : FieldReader P .base64Digest parseBase64Digest := by
  rw [parseBase64Digest_eq]
  refine reader_of_item ⟨id, fun _ => id⟩ (fun s _ => (decoded_digest _ _).2) fun s _ _ => ?_
  exact and_congr_left' (decoded_digest _ _).1

theorem parseDirSource_raises (items : List JString) :
    Raises Reported (parseDirSource items) ↔
      Stumbles P [.text, .hexDigest, .text, .address, .port, .port] items := by
  refine text_reader.bind (fun nickname => ?_) items
  refine hexDigest_reader.bind (fun identity => ?_)
  refine text_reader.bind (fun hostname => ?_)
  refine address_reader.bind (fun address => ?_)
  refine port_reader.bind (fun dirport => ?_)
  exact port_reader.bind (fun orport => stumbles_pure _)

/-- The fields of an `r` line. -/
def routerFields (microdesc : Bool) : List Field :=
  if microdesc then [.text, .base64Digest, .timestamp, .address, .port, .port]
  else [.text, .base64Digest, .base64Digest, .timestamp, .address, .port, .port]

theorem parseRouterFirstLine_raises (microdesc : Bool) (items : List JString) :
    Raises Reported (parseRouterFirstLine P microdesc items) ↔
      Stumbles P (routerFields microdesc) items := by
  have hbehind : ∀ (nickname : JString) (identity : HexDigest) (digest : Option HexDigest) items,
      Raises Reported ((do
        let publicationTime ← ArgM.parseTimestamp P
        let address ← ArgM.parseAddress
        let routerPort ← ArgM.parsePort
        let directoryPort ← ArgM.parsePort
        return { nickname := some nickname, identity := some identity, digest := digest
                 publicationTime := some publicationTime, address := some address
                 routerPort := routerPort, directoryPort := directoryPort } :
          ArgM RouterStatus) items) ↔ Stumbles P [.timestamp, .address, .port, .port] items := by
    intro nickname identity digest items
    refine timestamp_reader.bind (fun publicationTime => ?_) items
    refine address_reader.bind (fun address => ?_)
    refine port_reader.bind (fun routerPort => ?_)
    exact port_reader.bind (fun directoryPort => stumbles_pure _)
  cases microdesc with
  | true =>
    refine text_reader.bind (fun nickname => ?_) items
    exact (base64Digest_reader P).bind (fun identity items => hbehind nickname identity none items)
  | false =>
    refine text_reader.bind (fun nickname => ?_) items
    refine (base64Digest_reader P).bind (fun identity items => ?_)
    exact ((base64Digest_reader P).map some).bind
      (fun digest items => hbehind nickname identity digest items) items

/-- The fields of a `directory-signature` line: a first argument shorter than a digest is the name
of an algorithm. -/
def signatureFields : List JString → List Field
  | [] => [.text]
  | s :: _ => if s.length < TOR_DIGEST_SIZE then [.text, .hexDigest, .hexDigest]
    else [.hexDigest, .hexDigest]

/-- A digest is read, put together with a value, and another digest is read. -/
def readDigests (useSha256 : Bool) : ArgM (Bool × HexDigest × HexDigest) := do
  let identity ← ArgM.parseHexDigest
  let signingKey ← ArgM.parseHexDigest
  return (useSha256, identity, signingKey)

theorem parseSignatureArgs_cons (s : JString) (items : List JString) :
    parseSignatureArgs (s :: items) =
      if s.length < TOR_DIGEST_SIZE then
        (ArgM.getItem >>= fun s => readDigests (decide (s = lit "sha256"))) (s :: items)
      else readDigests false (s :: items) := by
  show (if s.length < TOR_DIGEST_SIZE then _ else _ : ArgM _) items = _
  split
  · show ((ArgM.parseHexDigest >>= fun identity => pure (decide (s = lit "sha256"), identity)) >>=
      fun p => _) items = readDigests (decide (s = lit "sha256")) items
    rw [bind_assoc]
    rfl
  · show (((liftM (HexDigest.createFromString s) : ArgM HexDigest) >>= fun identity =>
      pure (false, identity)) >>= fun p => _) items = _
    rw [bind_assoc]
    rfl

theorem readDigests_raises (useSha256 : Bool) (items : List JString) :
    Raises Reported (readDigests useSha256 items) ↔ Stumbles P [.hexDigest, .hexDigest] items :=
  hexDigest_reader.bind (fun _ => hexDigest_reader.bind fun _ => stumbles_pure _) items

theorem readDigests_eq_ok (useSha256 : Bool) (items : List JString) :
    (∃ b rest, readDigests useSha256 items = .ok (b, rest)) ↔
      ReadsAll P [.hexDigest, .hexDigest] items :=
  hexDigest_reader.bind_ok (fun _ => hexDigest_reader.bind_ok fun _ => readsAll_pure _) items

theorem parseSignatureArgs_spec (items : List JString) :
    (Raises Reported (parseSignatureArgs items) ↔ Stumbles P (signatureFields items) items) ∧
      ((∃ b rest, parseSignatureArgs items = .ok (b, rest)) ↔
        ReadsAll P (signatureFields items) items) := by
  cases items with
  | nil =>
    refine ⟨iff_of_false ?_ ?_, iff_of_false ?_ ?_⟩
    · show ¬ Raises Reported (.error (.torParsing _))
      simp
    · rintro (hnever | ⟨rest, hreads, -⟩)
      · exact hnever
      · exact hreads
    · rintro ⟨b, rest, h⟩
      cases h
    · rintro ⟨rest, hreads, -⟩
      exact hreads
  | cons s items =>
    rw [parseSignatureArgs_cons, signatureFields]
    by_cases hname : s.length < TOR_DIGEST_SIZE
    · rw [if_pos hname, if_pos hname]
      exact ⟨text_reader.bind (fun s => readDigests_raises P _) _,
        text_reader.bind_ok (fun s => readDigests_eq_ok P _) _⟩
    · rw [if_neg hname, if_neg hname]
      exact ⟨readDigests_raises P false _, readDigests_eq_ok P false _⟩

theorem readSignature_escapes (c : Cursor) :
    Escapes Reported readSignature c ↔
      Stumbles P (signatureFields c.currentItems) c.currentItems ∨
        ReadsAll P (signatureFields c.currentItems) c.currentItems ∧ NoSignature c.inputLines := by
  unfold readSignature
  rw [escapes_bind, escapes_args, (parseSignatureArgs_spec P _).1,
    ← (parseSignatureArgs_spec P _).2]
  apply or_congr Iff.rfl
  constructor
  · rintro ⟨a, c', hargs, hescapes⟩
    unfold args at hargs
    cases hrun : parseSignatureArgs c.currentItems with rw [hrun] at hargs
    | error e =>
      cases hargs
    | ok r =>
      cases hargs
      obtain ⟨⟨useSha256, identity, signingKey⟩, rest⟩ := r
      have hsignature := (escapes_bind_contained (fun _ => Contained.pure _) _).mp hescapes
      have hnone := (parseSignature_escapes _).mp hsignature
      exact ⟨⟨_, rest, rfl⟩, hnone⟩
  · rintro ⟨⟨b, rest, hrun⟩, hnone⟩
    refine ⟨b, { c with currentItems := rest }, ?_, ?_⟩
    · unfold args
      rw [hrun]
    · exact (escapes_bind_contained (fun _ => Contained.pure _) _).mpr
        ((parseSignature_escapes _).mpr hnone)

/-! ## The sections -/

theorem onParser_contained (f : ConsensusParser → ConsensusParser) :
    Contained Reported (onParser f) := contained_handle (contained_onDocument f)

theorem onRouterEntry_contained (f : RouterStatus → RouterStatus) :
    Contained Reported (onRouterEntry f) := onParser_contained _

variable {α : Type} {section_ : DocumentSection} {s : ParserState ConsensusParser}

variable {f : α → ConsensusM Unit}

/-- Arguments are read and something is stored. -/
theorem escapes_stored (x : ArgM α) (s : ParserState ConsensusParser)
    (hf : ∀ a, Contained Reported (f a) := by exact fun _ => onParser_contained _) :
    Escapes Reported (read (args x) >>= f) s ↔ Raises Reported (x s.cursor.currentItems) := by
  rw [escapes_bind_contained hf, escapes_read_args]

theorem stored_contained {x : ArgM α} (hx : Harmless x)
    (hf : ∀ a, Contained Reported (f a) := by exact fun _ => onParser_contained _) :
    Contained Reported (read (args x) >>= f) :=
  hx.contained.bind hf

/-- A check that is reported, in front of the rest. -/
theorem escapes_check {c : Prop} [Decidable c] {message : JString} {rest : Unit → ConsensusM Unit}
    (s : ParserState ConsensusParser) :
    Escapes Reported (if c then throw (.torParsing message) >>= rest else rest ()) s ↔
      ¬ c ∧ Escapes Reported (rest ()) s := by
  split
  · rename_i hc
    refine iff_of_false ?_ fun h => h.1 hc
    rw [escapes_bind]
    rintro (hthrow | ⟨a, s', hthrow, -⟩)
    · exact (escapes_throw _ s).mp hthrow trivial
    · cases hthrow
  · rename_i hc
    simp [hc]

theorem escapes_onParser (f : ConsensusParser → ConsensusM α) (s : ParserState ConsensusParser) :
    Escapes Reported (parser >>= f) s ↔ Escapes Reported (f s.handler.document) s :=
  escapes_bind_of_ok rfl

theorem escapes_isMicrodesc (f : Bool → ConsensusM α) (s : ParserState ConsensusParser) :
    Escapes Reported (isMicrodesc >>= f) s ↔
      Escapes Reported (f (s.handler.document.document.flavor = some .MICRODESC)) s :=
  escapes_bind_of_ok rfl

variable (keyword : DocumentKeyword)

theorem parsePreambleFirstLine_contained : Contained Reported (parsePreambleFirstLine keyword) := by
  have hargs : Harmless parseFirstLineArgs := by
    refine Harmless.parseInteger.bind fun _ => Harmless.check fun _ => ?_
    refine Harmless.argumentsRemaining.bind fun _ => ?_
    exact (Harmless.getItem.bind fun _ => Harmless.pure _).ite (Harmless.pure _)
  intro s
  unfold parsePreambleFirstLine
  rw [escapes_check]
  rintro ⟨-, h⟩
  revert h
  refine stored_contained hargs (fun flavor => ?_) s
  cases flavor with
  | none => exact onParser_contained _
  | some flavor => exact (onParser_contained _).bind fun _ => onParser_contained _

theorem parsePreambleLine_contained : Contained Reported (parsePreambleLine P keyword) := by
  have hstatus : Harmless parseVoteStatus :=
    Harmless.getItem.bind fun _ => (Harmless.throw _).ite (Harmless.pure _)
  have hdelay : Harmless parseVotingDelay :=
    Harmless.parseInteger.bind fun _ =>
      Harmless.parseInteger.bind fun _ => Harmless.pure _
  have hversions : Harmless parseVersions := Harmless.getItem.bind fun _ => Harmless.pure _
  have htime := Harmless.parseTimestamp P
  intro s
  unfold parsePreambleLine
  rw [escapes_onParser]
  split
  · exact parsePreambleFirstLine_contained keyword s
  · cases keyword with
    | NETWORK_STATUS_VERSION => exact Contained.throw (reported_torParsing _) s
    | VOTE_STATUS => exact hstatus.contained s
    | CONSENSUS_METHOD =>
      exact (stored_contained Harmless.parseInteger) s
    | VALID_AFTER | FRESH_UNTIL | VALID_UNTIL =>
      exact (stored_contained htime) s
    | VOTING_DELAY => exact (stored_contained hdelay) s
    | CLIENT_VERSIONS | SERVER_VERSIONS =>
      exact (stored_contained hversions) s
    | KNOWN_FLAGS =>
      exact (stored_contained Harmless.remainingItems) s
    | PARAMS => exact (stored_contained Harmless.parseParameters) s
    | _ => exact escapes_pure _ s

/-- A signature line: its digests or its object cannot be read, or at the first one there is no
running digest. -/
def SignatureHazard (s : ParserState ConsensusParser) : Prop :=
  (s.handler.document.seenFirstSignature = false ∧
      (s.handler.recorder.signatureDigest = none ∨ s.handler.recorder.signatureDigest256 = none)) ∨
    Stumbles P (signatureFields s.cursor.currentItems) s.cursor.currentItems ∨
    ReadsAll P (signatureFields s.cursor.currentItems) s.cursor.currentItems ∧
      NoSignature s.cursor.inputLines

/-- What the keywords of a section let escape. Lines of a router entry are looked at only inside
one, and the line that begins it only outside. -/
def LineHazard (section_ : DocumentSection) (keyword : DocumentKeyword)
    (s : ParserState ConsensusParser) : Prop :=
  match section_, keyword with
  | .AUTHORITY, .DIR_SOURCE =>
    Stumbles P [.text, .hexDigest, .text, .address, .port, .port] s.cursor.currentItems
  | .AUTHORITY, .VOTE_DIGEST => Stumbles P [.hexDigest] s.cursor.currentItems
  | .ROUTER_STATUS, .R =>
    s.handler.document.routerEntry = none ∧
      Stumbles P (routerFields (s.handler.document.document.flavor = some .MICRODESC))
        s.cursor.currentItems
  | .ROUTER_STATUS, .P =>
    s.handler.document.routerEntry ≠ none ∧
      s.handler.document.document.flavor ≠ some .MICRODESC ∧ PortsHazard s.cursor.currentItems
  | .ROUTER_STATUS, .M =>
    s.handler.document.routerEntry ≠ none ∧
      s.handler.document.document.flavor = some .MICRODESC ∧ DataHazard s.cursor.currentItems
  | .FOOTER, .DIRECTORY_SIGNATURE => SignatureHazard P s
  | _, _ => False

theorem parseAuthorityLine_escapes (s : ParserState ConsensusParser) :
    Escapes Reported (parseAuthorityLine keyword) s ↔ LineHazard P .AUTHORITY keyword s := by
  cases keyword with
  | DIR_SOURCE =>
    exact (escapes_stored _ s).trans (parseDirSource_raises P _)
  | CONTACT =>
    exact iff_of_false ((stored_contained Harmless.parseConcatenatedString) s) id
  | VOTE_DIGEST =>
    refine (escapes_stored _ s).trans ?_
    rw [(hexDigest_reader (P := P)).escapes]
    simp [LineHazard, Stumbles]
  | _ => exact iff_of_false (escapes_pure _ s) id

/-- Outside a router entry every other line is reported. -/
theorem escapes_assertCurrentEntry (x : ConsensusM Unit) (s : ParserState ConsensusParser) :
    Escapes Reported (assertCurrentEntry >>= fun _ => x) s ↔
      s.handler.document.routerEntry ≠ none ∧ Escapes Reported x s := by
  have hrun : assertCurrentEntry s = (if s.handler.document.routerEntry.isNone = true then throw _
      else pure () : ConsensusM Unit) s := rfl
  unfold Escapes
  rw [bind_run, hrun]
  cases s.handler.document.routerEntry with
  | none =>
    refine iff_of_false ?_ fun h => h.1 rfl
    rintro ⟨e, s', he, hnot⟩
    cases he
    exact hnot trivial
  | some entry => simp

/-- A line of an entry that lets nothing escape. -/
theorem escapes_in_entry {x : ConsensusM Unit} (hx : Contained Reported x)
    (s : ParserState ConsensusParser) :
    ¬ Escapes Reported (assertCurrentEntry >>= fun _ => x) s := by
  rw [escapes_assertCurrentEntry]
  exact fun h => hx s h.2

theorem parseBandwidthItems_harmless : Harmless parseBandwidthItems := by
  refine Harmless.remainingItems.bind fun items => ?_
  refine (Harmless.mapM (fun item => ?_) items).bind fun _ => Harmless.pure _
  match split '=' item with
  | [_, value] => exact (Harmless.parseIntegerOf value).bind fun _ => Harmless.pure _
  | [] | [_] | _ :: _ :: _ :: _ => exact Harmless.pure _

theorem parseMicrodescriptorHashArgs_raises (items : List JString) :
    Raises Reported (parseMicrodescriptorHashArgs items) ↔ DataHazard items := by
  refine raises_parseBase64Data_bind (fun bytes => ?_) items
  split
  · -- another length is reported
    intro rest hraises
    rcases (raises_stateT_bind _ _).mp hraises with hthrow | ⟨a, rest', hthrow, -⟩
    · exact (raises_stateT_throw _).mp hthrow trivial
    · cases hthrow
  · rename_i hsize
    intro rest hraises
    rw [raises_stateT_lift, HexDigest.createFromDigestBytes] at hraises
    split at hraises
    · exact raises_ok _ hraises
    · rename_i hneither
      omega

theorem parseRouterLine_escapes (s : ParserState ConsensusParser) :
    Escapes Reported (parseRouterLine P keyword) s ↔ LineHazard P .ROUTER_STATUS keyword s := by
  cases keyword with
  | R =>
    show Escapes Reported (parser >>= _) s ↔ _
    rw [escapes_onParser]
    rw [escapes_check, escapes_isMicrodesc]
    rw [escapes_stored, parseRouterFirstLine_raises]
    simp [LineHazard]
  | S => exact iff_of_false (escapes_in_entry (stored_contained Harmless.remainingItems) s) id
  | V =>
    exact iff_of_false (escapes_in_entry (stored_contained Harmless.parseConcatenatedString) s) id
  | W =>
    refine iff_of_false (escapes_in_entry ?_ s) id
    refine stored_contained parseBandwidthItems_harmless fun items => ?_
    refine (onParser_contained _).bind fun _ s' => ?_
    rw [escapes_isMicrodesc]
    exact (onParser_contained _).ite (Contained.pure _) s'
  | P =>
    refine (escapes_assertCurrentEntry _ s).trans ?_
    rw [escapes_isMicrodesc]
    rw [escapes_check, escapes_stored _ _ ?_]
    · rw [show Raises Reported (parsePortListArgs s.cursor.currentItems) ↔
          PortsHazard s.cursor.currentItems from raises_ports (fun _ => Harmless.pure _)
            (fun _ => Harmless.pure _) (Harmless.pure _) _]
      simp [LineHazard]
    · intro ports
      cases ports with
      | none => exact onParser_contained _
      | some ports =>
        exact (onRouterEntry_contained _).bind fun _ => onParser_contained _
  | M =>
    refine (escapes_assertCurrentEntry _ s).trans ?_
    rw [escapes_isMicrodesc]
    rw [escapes_check, escapes_stored _ _ (fun _ => onRouterEntry_contained _),
      parseMicrodescriptorHashArgs_raises]
    simp [LineHazard]
  | _ => exact iff_of_false (escapes_in_entry (Contained.pure _) s) id

theorem doFirstSignature_cases (h : HandlerState ConsensusParser) :
    (∃ h', doFirstSignature P h = .ok () h') ∧
        h.recorder.signatureDigest ≠ none ∧ h.recorder.signatureDigest256 ≠ none ∨
      (∃ h', doFirstSignature P h = .error .nullPointer h') ∧
        (h.recorder.signatureDigest = none ∨ h.recorder.signatureDigest256 = none) := by
  rw [doFirstSignature_run]
  cases h.recorder.signatureDigest with
  | none => exact Or.inr ⟨⟨_, rfl⟩, Or.inl rfl⟩
  | some digest =>
    cases h.recorder.signatureDigest256 with
    | none => exact Or.inr ⟨⟨_, rfl⟩, Or.inr rfl⟩
    | some digest256 => exact Or.inl ⟨⟨_, rfl⟩, by simp, by simp⟩

theorem processSignature_escapes (s : ParserState ConsensusParser) :
    Escapes Reported (processSignature P) s ↔ SignatureHazard P s := by
  have hread : ∀ s' : ParserState ConsensusParser, Escapes Reported (read readSignature >>=
      fun signature => onDoc (·.addSignature signature)) s' ↔
        Stumbles P (signatureFields s'.cursor.currentItems) s'.cursor.currentItems ∨
          ReadsAll P (signatureFields s'.cursor.currentItems) s'.cursor.currentItems ∧
            NoSignature s'.cursor.inputLines := by
    intro s'
    have hstore : ∀ signature : DirectorySignature,
        Contained Reported (onDoc (·.addSignature signature)) := fun _ => onParser_contained _
    rw [escapes_bind_contained hstore, escapes_read, readSignature_escapes P]
  unfold processSignature SignatureHazard
  rw [escapes_onParser]
  cases hseen : s.handler.document.seenFirstSignature with
  | true =>
    refine (hread s).trans ?_
    simp
  | false =>
    show Escapes Reported (handle (doFirstSignature P) >>= fun _ => _) s ↔ _
    rcases doFirstSignature_cases P s.handler with
      ⟨⟨h', hok⟩, hsome, hsome256⟩ | ⟨⟨h', herror⟩, hnone⟩
    · have hrun : handle (doFirstSignature P) s = .ok () { s with handler := h' } := by
        unfold handle
        rw [hok]
      rw [escapes_bind_of_ok hrun]
      refine (hread _).trans ?_
      simp [hsome, hsome256]
    · refine iff_of_true ⟨.nullPointer, { s with handler := h' }, ?_, id⟩ (Or.inl ⟨rfl, hnone⟩)
      have hrun : handle (doFirstSignature P) s = .error .nullPointer { s with handler := h' } := by
        unfold handle
        rw [herror]
      exact bind_of_error hrun

theorem parseFooterLine_escapes (s : ParserState ConsensusParser) :
    Escapes Reported (parseFooterLine P keyword) s ↔ LineHazard P .FOOTER keyword s := by
  cases keyword with
  | BANDWIDTH_WEIGHTS =>
    exact iff_of_false ((stored_contained Harmless.parseParameters) s) id
  | DIRECTORY_SIGNATURE => exact processSignature_escapes P s
  | _ => exact iff_of_false (escapes_pure _ s) id

theorem parseLine_escapes (section_ : DocumentSection) (keyword : DocumentKeyword)
    (s : ParserState ConsensusParser) :
    Escapes Reported (parseLine P section_ keyword) s ↔ LineHazard P section_ keyword s := by
  cases section_ with
  | PREAMBLE => exact iff_of_false (parsePreambleLine_contained P keyword s) id
  | AUTHORITY => exact parseAuthorityLine_escapes P keyword s
  | ROUTER_STATUS => exact parseRouterLine_escapes P keyword s
  | FOOTER => exact parseFooterLine_escapes P keyword s
  | NO_SECTION => exact iff_of_false (escapes_pure _ s) id

/-! ## The state machine -/

/-- The section that handles a keyword. -/
def sectionFor (section_ : DocumentSection) (keyword : JString) : DocumentSection :=
  (opensSection section_ keyword).getD section_

/-- The lines of a consensus at which an exception escapes. -/
def Hazard (s : ParserState ConsensusParser) : Prop :=
  let section_ := sectionFor s.handler.document.currentSection s.cursor.currentKeyword
  LineHazard P section_ (DocumentKeyword.findKeyword s.cursor.currentKeyword section_) s

variable {next : DocumentSection}

/-- Two sections are not opened by one line. -/
theorem opensSection_opened {keyword : JString} (h : opensSection section_ keyword = some next) :
    opensSection next keyword = none ∧ next ≠ section_ ∧ section_ ≠ .NO_SECTION ∧
      next ≠ .NO_SECTION := by
  have hopen : ∀ word next', (if word = keyword then some next' else none) = some next →
      keyword = word ∧ next = next' := by
    intro word next' hopens
    split at hopens
    · rename_i hword
      cases hopens
      exact ⟨hword.symm, rfl⟩
    · cases hopens
  cases section_ with
  | PREAMBLE =>
    obtain ⟨rfl, rfl⟩ := hopen (lit "dir-source") .AUTHORITY h
    decide
  | AUTHORITY =>
    obtain ⟨rfl, rfl⟩ := hopen (lit "r") .ROUTER_STATUS h
    decide
  | ROUTER_STATUS =>
    obtain ⟨rfl, rfl⟩ := hopen (lit "directory-footer") .FOOTER h
    decide
  | FOOTER | NO_SECTION => cases h

/-- The line in its section; unknown keywords are passed over. -/
def lineIn (section_ : DocumentSection) (keyword : DocumentKeyword) : ConsensusM Unit := do
  if keyword ≠ .UNKNOWN_KEYWORD then parseLine P section_ keyword

theorem lineIn_escapes (section_ : DocumentSection) (keyword : DocumentKeyword)
    (s : ParserState ConsensusParser) :
    Escapes Reported (lineIn P section_ keyword) s ↔ LineHazard P section_ keyword s := by
  unfold lineIn
  split
  · exact parseLine_escapes P section_ keyword s
  · rename_i hunknown
    rw [not_not.mp hunknown]
    refine iff_of_false (escapes_pure _ s) ?_
    cases section_ <;> exact id

theorem processKeywordRound_run (hsection : s.handler.document.currentSection = section_)
    (hknown : section_ ≠ .NO_SECTION) :
    processKeywordRound P s = (parseSectionLine P section_ >>= fun newSection =>
      if newSection = section_ then pure false
      else onParser (fun p => { p with currentSection := newSection }) >>= fun _ => pure true) s := by
  unfold processKeywordRound
  rw [bind_run]
  show (if s.handler.document.currentSection = .NO_SECTION then _ else _ : ConsensusM Bool) s = _
  rw [hsection, if_neg hknown]

/-- A line that opens no section is handled where the parser is. -/
theorem processKeywordRound_stays (hsection : s.handler.document.currentSection = section_)
    (hknown : section_ ≠ .NO_SECTION)
    (hstays : opensSection section_ s.cursor.currentKeyword = none) :
    processKeywordRound P s = (lineIn P section_ (DocumentKeyword.findKeyword
      s.cursor.currentKeyword section_) >>= fun _ => pure false) s := by
  have hline : parseSectionLine P section_ s = (lineIn P section_ (DocumentKeyword.findKeyword
      s.cursor.currentKeyword section_) >>= fun _ => pure section_) s := by
    have hkeyword : getCurrentKeyword s = .ok s.cursor.currentKeyword s := rfl
    unfold parseSectionLine lineIn
    rw [bind_of_ok hkeyword]
    simp only [hstays]
    split <;> rfl
  rw [processKeywordRound_run P hsection hknown, bind_run, hline, bind_run, bind_run]
  cases lineIn P section_ (DocumentKeyword.findKeyword s.cursor.currentKeyword section_) s with
  | error e s' => rfl
  | ok u s' =>
    show (if section_ = section_ then _ else _ : ConsensusM Bool) s' = _
    rw [if_pos rfl]

/-- A line that opens a section is handed on to it. -/
theorem processKeywordRound_opens (hsection : s.handler.document.currentSection = section_)
    (hopens : opensSection section_ s.cursor.currentKeyword = some next) :
    processKeywordRound P s = .ok true { s with handler :=
      { s.handler with document := { s.handler.document with currentSection := next } } } := by
  obtain ⟨-, hother, hknown, -⟩ := opensSection_opened hopens
  have hline : parseSectionLine P section_ s = .ok next s := by
    have hkeyword : getCurrentKeyword s = .ok s.cursor.currentKeyword s := rfl
    unfold parseSectionLine
    rw [bind_of_ok hkeyword]
    simp only [hopens]
    rfl
  rw [processKeywordRound_run P hsection hknown, bind_of_ok hline, if_neg hother]
  rfl

theorem escapes_round_stays (hsection : s.handler.document.currentSection = section_)
    (hstays : opensSection section_ s.cursor.currentKeyword = none) (n : Nat) :
    Escapes Reported (iterate .stuck (processKeywordRound P) (n + 1)) s ↔
      LineHazard P section_ (DocumentKeyword.findKeyword s.cursor.currentKeyword section_) s := by
  by_cases hknown : section_ = .NO_SECTION
  · have hround : processKeywordRound P s = .ok false s := by
      unfold processKeywordRound
      rw [bind_run]
      show (if s.handler.document.currentSection = .NO_SECTION then _ else _ : ConsensusM Bool) s = _
      rw [hsection, if_pos hknown]
      rfl
    subst hknown
    exact iff_of_false (escapes_of_ok (iterate_succ_false hround)) id
  · have hround := processKeywordRound_stays P hsection hknown hstays
    rw [← lineIn_escapes]
    unfold Escapes
    cases hline : lineIn P section_
        (DocumentKeyword.findKeyword s.cursor.currentKeyword section_) s with
    | ok u s' => rw [iterate_succ_false (hround.trans (bind_of_ok hline))]
    | error e s' => rw [iterate_succ_error (hround.trans (bind_of_error hline))]

theorem processKeywordLine_escapes (s : ParserState ConsensusParser) :
    Escapes Reported (processKeywordLine P) s ↔ Hazard P s := by
  unfold Hazard sectionFor processKeywordLine
  cases hopens : opensSection s.handler.document.currentSection s.cursor.currentKeyword with
  | none => exact escapes_round_stays P rfl hopens 4
  | some next =>
    have hround := processKeywordRound_opens P rfl hopens
    have hstays := (opensSection_opened hopens).1
    unfold Escapes
    rw [iterate_succ_true hround]
    refine (escapes_round_stays P rfl hstays 3).trans ?_
    exact Iff.rfl

/-- **Consensus documents.** -/
theorem parse_returns (input : List UInt8) :
    (∃ b s', parse P (startParser (lines input)) = .ok b s') ↔
      ∀ s', LineReached false (processKeywordLine P) (startParser (lines input)) s' →
        ¬ Hazard P s' := by
  have hend : Contained Reported (handle endOfDocument) :=
    contained_handle (Contained.get.bind fun _ =>
      (contained_onDocument _).bind fun _ => contained_onDocument _)
  exact parse_returns_iff (processKeywordLine_orderly P).front
    (fun s' _ => processKeywordLine_escapes P s') fun s' _ => hend s'

end ConsensusParser

/-! ## The four parsers -/

/-- **Exceptions that escape from `parse`.** For every input, `parse` of a consensus, a key
certificate, a router descriptor and a microdescriptor returns its result if and only if none of
the lines it comes to is a hazard: no digest, address, range of ports or base64 text that cannot be
decoded where all fields before it can be read, no keyword that announces an object at the end of the
input or in front of an empty header, no signature that is not base64 or that RSA cannot decode, and
no signature in front of the key it is checked with. -/
theorem documents_reported (P : Platform) (verifySignatures : Bool) (input : List UInt8) :
    ((∃ b s', ConsensusParser.parse P (ConsensusParser.startParser (lines input)) = .ok b s') ↔
      ∀ s', LineReached false (ConsensusParser.processKeywordLine P)
        (ConsensusParser.startParser (lines input)) s' → ¬ ConsensusParser.Hazard P s') ∧
    ((∃ b s', KeyCertificateParser.parse P ⟨⟨lines input, [], []⟩, ⟨{ }, { }⟩⟩ = .ok b s') ↔
      ∀ s', LineReached false (KeyCertificateParser.processKeywordLine P)
        (KeyCertificateParser.startState input) s' → ¬ KeyCertificateParser.Hazard P s') ∧
    ((∃ b s', RouterDescriptorParser.parse P verifySignatures
        ⟨⟨lines input, [], []⟩, ⟨{ }, { }⟩⟩ = .ok b s') ↔
      ∀ s', LineReached true (RouterDescriptorParser.processKeywordLine P verifySignatures)
        (RouterDescriptorParser.startState input) s' →
          ¬ RouterDescriptorParser.Hazard P verifySignatures s') ∧
    ((∃ b s', parse P (startState input) =
        .ok b s') ↔
      ∀ s', LineReached false (processKeywordLine P) (startState input) s' → ¬ Hazard s') :=
  ⟨ConsensusParser.parse_returns P input, KeyCertificateParser.parse_returns P input,
    RouterDescriptorParser.parse_returns P verifySignatures input,
    parse_returns P input⟩

/-- A keyword that announces an object is the last line, and an identity is no hex number. -/
theorem documents_escape :
    raised (ConsensusParser.parse Platform.checksum (ConsensusParser.startParser
      (lines (latin1 (lit "network-status-version 3\ndir-source a zz\n"))))) =
        some (.decoder (lit "exception decoding Hex string: ")) ∧
    raised (KeyCertificateParser.parse Platform.checksum
      ⟨⟨lines (latin1 (lit "dir-identity-key\n")), [], []⟩, ⟨{ }, { }⟩⟩) = some .nullPointer ∧
    raised (RouterDescriptorParser.parse Platform.checksum true
      ⟨⟨lines (latin1 (lit "onion-key\n")), [], []⟩, ⟨{ }, { }⟩⟩) = some .nullPointer ∧
    raised (parse Platform.checksum
      (startState (latin1 (lit "onion-key\n")))) = some .nullPointer := by
  decide +kernel

end Orchid
