import Orchid.Consensus.Document
import Orchid.Directory.DocumentParser

/-!
# Orchid — the consensus parser

`ConsensusDocumentParser` is a state machine over the sections of a consensus: preamble,
authorities, router entries, footer. A line goes to the parser of the current section, which
either takes it or, at the keyword that opens the next section, passes it on. The section
never goes back, and the footer is never left.

* `startParser` is the state a parse begins with, `reported` the documents it reports.
* **`processKeywordLine_orderly`**: a line is handled from the lines it occupies, whatever
  the section.
* **`reported_filed`**: in a reported document signatures stand under the name they were
  made in.
* **`processDocument_append`**: what follows a part of the input is parsed from the state
  that part leads to.
-/

namespace Orchid

open Prog ArgM

inductive DocumentSection where
  | NO_SECTION
  | PREAMBLE
  | AUTHORITY
  | ROUTER_STATUS
  | FOOTER
  deriving DecidableEq, Repr

inductive DocumentKeyword where
  | NETWORK_STATUS_VERSION
  | VOTE_STATUS
  | CONSENSUS_METHODS
  | CONSENSUS_METHOD
  | PUBLISHED
  | VALID_AFTER
  | FRESH_UNTIL
  | VALID_UNTIL
  | VOTING_DELAY
  | CLIENT_VERSIONS
  | SERVER_VERSIONS
  | KNOWN_FLAGS
  | PARAMS
  | DIR_SOURCE
  | CONTACT
  | VOTE_DIGEST
  | R
  | S
  | V
  | W
  | P
  | M
  | DIRECTORY_FOOTER
  | BANDWIDTH_WEIGHTS
  | DIRECTORY_SIGNATURE
  | UNKNOWN_KEYWORD
  deriving DecidableEq, Repr

namespace DocumentKeyword

/-- The keyword table: each keyword with its section. -/
def values : List (DocumentKeyword × JString × DocumentSection) :=
  [(NETWORK_STATUS_VERSION, lit "network-status-version", .PREAMBLE),
    (VOTE_STATUS, lit "vote-status", .PREAMBLE),
    (CONSENSUS_METHODS, lit "consensus-methods", .PREAMBLE),
    (CONSENSUS_METHOD, lit "consensus-method", .PREAMBLE),
    (PUBLISHED, lit "published", .PREAMBLE),
    (VALID_AFTER, lit "valid-after", .PREAMBLE),
    (FRESH_UNTIL, lit "fresh-until", .PREAMBLE),
    (VALID_UNTIL, lit "valid-until", .PREAMBLE),
    (VOTING_DELAY, lit "voting-delay", .PREAMBLE),
    (CLIENT_VERSIONS, lit "client-versions", .PREAMBLE),
    (SERVER_VERSIONS, lit "server-versions", .PREAMBLE),
    (KNOWN_FLAGS, lit "known-flags", .PREAMBLE),
    (PARAMS, lit "params", .PREAMBLE),
    (DIR_SOURCE, lit "dir-source", .AUTHORITY),
    (CONTACT, lit "contact", .AUTHORITY),
    (VOTE_DIGEST, lit "vote-digest", .AUTHORITY),
    (R, lit "r", .ROUTER_STATUS),
    (S, lit "s", .ROUTER_STATUS),
    (V, lit "v", .ROUTER_STATUS),
    (W, lit "w", .ROUTER_STATUS),
    (P, lit "p", .ROUTER_STATUS),
    (M, lit "m", .ROUTER_STATUS),
    (DIRECTORY_FOOTER, lit "directory-footer", .FOOTER),
    (BANDWIDTH_WEIGHTS, lit "bandwidth-weights", .FOOTER),
    (DIRECTORY_SIGNATURE, lit "directory-signature", .FOOTER),
    (UNKNOWN_KEYWORD, lit "KEYWORD NOT FOUND", .NO_SECTION)]

def findKeyword (keyword : JString) (section_ : DocumentSection) : DocumentKeyword :=
  match values.find? fun k => k.2.1 = keyword ∧ k.2.2 = section_ with
  | some k => k.1
  | none => UNKNOWN_KEYWORD

end DocumentKeyword

/-- The parser with its four section parsers: `isFirstLine` belongs to the preamble,
`authorityEntry` and `routerEntry` are the entries being filled, `seenFirstSignature` belongs
to the footer. -/
structure ConsensusParser where
  currentSection : DocumentSection := .PREAMBLE
  document : ConsensusDocument := { }
  isFirstLine : Bool := true
  authorityEntry : VoteAuthorityEntry := { }
  routerEntry : Option RouterStatus := none
  seenFirstSignature : Bool := false
  result : DocumentParsingResult ConsensusDocument := { }

abbrev ConsensusM := ParserM ConsensusParser

namespace ConsensusParser

def parser : ConsensusM ConsensusParser := handle do return (← get).document

def onParser (f : ConsensusParser → ConsensusParser) : ConsensusM Unit := handle (onDocument f)

def onDoc (f : ConsensusDocument → ConsensusDocument) : ConsensusM Unit :=
  onParser fun p => { p with document := f p.document }

variable (P : Platform)

/-! ## The preamble -/

def CURRENT_DOCUMENT_VERSION : Int := 3

def parseVoteStatus : ArgM Unit := do
  let voteStatus ← parseString
  if voteStatus ≠ lit "consensus" then
    throw (.torParsing (lit "Unexpected vote-status type: " ++ voteStatus))

def parseVotingDelay : ArgM (Int × Int) := do
  let voteDelay ← parseInteger
  let distDelay ← parseInteger
  return (voteDelay, distDelay)

def parseVersions : ArgM (List JString) := do return split ',' (← parseString)

/-- The version number and, if there is one, the flavor of the first line. -/
def parseFirstLineArgs : ArgM (Option JString) := do
  let documentVersion ← parseInteger
  if documentVersion ≠ CURRENT_DOCUMENT_VERSION then
    throw (.torParsing (lit "Unexpected consensus document version number: " ++
      showInt documentVersion))
  if (← argumentsRemaining) > 0 then return some (← parseString)
  return none

/-- `parseConsensusFlavor`: an unknown flavor is only logged. -/
def setConsensusFlavor (flavor : JString) (doc : ConsensusDocument) : ConsensusDocument :=
  if flavor = lit "ns" then { doc with flavor := some .NS }
  else if flavor = lit "microdesc" then { doc with flavor := some .MICRODESC }
  else doc

def parsePreambleFirstLine (keyword : DocumentKeyword) : ConsensusM Unit := do
  if keyword ≠ .NETWORK_STATUS_VERSION then
    throw (.torParsing
      (lit "network-status-version not found at beginning of consensus document as expected."))
  match ← read (args parseFirstLineArgs) with
  | some flavor => onDoc (setConsensusFlavor flavor)
  | none => pure ()
  onParser fun p => { p with isFirstLine := false }

def processPreambleKeyword (keyword : DocumentKeyword) : ConsensusM Unit :=
  match keyword with
  | .NETWORK_STATUS_VERSION => throw (.torParsing
      (lit "Network status version may only appear on the first line of status document"))
  | .VOTE_STATUS => read (args parseVoteStatus)
  | .CONSENSUS_METHOD => do
    let method ← read (args parseInteger)
    onDoc fun d => { d with consensusMethod := method }
  | .VALID_AFTER => do
    let ts ← read (args (parseTimestamp P))
    onDoc fun d => { d with validAfter := some ts }
  | .FRESH_UNTIL => do
    let ts ← read (args (parseTimestamp P))
    onDoc fun d => { d with freshUntil := some ts }
  | .VALID_UNTIL => do
    let ts ← read (args (parseTimestamp P))
    onDoc fun d => { d with validUntil := some ts }
  | .VOTING_DELAY => do
    let (voteDelay, distDelay) ← read (args parseVotingDelay)
    onDoc fun d => { d with voteDelaySeconds := voteDelay, distDelaySeconds := distDelay }
  | .CLIENT_VERSIONS => do
    let versions ← read (args parseVersions)
    onDoc fun d => { d with clientVersions := versions.foldl (fun s v => s.insert v) d.clientVersions }
  | .SERVER_VERSIONS => do
    let versions ← read (args parseVersions)
    onDoc fun d => { d with serverVersions := versions.foldl (fun s v => s.insert v) d.serverVersions }
  | .KNOWN_FLAGS => do
    let flags ← read (args remainingItems)
    onDoc fun d => { d with knownFlags := flags.foldl (fun s v => s.insert v) d.knownFlags }
  | .PARAMS => do
    let parameters ← read (args parseParameters)
    onDoc fun d => parameters.foldl (fun d p => d.addParameter p.1 p.2) d
  | _ => return ()

def parsePreambleLine (keyword : DocumentKeyword) : ConsensusM Unit := do
  if (← parser).isFirstLine then parsePreambleFirstLine keyword
  else processPreambleKeyword P keyword

/-! ## Authorities -/

/-- The arguments of a `dir-source` line. -/
structure DirSource where
  nickname : JString
  identity : HexDigest
  hostname : JString
  address : IPv4Address
  dirport : Int
  orport : Int

def parseDirSource : ArgM DirSource := do
  let nickname ← parseNickname
  let identity ← parseHexDigest
  let hostname ← parseString
  let address ← parseAddress
  let dirport ← parsePort
  let orport ← parsePort
  return ⟨nickname, identity, hostname, address, dirport, orport⟩

def setDirSource (source : DirSource) (entry : VoteAuthorityEntry) : VoteAuthorityEntry :=
  { entry with
    nickname := some source.nickname, identity := some source.identity
    hostname := some source.hostname, address := some source.address
    dirport := source.dirport, orport := source.orport }

/-- `setVoteDigest` and `addCurrentEntry`: the entry is filed and a new one begun. -/
def addAuthorityEntry (voteDigest : HexDigest) (p : ConsensusParser) : ConsensusParser :=
  { p with
    document := p.document.addVoteAuthorityEntry { p.authorityEntry with voteDigest := some voteDigest }
    authorityEntry := { } }

def parseAuthorityLine (keyword : DocumentKeyword) : ConsensusM Unit :=
  match keyword with
  | .DIR_SOURCE => do
    let source ← read (args parseDirSource)
    onParser fun p => { p with authorityEntry := setDirSource source p.authorityEntry }
  | .CONTACT => do
    let contact ← read (args parseConcatenatedString)
    onParser fun p => { p with authorityEntry := { p.authorityEntry with contact := some contact } }
  | .VOTE_DIGEST => do
    let voteDigest ← read (args parseHexDigest)
    onParser (addAuthorityEntry voteDigest)
  | _ => return ()

/-! ## Router entries -/

def parseBase64Digest : ArgM HexDigest := do
  HexDigest.createFromDigestBytes (← parseBase64Data)

/-- The `r` line; the microdescriptor flavor has no descriptor digest on it. -/
def parseRouterFirstLine (microdesc : Bool) : ArgM RouterStatus := do
  let nickname ← parseNickname
  let identity ← parseBase64Digest
  let digest ← if !microdesc then some <$> parseBase64Digest else pure none
  let publicationTime ← parseTimestamp P
  let address ← parseAddress
  let routerPort ← parsePort
  let directoryPort ← parsePort
  return { nickname := some nickname, identity := some identity, digest := digest
           publicationTime := some publicationTime, address := some address
           routerPort := routerPort, directoryPort := directoryPort }

/-- The `key=value` items of a `w` line; items of another shape are skipped. -/
def parseBandwidthItems : ArgM (List (JString × Int)) := do
  let items ← remainingItems
  let parsed ← items.mapM fun item => (do
    match split '=' item with
    | [key, value] => return some (key, ← parseIntegerOf value)
    | _ => return none : ArgM (Option (JString × Int)))
  return parsed.reduceOption

def parseBandwidthItem (entry : RouterStatus) (item : JString × Int) : RouterStatus :=
  if item.1 = lit "Bandwidth" then { entry with bandwidthEstimate := item.2, hasBandwidth := true }
  else if item.1 = lit "Measured" then { entry with bandwidthMeasured := item.2 }
  else entry

def parsePortListArgs : ArgM (Option ExitPorts) := do
  let arg ← parseString
  if arg = lit "accept" then return some (← ExitPorts.create true (← parseString))
  else if arg = lit "reject" then return some (← ExitPorts.create false (← parseString))
  else return none

def parseMicrodescriptorHashArgs : ArgM HexDigest := do
  let hashBytes ← parseBase64Data
  if hashBytes.length ≠ TOR_DIGEST256_SIZE then
    throw (.torParsing (lit "'m' line has incorrect digest size " ++ showInt hashBytes.length ++
      lit " != " ++ showInt TOR_DIGEST256_SIZE))
  HexDigest.createFromDigestBytes hashBytes

def onRouterEntry (f : RouterStatus → RouterStatus) : ConsensusM Unit :=
  onParser fun p => { p with routerEntry := p.routerEntry.map f }

/-- `assertCurrentEntry`. -/
def assertCurrentEntry : ConsensusM Unit := do
  if (← parser).routerEntry.isNone then
    throw (.torParsing (lit "Router status entry must begin with an 'r' line"))

/-- `addCurrentEntry` of the router section; `assertCurrentEntry` has been called before. -/
def addRouterEntry (p : ConsensusParser) : ConsensusParser :=
  match p.routerEntry with
  | some entry => { p with document := p.document.addRouterStatusEntry entry, routerEntry := none }
  | none => p

def isMicrodesc : ConsensusM Bool := do return (← parser).document.flavor = some .MICRODESC

def parseRouterLine (keyword : DocumentKeyword) : ConsensusM Unit := do
  if keyword ≠ .R then assertCurrentEntry
  match keyword with
  | .R =>
    if (← parser).routerEntry.isSome then
      throw (.torParsing (lit "Unterminated router status entry."))
    let entry ← read (args (parseRouterFirstLine P (← isMicrodesc)))
    onParser fun p => { p with routerEntry := some entry }
  | .S =>
    let flags ← read (args remainingItems)
    onRouterEntry fun e => { e with flags := flags.foldl (fun s v => s.insert v) e.flags }
  | .V =>
    let version ← read (args parseConcatenatedString)
    onRouterEntry fun e => { e with version := some version }
  | .W =>
    let items ← read (args parseBandwidthItems)
    onRouterEntry fun e => items.foldl parseBandwidthItem e
    if ← isMicrodesc then onParser addRouterEntry
  | .P =>
    if ← isMicrodesc then
      throw (.torParsing (lit "'p' line does not appear in consensus flavor 'microdesc'"))
    match ← read (args parsePortListArgs) with
    | some ports => onRouterEntry fun e => { e with exitPorts := some ports }
    | none => pure ()
    onParser addRouterEntry
  | .M =>
    if !(← isMicrodesc) then
      throw (.torParsing (lit "'m' line is invalid unless consensus flavor is microdesc"))
    let digest ← read (args parseMicrodescriptorHashArgs)
    onRouterEntry fun e => { e with microdescriptorDigest := some digest }
  | _ => return ()

/-! ## The footer -/

def DIRECTORY_SIGNATURE_TOKEN : JString := lit "directory-signature "

/-- The digest with the token of the first signature line added. -/
def closeDigest (digest : TorMessageDigest) : TorMessageDigest :=
  digest.update (latin1 DIRECTORY_SIGNATURE_TOKEN)

/-- `doFirstSignature`: the signed text ends with the keyword of the first signature line. A
digest that was never started is a null receiver. -/
def doFirstSignature : HandlerM ConsensusParser Unit := do
  onDocument fun p => { p with seenFirstSignature := true }
  onRecorder Recorder.endSignedEntity
  match (← get).recorder.signatureDigest, (← get).recorder.signatureDigest256 with
  | some digest, some digest256 =>
    onRecorder fun r =>
      { r with
        signatureDigest := some (closeDigest digest)
        signatureDigest256 := some (closeDigest digest256) }
    onDocument fun p =>
      { p with document := { p.document with
          signingHash := some ((closeDigest digest).getHexDigest P)
          signingHash256 := some ((closeDigest digest256).getHexDigest P) } }
  | _, _ => throw .nullPointer

/-- The arguments of a signature line. A first argument shorter than a digest names the
algorithm. -/
def parseSignatureArgs : ArgM (Bool × HexDigest × HexDigest) := do
  let s ← parseString
  let (useSha256, identity) ←
    if s.length < TOR_DIGEST_SIZE then
      (do return (decide (s = lit "sha256"), ← parseHexDigest) : ArgM (Bool × HexDigest))
    else
      (do return (false, ← HexDigest.createFromString s) : ArgM (Bool × HexDigest))
  let signingKey ← parseHexDigest
  return (useSha256, identity, signingKey)

def readSignature : ReadM DirectorySignature := do
  let (useSha256, identity, signingKey) ← args parseSignatureArgs
  let signature ← parseSignature
  return ⟨identity, signingKey, signature, useSha256⟩

def processSignature : ConsensusM Unit := do
  if !(← parser).seenFirstSignature then handle (doFirstSignature P)
  let signature ← read readSignature
  onDoc (·.addSignature signature)

def addBandwidthWeights (weights : List (JString × Int)) (doc : ConsensusDocument) :
    ConsensusDocument :=
  weights.foldl (fun d p => d.addBandwidthWeight p.1 p.2) doc

def processBandwidthWeights : ConsensusM Unit := do
  let weights ← read (args parseParameters)
  onDoc (addBandwidthWeights weights)

def parseFooterLine (keyword : DocumentKeyword) : ConsensusM Unit :=
  match keyword with
  | .BANDWIDTH_WEIGHTS => processBandwidthWeights
  | .DIRECTORY_SIGNATURE => processSignature P
  | _ => return ()

/-! ## The state machine -/

/-- The keyword that opens the next section, and that section; the footer has none. -/
def nextSection : DocumentSection → Option (JString × DocumentSection)
  | .PREAMBLE => some (lit "dir-source", .AUTHORITY)
  | .AUTHORITY => some (lit "r", .ROUTER_STATUS)
  | .ROUTER_STATUS => some (lit "directory-footer", .FOOTER)
  | .FOOTER => none
  | .NO_SECTION => none

def parseLine : DocumentSection → DocumentKeyword → ConsensusM Unit
  | .PREAMBLE, keyword => parsePreambleLine P keyword
  | .AUTHORITY, keyword => parseAuthorityLine keyword
  | .ROUTER_STATUS, keyword => parseRouterLine P keyword
  | .FOOTER, keyword => parseFooterLine P keyword
  | .NO_SECTION, _ => return ()

/-- The section a keyword opens. -/
def opensSection (section_ : DocumentSection) (keyword : JString) : Option DocumentSection :=
  match nextSection section_ with
  | some (nextStateKeyword, next) => if nextStateKeyword = keyword then some next else none
  | none => none

/-- `parseKeywordLine` of a section parser: the section to go on with. -/
def parseSectionLine (section_ : DocumentSection) : ConsensusM DocumentSection := do
  let keywordString ← getCurrentKeyword
  match opensSection section_ keywordString with
  | some next => return next
  | none =>
    let keyword := DocumentKeyword.findKeyword keywordString section_
    if keyword ≠ .UNKNOWN_KEYWORD then parseLine P section_ keyword
    return section_

/-- One round of the loop in `processKeywordLine`; `true` asks for another one. -/
def processKeywordRound : ConsensusM Bool := do
  let section_ := (← parser).currentSection
  if section_ = .NO_SECTION then return false
  let newSection ← parseSectionLine P section_
  if newSection = section_ then return false
  onParser fun p => { p with currentSection := newSection }
  return true

/-- `processKeywordLine`: a line passes through the sections it opens, of which there are
fewer than five. -/
def processKeywordLine : ConsensusM Unit := iterate .stuck (processKeywordRound P) 5

def endOfDocument : HandlerM ConsensusParser Unit := do
  let raw := (← get).recorder.rawDocumentBuffer
  onDocument fun p => { p with document := { p.document with rawDocumentData := some raw } }
  onDocument fun p => { p with result := p.result.documentParsed p.document }

/-- `initializeParser`. -/
def startRecorder : Recorder :=
  (({ } : Recorder).resetRawDocument.setSignatureIgnoreToken (lit "directory-signature")).startSignedEntity

def startParser (input : List JString) : ParserState ConsensusParser :=
  ⟨⟨input, [], []⟩, ⟨startRecorder, { }⟩⟩

def parse : ConsensusM Bool :=
  catchParsingError (processDocument false (processKeywordLine P) (handle endOfDocument))
    fun message => onDocument fun p => { p with result := p.result.parsingError message }

/-- The documents handed to `documentParsed` when `input` is parsed. -/
def reported (input : List UInt8) : List ConsensusDocument :=
  (final (parse P (startParser (lines input)))).handler.document.result.documents

/-! ## Every line is handled in order

No line sets the ignore token or reports a document, and signatures stay filed under the
name they were made in. -/

/-- The document is filed, the authority entry being filled has no signature yet, and up to
the first signature line neither has the document. -/
structure Filed (p : ConsensusParser) : Prop where
  document : p.document.Filed
  entry : p.authorityEntry.signatures = []
  unsigned : p.seenFirstSignature = false → p.document.Unsigned

/-- What a line does to the parser: nothing is reported, and what was filed stays filed. -/
structure ParserKept (p p' : ConsensusParser) : Prop where
  result : p'.result = p.result
  filed : p.Filed → p'.Filed

structure LineKept (h h' : HandlerState ConsensusParser) : Prop where
  token : h'.recorder.signatureIgnoreToken = h.recorder.signatureIgnoreToken
  parser : ParserKept h.document h'.document

instance : HandlerOrder LineKept where
  refl _ := ⟨rfl, rfl, id⟩
  trans _ _ _ hk hk' := ⟨hk'.token.trans hk.token, hk'.parser.result.trans hk.parser.result,
    fun hfiled => hk'.parser.filed (hk.parser.filed hfiled)⟩
  record h ls := ⟨h.recorder.recordLines_token ls, rfl, id⟩

/-- A change elsewhere in the parser leaves the authority entries filed. -/
theorem kept_of_untouched {p p' : ConsensusParser} (hresult : p'.result = p.result := by rfl)
    (hentries : p'.document.voteAuthorityEntries = p.document.voteAuthorityEntries := by rfl)
    (hentry : p'.authorityEntry.signatures = p.authorityEntry.signatures := by rfl)
    (hseen : p'.seenFirstSignature = p.seenFirstSignature := by rfl) : ParserKept p p' := by
  refine ⟨hresult, fun hfiled => ⟨?_, hentry.trans hfiled.entry, fun hunseen => ?_⟩⟩
  · unfold ConsensusDocument.Filed
    rw [hentries]
    exact hfiled.document
  · unfold ConsensusDocument.Unsigned
    rw [hentries]
    exact hfiled.unsigned (hseen.symm.trans hunseen)

theorem setConsensusFlavor_authorities (flavor : JString) (doc : ConsensusDocument) :
    (setConsensusFlavor flavor doc).voteAuthorityEntries = doc.voteAuthorityEntries := by
  unfold setConsensusFlavor
  split
  · rfl
  · split <;> rfl

theorem addParameters_authorities (parameters : List (JString × Int)) (doc : ConsensusDocument) :
    (parameters.foldl (fun d p => d.addParameter p.1 p.2) doc).voteAuthorityEntries =
      doc.voteAuthorityEntries := by
  induction parameters generalizing doc with
  | nil => rfl
  | cons p ps ih => exact ih _

theorem addBandwidthWeights_authorities (weights : List (JString × Int)) (doc : ConsensusDocument) :
    (addBandwidthWeights weights doc).voteAuthorityEntries = doc.voteAuthorityEntries := by
  induction weights generalizing doc with
  | nil => rfl
  | cons w ws ih => exact ih _

theorem addAuthorityEntry_kept (voteDigest : HexDigest) (p : ConsensusParser) :
    ParserKept p (addAuthorityEntry voteDigest p) :=
  ⟨rfl, fun hfiled => ⟨hfiled.document.addVoteAuthorityEntry hfiled.entry, rfl, fun hseen =>
    (hfiled.unsigned hseen).addVoteAuthorityEntry hfiled.entry⟩⟩

theorem parser_orderly : Orderly LineKept parser := Orderly.handle fun h => HandlerOrder.refl h

theorem onParser_orderly {f : ConsensusParser → ConsensusParser}
    (hf : ∀ p, ParserKept p (f p)) : Orderly LineKept (onParser f) :=
  Orderly.handle fun h => ⟨rfl, hf h.document⟩

/-- Reading arguments and storing them. -/
theorem args_onParser_orderly {α : Type} (x : ArgM α) {f : α → ConsensusParser → ConsensusParser}
    (hf : ∀ a p, ParserKept p (f a p)) :
    Orderly LineKept (read (args x) >>= fun a => onParser (f a)) :=
  (Orderly.read (args_front x)).bind fun a => onParser_orderly (hf a)

variable (keyword : DocumentKeyword)

theorem parsePreambleLine_orderly : Orderly LineKept (parsePreambleLine P keyword) := by
  refine parser_orderly.bind fun p => Orderly.ite ?_ ?_
  · unfold parsePreambleFirstLine
    refine ((Orderly.throw _).bind fun _ => ?_).ite ?_
    all_goals
      refine (Orderly.read (args_front _)).bind fun flavor => ?_
      cases flavor with
      | none => exact onParser_orderly fun _ => kept_of_untouched
      | some flavor =>
        refine (onParser_orderly fun p => ?_).bind fun _ => onParser_orderly fun _ => kept_of_untouched
        exact kept_of_untouched rfl (setConsensusFlavor_authorities flavor p.document) rfl rfl
  · cases keyword with
    | NETWORK_STATUS_VERSION => exact Orderly.throw _
    | VOTE_STATUS => exact Orderly.read (args_front _)
    | CONSENSUS_METHOD | VALID_AFTER | FRESH_UNTIL | VALID_UNTIL | VOTING_DELAY
    | CLIENT_VERSIONS | SERVER_VERSIONS | KNOWN_FLAGS =>
      exact args_onParser_orderly _ fun _ _ => kept_of_untouched
    | PARAMS => exact args_onParser_orderly _ fun ps p => kept_of_untouched rfl (addParameters_authorities ps _) rfl rfl
    | _ => exact Orderly.pure _

theorem parseAuthorityLine_orderly : Orderly LineKept (parseAuthorityLine keyword) := by
  cases keyword with
  | DIR_SOURCE | CONTACT =>
    exact args_onParser_orderly _ fun _ _ => kept_of_untouched
  | VOTE_DIGEST => exact args_onParser_orderly _ addAuthorityEntry_kept
  | _ => exact Orderly.pure _

theorem isMicrodesc_orderly : Orderly LineKept isMicrodesc :=
  parser_orderly.bind fun _ => Orderly.pure _

theorem assertCurrentEntry_orderly : Orderly LineKept assertCurrentEntry :=
  parser_orderly.bind fun _ => (Orderly.throw _).ite (Orderly.pure _)

theorem addRouterEntry_kept (p : ConsensusParser) : ParserKept p (addRouterEntry p) := by
  unfold addRouterEntry
  cases p.routerEntry with
  | none | some entry => exact kept_of_untouched

theorem parseRouterLine_orderly : Orderly LineKept (parseRouterLine P keyword) := by
  cases keyword with
  | R =>
    refine parser_orderly.bind fun p => ((Orderly.throw _).bind fun _ => ?_).ite ?_
    all_goals
      refine isMicrodesc_orderly.bind fun b => ?_
      exact args_onParser_orderly _ fun _ _ => kept_of_untouched
  | S | V =>
    exact assertCurrentEntry_orderly.bind fun _ => args_onParser_orderly _ fun _ _ => kept_of_untouched
  | W =>
    refine assertCurrentEntry_orderly.bind fun _ => ?_
    refine (Orderly.read (args_front _)).bind fun items => ?_
    refine (onParser_orderly fun _ => kept_of_untouched).bind fun _ => ?_
    exact isMicrodesc_orderly.bind fun b =>
      (onParser_orderly addRouterEntry_kept).ite (Orderly.pure _)
  | P =>
    refine assertCurrentEntry_orderly.bind fun _ => ?_
    refine isMicrodesc_orderly.bind fun b => ((Orderly.throw _).bind fun _ => ?_).ite ?_
    all_goals
      refine (Orderly.read (args_front _)).bind fun ports => ?_
      cases ports with
      | none => exact onParser_orderly addRouterEntry_kept
      | some ports =>
        exact (onParser_orderly fun _ => kept_of_untouched).bind fun _ =>
          onParser_orderly addRouterEntry_kept
  | M =>
    refine assertCurrentEntry_orderly.bind fun _ => ?_
    refine isMicrodesc_orderly.bind fun b => ((Orderly.throw _).bind fun _ => ?_).ite ?_
    all_goals exact args_onParser_orderly _ fun _ _ => kept_of_untouched
  | _ => exact assertCurrentEntry_orderly.bind fun _ => Orderly.pure _

theorem readSignature_front : Front unread readSignature :=
  (args_front _).bind fun _ => parseSignature_front.bind fun _ => Front.pure _

/-- What the first signature line does to the parser: both hashes are fixed. -/
theorem doFirstSignature_run (h : HandlerState ConsensusParser) :
    doFirstSignature P h = match h.recorder.signatureDigest, h.recorder.signatureDigest256 with
      | some digest, some digest256 =>
        .ok () ⟨{ h.recorder.endSignedEntity with
            signatureDigest := some (closeDigest digest)
            signatureDigest256 := some (closeDigest digest256) },
          { h.document with
            seenFirstSignature := true
            document := { h.document.document with
              signingHash := some ((closeDigest digest).getHexDigest P)
              signingHash256 := some ((closeDigest digest256).getHexDigest P) } }⟩
      | _, _ => .error .nullPointer
          ⟨h.recorder.endSignedEntity, { h.document with seenFirstSignature := true }⟩ := by
  obtain ⟨⟨token, isOpen, digest, digest256, raw⟩, doc⟩ := h
  cases digest <;> cases digest256 <;> rfl

/-- What the parts of a signature line do. The filing of the signature alone would break the
invariant of a line: it relies on the first signature having been seen. -/
structure SignatureStep (h h' : HandlerState ConsensusParser) : Prop where
  token : h'.recorder.signatureIgnoreToken = h.recorder.signatureIgnoreToken
  result : h'.document.result = h.document.result
  filed : h.document.document.Filed → h'.document.document.Filed
  entry : h'.document.authorityEntry = h.document.authorityEntry
  seen : h.document.seenFirstSignature = true → h'.document.seenFirstSignature = true

instance : HandlerOrder SignatureStep where
  refl _ := ⟨rfl, rfl, id, rfl, id⟩
  trans _ _ _ hs hs' := ⟨hs'.token.trans hs.token, hs'.result.trans hs.result,
    fun hfiled => hs'.filed (hs.filed hfiled), hs'.entry.trans hs.entry,
    fun hseen => hs'.seen (hs.seen hseen)⟩
  record h ls := ⟨h.recorder.recordLines_token ls, rfl, id, rfl, id⟩

theorem doFirstSignature_step (h : HandlerState ConsensusParser) :
    SignatureStep h (final (doFirstSignature P h)) ∧
      (final (doFirstSignature P h)).document.seenFirstSignature = true := by
  rw [doFirstSignature_run]
  split
  · exact ⟨⟨rfl, rfl, id, rfl, fun _ => rfl⟩, rfl⟩
  · exact ⟨⟨rfl, rfl, id, rfl, fun _ => rfl⟩, rfl⟩

/-- The part of a signature line behind `doFirstSignature`. -/
def takeSignature : ConsensusM Unit := do
  let signature ← read readSignature
  onDoc (·.addSignature signature)

theorem takeSignature_orderly : Orderly SignatureStep takeSignature := by
  refine (Orderly.read readSignature_front).bind fun signature => ?_
  unfold onDoc onParser
  exact Orderly.handle fun h => ⟨rfl, rfl, fun hfiled => hfiled.addSignature signature, rfl, id⟩

theorem processSignature_run (s : ParserState ConsensusParser) :
    processSignature P s =
      if s.handler.document.seenFirstSignature then takeSignature s
      else (handle (doFirstSignature P) >>= fun _ => takeSignature) s := by
  show (if !s.handler.document.seenFirstSignature then _ else _ : ConsensusM Unit) s = _
  cases s.handler.document.seenFirstSignature with
  | true | false => rfl

theorem processSignature_step (s : ParserState ConsensusParser) :
    SignatureStep s.handler (final (processSignature P s)).handler ∧
      (final (processSignature P s)).handler.document.seenFirstSignature = true := by
  rw [processSignature_run]
  split
  · rename_i hseen
    have hstep := takeSignature_orderly.keeps s
    exact ⟨hstep, hstep.seen hseen⟩
  · obtain ⟨hfirst, hseen⟩ := doFirstSignature_step P s.handler
    rw [← final_handle] at hfirst hseen
    rw [bind_run]
    cases hrun : handle (doFirstSignature P) s with rw [hrun] at hfirst hseen
    | error e s' =>
      exact ⟨hfirst, hseen⟩
    | ok u s' =>
      have hstep := takeSignature_orderly.keeps s'
      exact ⟨HandlerOrder.trans _ _ _ hfirst hstep, hstep.seen hseen⟩

theorem processSignature_orderly : Orderly LineKept (processSignature P) := by
  constructor
  · refine parser_orderly.front.bind fun p => Front.ite ?_ takeSignature_orderly.front
    exact (handle_front _).bind fun _ => takeSignature_orderly.front
  · intro s
    obtain ⟨hstep, hseen⟩ := processSignature_step P s
    refine ⟨hstep.token, hstep.result, fun hfiled => ⟨hstep.filed hfiled.document, ?_, ?_⟩⟩
    · rw [hstep.entry]
      exact hfiled.entry
    · intro hunseen
      cases hseen.symm.trans hunseen

theorem parseFooterLine_orderly : Orderly LineKept (parseFooterLine P keyword) := by
  cases keyword with
  | BANDWIDTH_WEIGHTS =>
    exact args_onParser_orderly _ fun ws p => kept_of_untouched rfl (addBandwidthWeights_authorities ws _) rfl rfl
  | DIRECTORY_SIGNATURE => exact processSignature_orderly P
  | _ => exact Orderly.pure _

theorem parseLine_orderly (section_ : DocumentSection) (keyword : DocumentKeyword) :
    Orderly LineKept (parseLine P section_ keyword) := by
  cases section_ with
  | NO_SECTION => exact Orderly.pure _
  | PREAMBLE => exact parsePreambleLine_orderly P keyword
  | AUTHORITY => exact parseAuthorityLine_orderly keyword
  | ROUTER_STATUS => exact parseRouterLine_orderly P keyword
  | FOOTER => exact parseFooterLine_orderly P keyword

theorem parseSectionLine_orderly (section_ : DocumentSection) :
    Orderly LineKept (parseSectionLine P section_) := by
  refine Orderly.getCurrentKeyword.bind fun keyword => ?_
  cases opensSection section_ keyword with
  | some next => exact Orderly.pure _
  | none =>
    exact ((parseLine_orderly P section_ _).bind fun _ => Orderly.pure _).ite (Orderly.pure _)

theorem processKeywordRound_orderly : Orderly LineKept (processKeywordRound P) := by
  refine parser_orderly.bind fun p => (Orderly.pure _).ite ?_
  refine (parseSectionLine_orderly P _).bind fun newSection => (Orderly.pure _).ite ?_
  exact (onParser_orderly fun _ => kept_of_untouched).bind fun _ => Orderly.pure _

/-- Whatever the section, a line is handled from the lines it occupies. -/
theorem processKeywordLine_orderly : Orderly LineKept (processKeywordLine P) :=
  Orderly.iterate (processKeywordRound_orderly P) 5

/-! ## Reported documents are filed -/

/-- The document being built and those reported are filed. -/
def AllFiled (h : HandlerState ConsensusParser) : Prop :=
  h.document.Filed ∧ ∀ d ∈ h.document.result.documents, d.Filed

def KeepsFiled (h h' : HandlerState ConsensusParser) : Prop := AllFiled h → AllFiled h'

instance : HandlerOrder KeepsFiled where
  refl _ := id
  trans _ _ _ hk hk' := fun hfiled => hk' (hk hfiled)
  record _ _ := id

theorem LineKept.keepsFiled (h h' : HandlerState ConsensusParser) (hkept : LineKept h h') :
    KeepsFiled h h' := by
  rintro ⟨hparser, hreported⟩
  refine ⟨hkept.parser.filed hparser, ?_⟩
  rw [hkept.parser.result]
  exact hreported

/-- The end of the document reports what was built. -/
theorem endOfDocument_keepsFiled (h : HandlerState ConsensusParser) :
    KeepsFiled h (final (endOfDocument h)) := by
  rintro ⟨hparser, hreported⟩
  refine ⟨⟨hparser.document, hparser.entry, hparser.unsigned⟩, fun d hd => ?_⟩
  rcases List.mem_append.mp hd with hold | hnew
  · exact hreported d hold
  · rw [List.mem_singleton.mp hnew]
    exact hparser.document

theorem startParser_filed (input : List JString) : (startParser input).handler.document.Filed := by
  let doc := (startParser input).handler.document.document
  have hempty : ∀ key : Option HexDigest, doc.voteAuthorityEntries.lookup key = none :=
    fun key => AList.lookup_empty key
  refine ⟨fun key entry hlook => ?_, rfl, fun _ key entry hlook => ?_⟩
  · cases (hempty key).symm.trans hlook
  · cases (hempty key).symm.trans hlook

/-- In every document a parse reports, signatures stand under the name they were made in. -/
theorem reported_filed {input : List UInt8} {d : ConsensusDocument} (hd : d ∈ reported P input) :
    d.Filed := by
  have hstart : AllFiled (startParser (lines input)).handler := by
    refine ⟨startParser_filed _, fun d hd => ?_⟩
    cases hd
  have hparsed : AllFiled (final (parse P (startParser (lines input)))).handler := by
    refine catchParsingError_final AllFiled ?_ fun message h ⟨hparser, hreported⟩ =>
      ⟨⟨hparser.document, hparser.entry, hparser.unsigned⟩, hreported⟩
    rw [final_forget]
    exact processDocument_keeps ((processKeywordLine_orderly P).mono LineKept.keepsFiled)
      (Orderly.handle endOfDocument_keepsFiled) _ hstart
  exact hparsed.2 d hd

/-! ## Parsing on from a part of the input -/

/-- The parser behind the lines of `q`, if it got through them. -/
def consume (q : List JString) : EStateM.Result JavaException (ParserState ConsensusParser) Unit :=
  processDocument false (processKeywordLine P) (pure ()) (startParser q)

/-- What follows `q` is parsed from the state `q` leads to. -/
theorem processDocument_append {q : List JString} {s : ParserState ConsensusParser}
    (hq : consume P q = .ok () s) (done : ConsensusM Unit) (r : List JString) :
    processDocument false (processKeywordLine P) done (startParser (q ++ r)) =
      processDocument false (processKeywordLine P) done
        { s with cursor := { s.cursor with inputLines := r } } :=
  drain_append (fun line => processKeywordLineWith_front (processKeywordLine_orderly P).front line) rfl hq r

end ConsensusParser

end Orchid
