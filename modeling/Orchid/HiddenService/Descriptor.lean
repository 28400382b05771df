import Orchid.Directory.DocumentParser
import Orchid.HiddenService.Authentication
import Orchid.Lib.LastValue

/-!
# Orchid — hidden service descriptors

`HSDescriptorParser` fills one `HSDescriptor` object, line by line, and hands that object to
`documentParsed` at a signature line that verifies. It does not start a new object there, nor
does it stop: lines behind the signature go on setting the fields of the descriptor that has
been handed out. The introduction points are a document of their own inside the descriptor,
perhaps encrypted, with its own parser.

* `descriptorFormat` is the parser as a format, `processKeywordLine_eq_format` says so.
* `applyEntry` is what an entry does to the descriptor, wherever it stands.
* **`replay_descriptor`**: the descriptor after a run is its entries applied in order.
-/

namespace Orchid

open Prog

/-! ## Introduction points -/

structure IntroductionPoint where
  identity : Option HexDigest := none
  address : Option IPv4Address := none
  onionPort : Int := 0
  onionKey : Option TorPublicKey := none
  serviceKey : Option TorPublicKey := none
  deriving DecidableEq

def IntroductionPoint.isValidDocument (ip : IntroductionPoint) : Bool :=
  ip.identity.isSome && ip.address.isSome && ip.onionPort ≠ 0 && ip.onionKey.isSome &&
    ip.serviceKey.isSome

inductive IntroductionPointKeyword where
  | SERVICE_AUTHENTICATION
  | INTRODUCTION_POINT
  | IP_ADDRESS
  | ONION_PORT
  | ONION_KEY
  | SERVICE_KEY
  | INTRO_AUTHENTICATION
  | UNKNOWN_KEYWORD
  deriving DecidableEq, Repr

namespace IntroductionPointKeyword

def values : List (IntroductionPointKeyword × JString) :=
  [(SERVICE_AUTHENTICATION, lit "service-authentication"),
    (INTRODUCTION_POINT, lit "introduction-point"),
    (IP_ADDRESS, lit "ip-address"),
    (ONION_PORT, lit "onion-port"),
    (ONION_KEY, lit "onion-key"),
    (SERVICE_KEY, lit "service-key"),
    (INTRO_AUTHENTICATION, lit "intro-authentication"),
    (UNKNOWN_KEYWORD, lit "KEYWORD NOT FOUND")]

def findKeyword (keyword : JString) : IntroductionPointKeyword :=
  match values.find? fun k => k.2 = keyword with
  | some k => k.1
  | none => UNKNOWN_KEYWORD

end IntroductionPointKeyword

/-- The parser of introduction points with the points it has handed to `documentParsed`.
Invalid ones and parsing errors are only logged. -/
structure IntroductionPointParser where
  currentIntroductionPoint : Option IntroductionPoint := none
  parsed : List IntroductionPoint := []

namespace IntroductionPointParser

abbrev IntroM := ParserM IntroductionPointParser

def validateAndReportIntroductionPoint (p : IntroductionPointParser) : IntroductionPointParser :=
  match p.currentIntroductionPoint with
  | none => p
  | some ip => if ip.isValidDocument then { p with parsed := p.parsed ++ [ip] } else p

def resetIntroductionPoint (identity : HexDigest) (p : IntroductionPointParser) :
    IntroductionPointParser :=
  { validateAndReportIntroductionPoint p with
    currentIntroductionPoint := some { identity := some identity } }

/-- A line that belongs to a point is not even read while there is none. -/
def onCurrent {α : Type} (x : ReadM α) (f : α → IntroductionPoint → IntroductionPoint) :
    IntroM Unit := do
  if (← handle do return (← get).document.currentIntroductionPoint.isSome) then
    let a ← read x
    handle (onDocument fun p =>
      { p with currentIntroductionPoint := p.currentIntroductionPoint.map (f a) })

def processKeyword : IntroductionPointKeyword → IntroM Unit
  | .INTRO_AUTHENTICATION => return ()
  | .INTRODUCTION_POINT => do
    let identity ← read (args ArgM.parseBase32Digest)
    handle (onDocument (resetIntroductionPoint identity))
  | .IP_ADDRESS => onCurrent (args ArgM.parseAddress) fun a ip => { ip with address := some a }
  | .ONION_KEY => onCurrent parsePublicKey fun key ip => { ip with onionKey := some key }
  | .ONION_PORT => onCurrent (args ArgM.parsePort) fun port ip => { ip with onionPort := port }
  | .SERVICE_KEY => onCurrent parsePublicKey fun key ip => { ip with serviceKey := some key }
  | .SERVICE_AUTHENTICATION => return ()
  | .UNKNOWN_KEYWORD => return ()

def processKeywordLine : IntroM Unit := do
  let keyword := IntroductionPointKeyword.findKeyword (← getCurrentKeyword)
  if keyword ≠ .UNKNOWN_KEYWORD then processKeyword keyword

def parse : IntroM Bool :=
  catchParsingError
    (processDocument false processKeywordLine
      (handle (onDocument validateAndReportIntroductionPoint)))
    fun _ => return ()

/-- The points handed to `documentParsed`, and the exception the parse ended with if it was
not a parsing error. -/
def parseBuffer (buffer : List UInt8) : List IntroductionPoint × Except JavaException Unit :=
  match parse ⟨⟨lines buffer, [], []⟩, ⟨{ }, { }⟩⟩ with
  | .ok _ s => (s.handler.document.parsed, .ok ())
  | .error e s => (s.handler.document.parsed, .error e)

end IntroductionPointParser

/-! ## Descriptors -/

structure HSDescriptor where
  descriptorId : Option HexDigest := none
  publicationTime : Option Int := none
  secretIdPart : Option HexDigest := none
  permanentKey : Option TorPublicKey := none
  protocolVersions : Option (List Int) := none
  introductionPoints : List IntroductionPoint := []
  deriving DecidableEq

inductive HSDescriptorKeyword where
  | RENDEZVOUS_SERVICE_DESCRIPTOR
  | VERSION
  | PERMANENT_KEY
  | SECRET_ID_PART
  | PUBLICATION_TIME
  | PROTOCOL_VERSIONS
  | INTRODUCTION_POINTS
  | SIGNATURE
  | UNKNOWN_KEYWORD
  deriving DecidableEq, Repr

namespace HSDescriptorKeyword

def values : List (HSDescriptorKeyword × JString) :=
  [(RENDEZVOUS_SERVICE_DESCRIPTOR, lit "rendezvous-service-descriptor"),
    (VERSION, lit "version"),
    (PERMANENT_KEY, lit "permanent-key"),
    (SECRET_ID_PART, lit "secret-id-part"),
    (PUBLICATION_TIME, lit "publication-time"),
    (PROTOCOL_VERSIONS, lit "protocol-versions"),
    (INTRODUCTION_POINTS, lit "introduction-points"),
    (SIGNATURE, lit "signature"),
    (UNKNOWN_KEYWORD, lit "KEYWORD NOT FOUND")]

def findKeyword (keyword : JString) : HSDescriptorKeyword :=
  match values.find? fun k => k.2 = keyword with
  | some k => k.1
  | none => UNKNOWN_KEYWORD

end HSDescriptorKeyword

/-- The parser with its only descriptor object. `handedOut` says that a reference to the
object has been given to `documentParsed`; whoever holds it sees every later change. -/
structure HSDescriptorParser where
  descriptor : HSDescriptor := { }
  handedOut : Bool := false

namespace HSDescriptorParser

variable (P : Platform) (cookie : Option HSDescriptorCookie)

def setDescriptor (f : HSDescriptor → HSDescriptor) : HandlerM HSDescriptorParser Unit :=
  onDocument fun p => { p with descriptor := f p.descriptor }

def createIntroductionPointBuffer (ob : DocumentObject) : Except JavaException (List UInt8) := do
  let content ← Base64.decode (ob.getContent false)
  match content with
  | [] => throw .indexOutOfBounds
  | first :: _ =>
    if first = 105 then return content
    else
      match HSAuthentication.decryptIntroductionPoints P cookie content with
      | .ok decrypted _ => return decrypted
      | .error (.hsAuthentication message) _ =>
        throw (.torParsing (lit "Failed to decrypt introduction points: " ++ message))
      | .error e _ => throw e

/-- `processIntroductionPoints` behind the reading of the object. -/
def addIntroductionPoints (ob : DocumentObject) : HandlerM HSDescriptorParser Unit := do
  let buffer ← fromExcept (createIntroductionPointBuffer P cookie ob)
  let (points, outcome) := IntroductionPointParser.parseBuffer buffer
  setDescriptor fun d => { d with introductionPoints := d.introductionPoints ++ points }
  fromExcept outcome

/-- The warning about a bad signature prints the descriptor id in Base32, and raises if there
is none. -/
def warnSignatureFailed (descriptor : HSDescriptor) : Except JavaException JString :=
  match descriptor.descriptorId with
  | none => .error .nullPointer
  | some id => id.toBase32

/-- `processSignature` behind the reading of the signature. -/
def finishSignature (signature : TorSignature) : HandlerM HSDescriptorParser Unit := do
  let descriptor := (← get).document.descriptor
  if !(← verifySignedEntity P descriptor.permanentKey signature) then
    let _ ← fromExcept (warnSignatureFailed descriptor)
  else
    onDocument fun p => { p with handedOut := true }

def parseVersion : ArgM Unit := do
  if (← ArgM.parseInteger) ≠ 2 then throw (.torParsing (lit "Unexpected Descriptor version"))

def processKeyword : HSDescriptorKeyword → ParserM HSDescriptorParser Unit
  | .RENDEZVOUS_SERVICE_DESCRIPTOR => do
    let descriptorId ← read (args ArgM.parseBase32Digest)
    handle (setDescriptor fun d => { d with descriptorId := some descriptorId })
  | .VERSION => read (args parseVersion)
  | .PERMANENT_KEY => do
    let permanentKey ← read parsePublicKey
    handle (setDescriptor fun d => { d with permanentKey := some permanentKey })
  | .SECRET_ID_PART => do
    let secretIdPart ← read (args ArgM.parseBase32Digest)
    handle (setDescriptor fun d => { d with secretIdPart := some secretIdPart })
  | .PUBLICATION_TIME => do
    let ts ← read (args (ArgM.parseTimestamp P))
    handle (setDescriptor fun d => { d with publicationTime := some ts })
  | .PROTOCOL_VERSIONS => do
    let protocolVersions ← read (args ArgM.parseIntegerList)
    handle (setDescriptor fun d => { d with protocolVersions := some protocolVersions })
  | .INTRODUCTION_POINTS => do
    let ob ← read parseObject
    handle (addIntroductionPoints P cookie ob)
  | .SIGNATURE => do
    handle (onRecorder Recorder.endSignedEntity)
    let signature ← read parseSignature
    handle (finishSignature P signature)
  | .UNKNOWN_KEYWORD => return ()

def processKeywordLine : ParserM HSDescriptorParser Unit := do
  let keyword := HSDescriptorKeyword.findKeyword (← getCurrentKeyword)
  if keyword ≠ .UNKNOWN_KEYWORD then processKeyword P cookie keyword

/-- `parse(resultHandler)`; parsing errors are only logged. -/
def parse : ParserM HSDescriptorParser Bool := do
  handle (onRecorder Recorder.startSignedEntity)
  catchParsingError (processDocument false (processKeywordLine P cookie) (handle (return ())))
    fun _ => return ()

/-! ## The parser as a format -/

/-- What a line of a descriptor says. -/
inductive Entry where
  | descriptorId (id : HexDigest)
  | permanentKey (key : TorPublicKey)
  | secretIdPart (part : HexDigest)
  | publicationTime (time : Int)
  | protocolVersions (versions : List Int)
  | introductionPoints (ob : DocumentObject)
  | signature (signature : TorSignature)
  | other

def readKeyword : HSDescriptorKeyword → ReadM Entry
  | .RENDEZVOUS_SERVICE_DESCRIPTOR => Entry.descriptorId <$> args ArgM.parseBase32Digest
  | .VERSION => (fun _ => Entry.other) <$> args parseVersion
  | .PERMANENT_KEY => Entry.permanentKey <$> parsePublicKey
  | .SECRET_ID_PART => Entry.secretIdPart <$> args ArgM.parseBase32Digest
  | .PUBLICATION_TIME => Entry.publicationTime <$> args (ArgM.parseTimestamp P)
  | .PROTOCOL_VERSIONS => Entry.protocolVersions <$> args ArgM.parseIntegerList
  | .INTRODUCTION_POINTS => Entry.introductionPoints <$> parseObject
  | .SIGNATURE => Entry.signature <$> parseSignature
  | .UNKNOWN_KEYWORD => return .other

theorem readKeyword_front (keyword : HSDescriptorKeyword) :
    Front unread (readKeyword P keyword) := by
  cases keyword with
  | RENDEZVOUS_SERVICE_DESCRIPTOR | VERSION | SECRET_ID_PART | PUBLICATION_TIME
  | PROTOCOL_VERSIONS => exact (args_front _).map _
  | PERMANENT_KEY => exact parsePublicKey_front.map _
  | INTRODUCTION_POINTS => exact parseObject_front.map _
  | SIGNATURE => exact parseSignature_front.map _
  | UNKNOWN_KEYWORD => exact Front.pure _

def actOn : Entry → HandlerM HSDescriptorParser Unit
  | .descriptorId id => setDescriptor fun d => { d with descriptorId := some id }
  | .permanentKey key => setDescriptor fun d => { d with permanentKey := some key }
  | .secretIdPart part => setDescriptor fun d => { d with secretIdPart := some part }
  | .publicationTime time => setDescriptor fun d => { d with publicationTime := some time }
  | .protocolVersions versions => setDescriptor fun d => { d with protocolVersions := some versions }
  | .introductionPoints ob => addIntroductionPoints P cookie ob
  | .signature signature => finishSignature P signature
  | .other => return ()

def descriptorFormat : Format HSDescriptorParser Entry where
  recognizeOpt := false
  before keyword :=
    if HSDescriptorKeyword.findKeyword keyword = .SIGNATURE then
      onRecorder Recorder.endSignedEntity
    else return ()
  readEntry keyword := readKeyword P (HSDescriptorKeyword.findKeyword keyword)
  readEntry_front _ := readKeyword_front P _
  act := actOn P cookie

theorem processKeywordLine_eq_format :
    processKeywordLine P cookie = (descriptorFormat P cookie).parseKeywordLine := by
  funext s
  unfold processKeywordLine Format.parseKeywordLine
  rw [bind_run, bind_run]
  simp only [getCurrentKeyword, descriptorFormat]
  cases hk : HSDescriptorKeyword.findKeyword s.cursor.currentKeyword with
  | VERSION =>
    simp only [ne_eq, reduceCtorEq, not_false_eq_true, if_true, if_false, processKeyword,
      readKeyword, handle_pure_bind, read_map_bind, actOn]
    rw [bind_run]
    cases read (args parseVersion) s with
    | ok | error => rfl
  | UNKNOWN_KEYWORD =>
    simp only [ne_eq, not_true_eq_false, reduceCtorEq, if_false, readKeyword, handle_pure_bind,
      read_pure_bind, actOn]
    rfl
  | _ =>
    simp only [ne_eq, reduceCtorEq, not_false_eq_true, if_true, if_false, processKeyword,
      readKeyword, handle_pure_bind, read_map_bind, actOn]

/-! ## What the lines do to the descriptor

Whether a line ends the parse with a parsing error can be told from the line and the cookie:
it cannot be read, or its introduction points cannot be decrypted. Every other line assigns
a field, appends introduction points, or leaves the descriptor alone. -/

/-- The introduction points of an object, as far as they were handed over. -/
def pointsOf (ob : DocumentObject) : List IntroductionPoint :=
  match createIntroductionPointBuffer P cookie ob with
  | .ok buffer => (IntroductionPointParser.parseBuffer buffer).1
  | .error _ => []

def applyEntry (d : HSDescriptor) : Entry → HSDescriptor
  | .descriptorId id => { d with descriptorId := some id }
  | .permanentKey key => { d with permanentKey := some key }
  | .secretIdPart part => { d with secretIdPart := some part }
  | .publicationTime time => { d with publicationTime := some time }
  | .protocolVersions versions => { d with protocolVersions := some versions }
  | .introductionPoints ob =>
    { d with introductionPoints := d.introductionPoints ++ pointsOf P cookie ob }
  | .signature _ => d
  | .other => d

def accepts : Item Entry → Bool
  | .failed _ _ _ _ => false
  | .entry _ _ _ (.introductionPoints ob) => (createIntroductionPointBuffer P cookie ob).isOk
  | _ => true

def Item.entry? : Item Entry → Option Entry
  | .entry _ _ _ entry => some entry
  | _ => none

/-- What the lines say, up to the first one that ends the parse. -/
def statements (ls : List JString) : List Entry :=
  (((descriptorFormat P cookie).items ls).takeWhile (accepts P cookie)).filterMap Item.entry?

/-- The parser of introduction points catches its own parsing errors. -/
theorem parseBuffer_raises (buffer : List UInt8) (message : JString) :
    (IntroductionPointParser.parseBuffer buffer).2 ≠ .error (.torParsing message) := by
  unfold IntroductionPointParser.parseBuffer IntroductionPointParser.parse catchParsingError
  intro h
  cases hrun : processDocument false IntroductionPointParser.processKeywordLine
      (handle (onDocument IntroductionPointParser.validateAndReportIntroductionPoint))
      ⟨⟨lines buffer, [], []⟩, ⟨{ }, { }⟩⟩ with
  | ok u s => rw [hrun] at h; cases h
  | error e s =>
    rw [hrun] at h
    cases e <;> cases h

/-- What becomes of an object of introduction points. -/
theorem addIntroductionPoints_run (ob : DocumentObject) (h : HandlerState HSDescriptorParser) :
    addIntroductionPoints P cookie ob h =
      match createIntroductionPointBuffer P cookie ob with
      | .error e => .error e h
      | .ok buffer =>
        fromExcept (IntroductionPointParser.parseBuffer buffer).2
          { h with document := { h.document with
              descriptor := applyEntry P cookie h.document.descriptor (.introductionPoints ob) } } := by
  unfold addIntroductionPoints
  rw [bind_run]
  cases hbuffer : createIntroductionPointBuffer P cookie ob with
  | error e => rfl
  | ok buffer =>
    simp only [applyEntry, pointsOf, hbuffer]
    rfl

/-- The check of a signature answers or raises, but never with a parsing error. -/
theorem verifySignedEntity_answer {δ : Type} (publicKey : Option TorPublicKey)
    (signature : TorSignature) (h : HandlerState δ) :
    ∃ y, verifySignedEntity P publicKey signature h =
        answer y { h with recorder := h.recorder.endSignedEntity } ∧
      ∀ message, y ≠ .error (.torParsing message) := by
  rw [verifySignedEntity_run]
  cases publicKey with
  | none => exact ⟨.error .nullPointer, rfl, fun _ => nofun⟩
  | some key =>
    cases h.recorder.signatureDigest with
    | none => exact ⟨.error .nullPointer, rfl, fun _ => nofun⟩
    | some digest =>
      refine ⟨key.verifySignature P signature (digest.getDigestBytes P), ?_, fun message => ?_⟩
      · show fromExcept _ _ = _
        cases key.verifySignature P signature (digest.getDigestBytes P) <;> rfl
      · unfold TorPublicKey.verifySignature
        have hraises := P.rsaDecrypt_raises key signature.signatureBytes message
        cases hrsa : P.rsaDecrypt key signature.signatureBytes with
        | ok data => exact nofun
        | error e =>
          intro herror
          cases herror
          exact hraises hrsa

theorem warnSignatureFailed_raises (descriptor : HSDescriptor) (message : JString) :
    warnSignatureFailed descriptor ≠ .error (.torParsing message) := by
  unfold warnSignatureFailed
  cases descriptor.descriptorId with
  | none => exact nofun
  | some id =>
    intro h
    simp only [HexDigest.toBase32, Base32.base32Encode] at h
    split at h <;> cases h

/-- A signature line may hand the descriptor out; it changes nothing else in the document
and raises no parsing error. -/
theorem finishSignature_spec (signature : TorSignature) (h : HandlerState HSDescriptorParser) :
    ((final (finishSignature P signature h)).document = h.document ∨
      (final (finishSignature P signature h)).document = { h.document with handedOut := true }) ∧
      ∀ message h', finishSignature P signature h ≠ .error (.torParsing message) h' := by
  obtain ⟨y, hy, hraises⟩ :=
    verifySignedEntity_answer P h.document.descriptor.permanentKey signature h
  have hrun : finishSignature P signature h =
      (verifySignedEntity P h.document.descriptor.permanentKey signature >>= fun verified =>
        if !verified then do
          let _ ← fromExcept (warnSignatureFailed h.document.descriptor)
        else onDocument fun p => { p with handedOut := true }) h := rfl
  rw [hrun, bind_run, hy]
  cases y with
  | error e =>
    refine ⟨Or.inl rfl, fun message h' herror => ?_⟩
    cases herror
    exact hraises message rfl
  | ok verified =>
    cases verified with
    | true => exact ⟨Or.inr rfl, fun message h' => nofun⟩
    | false =>
      -- the warning can only raise
      have hwarn := warnSignatureFailed_raises h.document.descriptor
      cases hw : warnSignatureFailed h.document.descriptor with
      | ok name => exact ⟨Or.inl rfl, fun message h' => nofun⟩
      | error e =>
        refine ⟨Or.inl rfl, fun message h' herror => ?_⟩
        cases herror
        exact hwarn message hw

theorem finishSignature_descriptor (signature : TorSignature)
    (h : HandlerState HSDescriptorParser) :
    (final (finishSignature P signature h)).document.descriptor = h.document.descriptor := by
  rcases (finishSignature_spec P signature h).1 with hdoc | hdoc <;> rw [hdoc]

variable {h h' : HandlerState HSDescriptorParser} {body : List JString}

/-- An entry that is acted on changes the descriptor as it says. Only introduction points that
cannot be decrypted make one raise a parsing error. -/
theorem actOn_viewed (line keyword : JString) (entry : Entry)
    (h : HandlerState HSDescriptorParser) :
    Format.Viewed (fun h => h.document.descriptor)
      (accepts P cookie (.entry line keyword body entry)) h.document.descriptor
      (applyEntry P cookie h.document.descriptor entry) (actOn P cookie entry h) := by
  cases entry with
  | introductionPoints ob =>
    show Format.Viewed _ _ _ _ (addIntroductionPoints P cookie ob h)
    rw [addIntroductionPoints_run]
    simp only [accepts]
    cases createIntroductionPointBuffer P cookie ob with
    | error e =>
      cases e with
      | torParsing message => exact ⟨rfl, rfl⟩
      | _ => trivial
    | ok buffer =>
      have hraises := parseBuffer_raises buffer
      dsimp only
      cases houtcome : (IntroductionPointParser.parseBuffer buffer).2 with
      | ok u => exact ⟨rfl, rfl⟩
      | error e =>
        cases e with
        | torParsing message => exact absurd houtcome (hraises message)
        | _ => trivial
  | signature signature =>
    show Format.Viewed _ _ _ _ (finishSignature P signature h)
    have hdescriptor := finishSignature_descriptor P signature h
    have hraises := (finishSignature_spec P signature h).2
    cases hrun : finishSignature P signature h with rw [hrun] at hdescriptor
    | ok u h' => exact ⟨rfl, hdescriptor⟩
    | error e h' =>
      cases e with
      | torParsing message => exact absurd hrun (hraises message h')
      | _ => trivial
  | _ => exact ⟨rfl, rfl⟩

/-- Recording and closing the signed text aside, an item is its entry, or what reading it raised. -/
theorem replayItem_recorded (line keyword : JString) (body : List JString)
    (h : HandlerState HSDescriptorParser) :
    ∃ recorder, (∀ entry, (descriptorFormat P cookie).replayItem (.entry line keyword body entry) h =
        actOn P cookie entry { h with recorder := recorder }) ∧
      ∀ e, (descriptorFormat P cookie).replayItem (.failed line keyword body e) h =
        .error e { h with recorder := recorder } := by
  by_cases hk : HSDescriptorKeyword.findKeyword keyword = .SIGNATURE
  · refine ⟨(h.recorder.record line).endSignedEntity.recordLines body, ?_⟩
    simp only [Format.replayItem, descriptorFormat, if_pos hk]
    exact ⟨fun _ => rfl, fun _ => rfl⟩
  · refine ⟨(h.recorder.record line).recordLines body, ?_⟩
    simp only [Format.replayItem, descriptorFormat, if_neg hk]
    exact ⟨fun _ => rfl, fun _ => rfl⟩

/-- A run that returns leaves the descriptor its lines describe, over what it was before. -/
theorem replay_descriptor {ls : List JString}
    (hrun : Format.Ended ((descriptorFormat P cookie).replay
      ((descriptorFormat P cookie).items ls) h) h') :
    h'.document.descriptor =
      (statements P cookie ls).foldl (applyEntry P cookie) h.document.descriptor := by
  unfold statements
  rw [List.foldl_filterMap]
  refine Format.replay_view (descriptorFormat P cookie) (fun h => h.document.descriptor)
    (fun item h => ?_) hrun
  cases item with
  | blank line => exact ⟨rfl, rfl⟩
  | entry line keyword body entry =>
    obtain ⟨recorder, hentry, -⟩ := replayItem_recorded P cookie line keyword body h
    rw [hentry]
    exact actOn_viewed P cookie line keyword entry { h with recorder := recorder }
  | failed line keyword body e =>
    obtain ⟨recorder, -, hfailed⟩ := replayItem_recorded P cookie line keyword body h
    rw [hfailed]
    cases e with
    | torParsing message => exact ⟨rfl, rfl⟩
    | _ => trivial

end HSDescriptorParser

end Orchid
