import Orchid.Directory.DocumentParser

/-!
# Orchid — authority key certificates

A key certificate states an authority's long-term identity key and the medium-term signing
key it vouches for. `KeyCertificateParser` reads any number of them from one buffer.

* **`processKeywordLine_eq_format`**: the handler of the source is the format
  `certificateFormat`, so a parse is a replay of the document's entries.
* **`reported_certified`**: of every reported certificate, what the parser has checked: the
  certification signature covers the certificate's own text, and every cross signature in
  it was verified under the keys in force at its line.
-/

namespace Orchid

open Prog Recorder

structure KeyCertificate where
  directoryAddress : Option IPv4Address := none
  directoryPort : Int := 0
  fingerprint : Option HexDigest := none
  identityKey : Option TorPublicKey := none
  keyPublished : Option Int := none
  keyExpires : Option Int := none
  signingKey : Option TorPublicKey := none
  rawDocumentData : Option JString := none
  hasValidSignature : Bool := false
  deriving DecidableEq

namespace KeyCertificate

def getAuthorityFingerprint (c : KeyCertificate) : Option HexDigest := c.fingerprint

def isValidDocument (c : KeyCertificate) : Bool :=
  c.hasValidSignature && c.fingerprint.isSome && c.identityKey.isSome &&
    c.keyPublished.isSome && c.keyExpires.isSome && c.signingKey.isSome

/-- `isExpired` at the time `now`; without an expiry date a certificate never expires. -/
def isExpired (c : KeyCertificate) (now : Int) : Bool :=
  match c.keyExpires with
  | some t => t < now
  | none => false

end KeyCertificate

inductive KeyCertificateKeyword where
  | DIR_KEY_CERTIFICATE_VERSION
  | DIR_ADDRESS
  | FINGERPRINT
  | DIR_IDENTITY_KEY
  | DIR_KEY_PUBLISHED
  | DIR_KEY_EXPIRES
  | DIR_SIGNING_KEY
  | DIR_KEY_CROSSCERT
  | DIR_KEY_CERTIFICATION
  | UNKNOWN_KEYWORD
  deriving DecidableEq, Repr

namespace KeyCertificateKeyword

def getKeyword : KeyCertificateKeyword → JString
  | DIR_KEY_CERTIFICATE_VERSION => lit "dir-key-certificate-version"
  | DIR_ADDRESS => lit "dir-address"
  | FINGERPRINT => lit "fingerprint"
  | DIR_IDENTITY_KEY => lit "dir-identity-key"
  | DIR_KEY_PUBLISHED => lit "dir-key-published"
  | DIR_KEY_EXPIRES => lit "dir-key-expires"
  | DIR_SIGNING_KEY => lit "dir-signing-key"
  | DIR_KEY_CROSSCERT => lit "dir-key-crosscert"
  | DIR_KEY_CERTIFICATION => lit "dir-key-certification"
  | UNKNOWN_KEYWORD => lit "KEYWORD NOT FOUND"

def values : List KeyCertificateKeyword :=
  [DIR_KEY_CERTIFICATE_VERSION, DIR_ADDRESS, FINGERPRINT, DIR_IDENTITY_KEY, DIR_KEY_PUBLISHED,
    DIR_KEY_EXPIRES, DIR_SIGNING_KEY, DIR_KEY_CROSSCERT, DIR_KEY_CERTIFICATION, UNKNOWN_KEYWORD]

def findKeyword (keyword : JString) : KeyCertificateKeyword :=
  (values.find? fun k => k.getKeyword = keyword).getD UNKNOWN_KEYWORD

end KeyCertificateKeyword

/-! ## The parser -/

/-- The fields of `KeyCertificateParser` next to the field parser. -/
structure CertificateParser where
  currentCertificate : KeyCertificate := { }
  result : DocumentParsingResult KeyCertificate := { }

namespace KeyCertificateParser

variable (P : Platform)

def CURRENT_CERTIFICATE_VERSION : Int := 3

def setCertificate (f : KeyCertificate → KeyCertificate) : HandlerM CertificateParser Unit :=
  onDocument fun p => { p with currentCertificate := f p.currentCertificate }

def startNewCertificate : HandlerM CertificateParser Unit := do
  onRecorder resetRawDocument
  onRecorder startSignedEntity
  onDocument fun p => { p with currentCertificate := { } }

def processCertificateVersion : ArgM Unit := do
  let version ← ArgM.parseInteger
  if version ≠ CURRENT_CERTIFICATE_VERSION then
    throw (.torParsing (lit "Unexpected certificate version: " ++ showInt version))

/-- The address and port of a `dir-address` line; they are stored once both are read. -/
def processDirectoryAddress : ArgM (IPv4Address × Int) := do
  let addrport ← ArgM.parseString
  match split ':' addrport with
  | [address, port] =>
    let address ← IPv4Address.createFromString address
    let port ← ArgM.parsePortOf port
    return (address, port)
  | _ => throw (.torParsing (lit "Address/Port string incorrectly formed: " ++ addrport))

/-- `verifyCrossSignature`, on the keys set so far. The fingerprint argument is evaluated
before the signing key is dereferenced. -/
def verifyCrossSignature (crossSignature : TorSignature) : HandlerM CertificateParser Unit := do
  let certificate := (← get).document.currentCertificate
  match certificate.identityKey with
  | none => throw .nullPointer
  | some identityKey =>
    let fingerprint ← fromExcept (identityKey.getFingerprint P)
    match certificate.signingKey with
    | none => throw .nullPointer
    | some signingKey =>
      if !(← fromExcept (signingKey.verifySignature P crossSignature fingerprint.digestBytes)) then
        throw (.torParsing (lit "Cross signature on certificate failed."))

def documentInvalid (message : JString) : HandlerM CertificateParser Unit :=
  onDocument fun p =>
    { p with result := p.result.documentInvalid p.currentCertificate message }

def verifyCurrentCertificate (signature : TorSignature) : HandlerM CertificateParser Bool := do
  let certificate := (← get).document.currentCertificate
  if !(← verifySignedEntity P certificate.identityKey signature) then
    documentInvalid (lit "Signature failed")
    return false
  setCertificate fun c => { c with hasValidSignature := true }
  let isValid := (← get).document.currentCertificate.isValidDocument
  if !isValid then
    documentInvalid (lit "Certificate data is invalid")
  return isValid

/-- `processCertificateSignature` behind the reading of the signature. -/
def finishCertificate (signature : TorSignature) : HandlerM CertificateParser Unit := do
  if ← verifyCurrentCertificate P signature then
    let raw := (← get).recorder.rawDocumentBuffer
    setCertificate fun c => { c with rawDocumentData := some raw }
    onDocument fun p => { p with result := p.result.documentParsed p.currentCertificate }
  startNewCertificate

def processKeyword : KeyCertificateKeyword → ParserM CertificateParser Unit
  | .DIR_KEY_CERTIFICATE_VERSION => read (args processCertificateVersion)
  | .DIR_ADDRESS => do
    let (address, port) ← read (args processDirectoryAddress)
    handle (setCertificate fun c => { c with directoryAddress := some address, directoryPort := port })
  | .FINGERPRINT => do
    let fingerprint ← read (args ArgM.parseHexDigest)
    handle (setCertificate fun c => { c with fingerprint := some fingerprint })
  | .DIR_IDENTITY_KEY => do
    let key ← read parsePublicKey
    handle (setCertificate fun c => { c with identityKey := some key })
  | .DIR_SIGNING_KEY => do
    let key ← read parsePublicKey
    handle (setCertificate fun c => { c with signingKey := some key })
  | .DIR_KEY_PUBLISHED => do
    let time ← read (args (ArgM.parseTimestamp P))
    handle (setCertificate fun c => { c with keyPublished := some time })
  | .DIR_KEY_EXPIRES => do
    let time ← read (args (ArgM.parseTimestamp P))
    handle (setCertificate fun c => { c with keyExpires := some time })
  | .DIR_KEY_CROSSCERT => do
    let crossSignature ← read parseSignature
    handle (verifyCrossSignature P crossSignature)
  | .DIR_KEY_CERTIFICATION => do
    handle (onRecorder endSignedEntity)
    let signature ← read parseSignature
    handle (finishCertificate P signature)
  | .UNKNOWN_KEYWORD => return ()

def processKeywordLine : ParserM CertificateParser Unit := do
  let keyword := KeyCertificateKeyword.findKeyword (← getCurrentKeyword)
  if keyword ≠ .UNKNOWN_KEYWORD then processKeyword P keyword

/-- `parse(resultHandler)`. -/
def parse : ParserM CertificateParser Bool := do
  handle startNewCertificate
  catchParsingError (processDocument false (processKeywordLine P) (handle (return ())))
    fun message => onDocument fun p => { p with result := p.result.parsingError message }

/-- The certificates handed to `documentParsed` while `input` is parsed, also when the parse
ends with an exception. -/
def reported (input : List UInt8) : List KeyCertificate :=
  (final (parse P ⟨⟨lines input, [], []⟩, ⟨{ }, { }⟩⟩)).handler.document.result.documents

/-! ## The entries of a certificate -/

/-- What a line of a certificate says. -/
inductive Entry where
  | version
  | address (address : IPv4Address) (port : Int)
  | fingerprint (fingerprint : HexDigest)
  | identityKey (key : TorPublicKey)
  | signingKey (key : TorPublicKey)
  | published (time : Int)
  | expires (time : Int)
  | crosscert (signature : TorSignature)
  | certification (signature : TorSignature)
  | unknown
  deriving DecidableEq

def readEntry : KeyCertificateKeyword → ReadM Entry
  | .DIR_KEY_CERTIFICATE_VERSION => (fun _ => .version) <$> args processCertificateVersion
  | .DIR_ADDRESS => (fun a => .address a.1 a.2) <$> args processDirectoryAddress
  | .FINGERPRINT => Entry.fingerprint <$> args ArgM.parseHexDigest
  | .DIR_IDENTITY_KEY => Entry.identityKey <$> parsePublicKey
  | .DIR_SIGNING_KEY => Entry.signingKey <$> parsePublicKey
  | .DIR_KEY_PUBLISHED => Entry.published <$> args (ArgM.parseTimestamp P)
  | .DIR_KEY_EXPIRES => Entry.expires <$> args (ArgM.parseTimestamp P)
  | .DIR_KEY_CROSSCERT => Entry.crosscert <$> parseSignature
  | .DIR_KEY_CERTIFICATION => Entry.certification <$> parseSignature
  | .UNKNOWN_KEYWORD => return .unknown

theorem readEntry_front (keyword : KeyCertificateKeyword) : Front unread (readEntry P keyword) := by
  cases keyword with
  | DIR_KEY_CERTIFICATE_VERSION | DIR_ADDRESS | FINGERPRINT | DIR_KEY_PUBLISHED
  | DIR_KEY_EXPIRES => exact (args_front _).map _
  | DIR_IDENTITY_KEY | DIR_SIGNING_KEY => exact parsePublicKey_front.map _
  | DIR_KEY_CROSSCERT | DIR_KEY_CERTIFICATION => exact parseSignature_front.map _
  | UNKNOWN_KEYWORD => exact Front.pure _

/-- The fields an entry sets. The last line of a kind wins. -/
def assign (c : KeyCertificate) : Entry → KeyCertificate
  | .address address port => { c with directoryAddress := some address, directoryPort := port }
  | .fingerprint fingerprint => { c with fingerprint := some fingerprint }
  | .identityKey key => { c with identityKey := some key }
  | .signingKey key => { c with signingKey := some key }
  | .published time => { c with keyPublished := some time }
  | .expires time => { c with keyExpires := some time }
  | .version | .crosscert _ | .certification _ | .unknown => c

def act (entry : Entry) : HandlerM CertificateParser Unit :=
  match entry with
  | .crosscert crossSignature => verifyCrossSignature P crossSignature
  | .certification signature => finishCertificate P signature
  | .version | .unknown => return ()
  | _ => setCertificate (assign · entry)

def certificateFormat : Format CertificateParser Entry where
  recognizeOpt := false
  before keyword :=
    if KeyCertificateKeyword.findKeyword keyword = .DIR_KEY_CERTIFICATION then
      onRecorder endSignedEntity
    else return ()
  readEntry keyword := readEntry P (KeyCertificateKeyword.findKeyword keyword)
  readEntry_front _ := readEntry_front P _
  act := act P

theorem processKeywordLine_eq_format :
    processKeywordLine P = (certificateFormat P).parseKeywordLine := by
  funext s
  show (if _ then _ else _ : ParserM CertificateParser Unit) s = _
  unfold Format.parseKeywordLine
  rw [bind_run]
  simp only [getCurrentKeyword, certificateFormat]
  cases hk : KeyCertificateKeyword.findKeyword s.cursor.currentKeyword with
  | UNKNOWN_KEYWORD =>
    simp only [ne_eq, not_true_eq_false, reduceCtorEq, if_false, readEntry, handle_pure_bind,
      read_pure_bind]
    rfl
  | DIR_KEY_CERTIFICATE_VERSION =>
    simp only [ne_eq, reduceCtorEq, not_false_eq_true, if_true, if_false, processKeyword, readEntry,
      handle_pure_bind, read_map_bind, act]
    rw [bind_run]
    cases read (args processCertificateVersion) s <;> rfl
  | _ =>
    simp only [ne_eq, reduceCtorEq, not_false_eq_true, if_true, if_false, processKeyword, readEntry,
      handle_pure_bind, read_map_bind, act, assign]

/-! ## What the parser has checked

The items of the certificate being read are its block. Along a replay the recorder holds
exactly the text of the block and the certificate the fields its entries set. -/

/-- The fields set by the entries of a block. -/
def fieldsOf (block : List (Item Entry)) : KeyCertificate :=
  block.foldl (fun c item => match item with
    | .entry _ _ _ e => assign c e
    | _ => c) { }

variable (block : List (Item Entry))

@[simp] theorem fieldsOf_append_entry (line keyword : JString) (body : List JString) (e : Entry) :
    fieldsOf (block ++ [.entry line keyword body e]) = assign (fieldsOf block) e := by
  simp [fieldsOf]

@[simp] theorem fieldsOf_append_blank (line : JString) :
    fieldsOf (block ++ [.blank line]) = fieldsOf block := by
  simp [fieldsOf]

/-- The cross signature verifies under the keys a certificate has. -/
def CrossVerifies (c : KeyCertificate) (signature : TorSignature) : Prop :=
  ∃ identityKey signingKey fingerprint, c.identityKey = some identityKey ∧
    c.signingKey = some signingKey ∧ identityKey.getFingerprint P = .ok fingerprint ∧
    signingKey.verifySignature P signature fingerprint.digestBytes = .ok true

/-- Every cross signature of the block verifies under the keys in force at its line. -/
def CrossChecked (block : List (Item Entry)) : Prop :=
  ∀ before line keyword body signature after,
    block = before ++ .entry line keyword body (.crosscert signature) :: after →
    CrossVerifies P (fieldsOf before) signature

/-- The recorder of an open certificate whose text so far is `text`. -/
def openRecorder (text : JString) : Recorder where
  isProcessingSignedEntity := true
  signatureDigest := some { data := latin1 text }
  signatureDigest256 := some { isDigest256 := true, data := latin1 text }
  rawDocumentBuffer := text

/-- An item as a document cut by `lines` has it. -/
def Sound (item : Item Entry) : Prop :=
  (certificateFormat P).Complete item ∧ ∀ line ∈ item.lines, CleanLine line

def textOf (block : List (Item Entry)) : JString := unlines (block.flatMap Item.lines)

/-- What is known of a certificate when it is handed to `documentParsed`. -/
structure Certified (c : KeyCertificate) (block : List (Item Entry)) (line keyword : JString)
    (body : List JString) (signature : TorSignature) : Prop where
  sound : ∀ item ∈ block ++ [.entry line keyword body (.certification signature)], Sound P item
  fields : c = { fieldsOf block with
    hasValidSignature := true
    rawDocumentData := some (textOf (block ++ [.entry line keyword body (.certification signature)])) }
  valid : c.isValidDocument = true
  cross : CrossChecked P block
  signed : ∃ key, c.identityKey = some key ∧ key.verifySignature P signature
    (P.sha1 (latin1 (textOf block ++ line ++ lit "\n"))) = .ok true

def AllCertified (s : HandlerState CertificateParser) : Prop :=
  ∀ c ∈ s.document.result.documents,
    ∃ block line keyword body signature, Certified P c block line keyword body signature

/-- The state while the items of `block` have been read since the last certificate. -/
structure Reading (s : HandlerState CertificateParser) (block : List (Item Entry)) : Prop where
  recorder : s.recorder = openRecorder (textOf block)
  certificate : s.document.currentCertificate = fieldsOf block
  sound : ∀ item ∈ block, Sound P item
  cross : CrossChecked P block
  reported : AllCertified P s

variable {P}

theorem openRecorder_recordLines (text : JString) (ls : List JString) :
    (openRecorder text).recordLines ls = openRecorder (text ++ unlines ls) := by
  rw [recordLines_open rfl rfl]
  simp [openRecorder, TorMessageDigest.update, latin1]

theorem openRecorder_record (text line : JString) :
    (openRecorder text).record line = openRecorder (text ++ line ++ lit "\n") := by
  have hone := openRecorder_recordLines text [line]
  rwa [show unlines [line] = line ++ lit "\n" by simp [unlines], ← List.append_assoc] at hone

theorem textOf_append_singleton (item : Item Entry) :
    textOf (block ++ [item]) = textOf block ++ unlines item.lines := by
  simp [textOf]

/-- Only a `dir-key-certification` line makes a certification entry. -/
theorem readEntry_certification {keyword : KeyCertificateKeyword} {c c' : Cursor} {e : Entry}
    (h : readEntry P keyword c = .ok e c') :
    keyword = .DIR_KEY_CERTIFICATION ↔ ∃ signature, e = .certification signature := by
  have hmap : ∀ {α : Type} {f : α → Entry} {x : ReadM α}, (f <$> x) c = .ok e c' →
      ∃ a, e = f a := by
    intro α f x hx
    rw [map_run] at hx
    cases hxc : x c with rw [hxc] at hx
    | ok a s => cases hx; exact ⟨a, rfl⟩
    | error ex s => cases hx
  cases keyword with
  | UNKNOWN_KEYWORD => cases h; simp
  | DIR_KEY_CERTIFICATION =>
    obtain ⟨signature, rfl⟩ := hmap h
    exact ⟨fun _ => ⟨signature, rfl⟩, fun _ => rfl⟩
  | _ =>
    obtain ⟨a, rfl⟩ := hmap h
    simp

theorem CrossChecked.nil : CrossChecked P [] := by
  intro before line keyword body signature after hnil
  exact absurd hnil.symm (List.append_ne_nil_of_right_ne_nil _ (List.cons_ne_nil _ _))

variable {block : List (Item Entry)} {item : Item Entry} {body : List JString}
  {keyword line : JString} {s : HandlerState CertificateParser}

theorem CrossChecked.append (h : CrossChecked P block)
    (hitem : ∀ line keyword body signature, item = .entry line keyword body (.crosscert signature) →
      CrossVerifies P (fieldsOf block) signature) :
    CrossChecked P (block ++ [item]) := by
  intro before line keyword body signature after hsplit
  rcases List.eq_nil_or_concat after with rfl | ⟨after', last, rfl⟩
  · -- the cross signature is the new item
    obtain ⟨rfl, hlast⟩ := List.append_inj' hsplit rfl
    exact hitem line keyword body signature (List.singleton_injective hlast)
  · have hsplit' : block ++ [item] =
        (before ++ .entry line keyword body (.crosscert signature) :: after') ++ [last] := by
      rw [hsplit]
      simp
    obtain ⟨hblock, -⟩ := List.append_inj' hsplit' rfl
    exact h before line keyword body signature after' hblock

/-- `verifyCrossSignature` changes nothing and returns only if the signature verifies. -/
theorem verifyCrossSignature_spec (signature : TorSignature) (s : HandlerState CertificateParser) :
    (∃ e, verifyCrossSignature P signature s = .error e s) ∨
      verifyCrossSignature P signature s = .ok () s ∧
        CrossVerifies P s.document.currentCertificate signature := by
  unfold verifyCrossSignature CrossVerifies
  rw [bind_run, get_run]
  dsimp only
  cases hident : s.document.currentCertificate.identityKey with
  | none => exact Or.inl ⟨_, rfl⟩
  | some identityKey =>
    dsimp only
    cases hfp : identityKey.getFingerprint P with
    | error e => exact Or.inl ⟨_, rfl⟩
    | ok fingerprint =>
      rw [bind_run, fromExcept_ok]
      dsimp only
      cases hsign : s.document.currentCertificate.signingKey with
      | none => exact Or.inl ⟨_, rfl⟩
      | some signingKey =>
        dsimp only
        cases hver : signingKey.verifySignature P signature fingerprint.digestBytes with
        | error e => exact Or.inl ⟨_, rfl⟩
        | ok b =>
          cases b with
          | false => exact Or.inl ⟨_, rfl⟩
          | true =>
            exact Or.inr ⟨rfl, identityKey, signingKey, fingerprint, rfl, rfl, hfp, hver⟩

/-- What `finishCertificate` may add to the reported certificates: the current one, if it is
valid and its signature verifies over the running digest. -/
def Accepted (s : HandlerState CertificateParser) (signature : TorSignature) (c : KeyCertificate) :
    Prop :=
  c = { s.document.currentCertificate with
    hasValidSignature := true, rawDocumentData := some s.recorder.rawDocumentBuffer } ∧
  c.isValidDocument = true ∧ ∃ key digest, c.identityKey = some key ∧
    s.recorder.signatureDigest = some digest ∧
    key.verifySignature P signature (digest.getDigestBytes P) = .ok true

theorem finishCertificate_spec (signature : TorSignature) (s : HandlerState CertificateParser) :
    (∀ c ∈ (final (finishCertificate P signature s)).document.result.documents,
      c ∈ s.document.result.documents ∨ Accepted (P := P) s signature c) ∧
    ∀ u s', finishCertificate P signature s = .ok u s' →
      s'.recorder = s.recorder.endSignedEntity.resetRawDocument.startSignedEntity ∧
      s'.document.currentCertificate = { } := by
  unfold finishCertificate verifyCurrentCertificate
  simp only [bind_run, get_run, verifySignedEntity_run]
  cases hkey : s.document.currentCertificate.identityKey with
  | none => exact ⟨fun c hc => Or.inl hc, fun u s' h => by cases h⟩
  | some key =>
    cases hdigest : s.recorder.signatureDigest with
    | none => exact ⟨fun c hc => Or.inl hc, fun u s' h => by cases h⟩
    | some digest =>
      dsimp only
      cases hver : key.verifySignature P signature (digest.getDigestBytes P) with
      | error e => exact ⟨fun c hc => Or.inl hc, fun u s' h => by cases h⟩
      | ok b =>
        cases b with
        | false =>
          refine ⟨fun c hc => Or.inl hc, fun u s' h => ?_⟩
          cases h
          exact ⟨rfl, rfl⟩
        | true =>
          -- the signature holds; what remains is whether all fields are there
          cases hvalid : ({ s.document.currentCertificate with
              hasValidSignature := true } : KeyCertificate).isValidDocument with
          | false =>
            simp only [fromExcept_ok, Bool.not_true, Bool.false_eq_true, if_false, setCertificate,
              onDocument, modify_run, get_run, hvalid, Bool.not_false, if_true, documentInvalid,
              pure_run, bind_run]
            refine ⟨fun c hc => Or.inl hc, fun u s' h => ?_⟩
            cases h
            exact ⟨rfl, rfl⟩
          | true =>
            simp only [fromExcept_ok, Bool.not_true, Bool.false_eq_true, if_false, setCertificate,
              onDocument, modify_run, get_run, hvalid, if_true, pure_run, bind_run]
            refine ⟨fun c hc => ?_, fun u s' h => ?_⟩
            · rcases List.mem_append.mp hc with hc | hc
              · exact Or.inl hc
              · obtain rfl := List.mem_singleton.mp hc
                exact Or.inr ⟨rfl, hvalid, key, digest, hkey, hdigest, hver⟩
            · cases h
              exact ⟨rfl, rfl⟩

/-! ### One item -/

/-- Lines other than a certification are recorded and then acted on. -/
theorem replayItem_entry {e : Entry}
    (hkeyword : KeyCertificateKeyword.findKeyword keyword ≠ .DIR_KEY_CERTIFICATION)
    (s : HandlerState CertificateParser) :
    (certificateFormat P).replayItem (.entry line keyword body e) s =
      act P e { s with recorder := s.recorder.recordLines (line :: body) } := by
  have hbefore : (certificateFormat P).before keyword = pure () := if_neg hkeyword
  simp only [Format.replayItem, hbefore]
  rfl

variable {signature : TorSignature}

/-- The signed entity ends behind the certification line, before its signature. -/
theorem replayItem_certification
    (hkeyword : KeyCertificateKeyword.findKeyword keyword = .DIR_KEY_CERTIFICATION)
    (s : HandlerState CertificateParser) :
    (certificateFormat P).replayItem (.entry line keyword body (.certification signature)) s =
      finishCertificate P signature
        { s with recorder := (s.recorder.record line).endSignedEntity.recordLines body } := by
  have hbefore : (certificateFormat P).before keyword = onRecorder endSignedEntity :=
    if_pos hkeyword
  simp only [Format.replayItem, hbefore]
  rfl

/-- An entry that is no signature extends the block. -/
theorem Reading.extend {s' : HandlerState CertificateParser} (h : Reading P s block)
    (hitem : Sound P item) (hrecorder : s'.recorder = s.recorder.recordLines item.lines)
    (hcertificate : s'.document.currentCertificate = fieldsOf (block ++ [item]))
    (hresult : s'.document.result = s.document.result) (hcross : ∀ line keyword body signature,
      item = .entry line keyword body (.crosscert signature) →
      CrossVerifies P (fieldsOf block) signature) :
    Reading P s' (block ++ [item]) where
  recorder := by
    rw [hrecorder, h.recorder, openRecorder_recordLines, textOf_append_singleton]
  certificate := hcertificate
  sound := List.forall_mem_append.mpr ⟨h.sound, List.forall_mem_singleton.mpr hitem⟩
  cross := h.cross.append hcross
  reported := by
    unfold AllCertified
    rw [hresult]
    exact h.reported

/-- A certification line over the block: what is accepted is certified. -/
theorem Reading.certified {c : KeyCertificate} (h : Reading P s block)
    (hitem : Sound P (.entry line keyword body (.certification signature))) (hc : Accepted (P := P)
      { s with recorder := (s.recorder.record line).endSignedEntity.recordLines body } signature c) :
    Certified P c block line keyword body signature := by
  obtain ⟨hfields, hvalid, key, digest, hkey, hdigest, hver⟩ := hc
  have hclosed : (s.recorder.record line).endSignedEntity.recordLines body =
      { (openRecorder (textOf block ++ line ++ lit "\n")).endSignedEntity with
        rawDocumentBuffer := textOf block ++ line ++ lit "\n" ++ unlines body } := by
    rw [h.recorder, openRecorder_record, recordLines_closed rfl]
    rfl
  rw [hclosed] at hfields hdigest
  have hraw : textOf block ++ line ++ lit "\n" ++ unlines body =
      textOf (block ++ [.entry line keyword body (.certification signature)]) := by
    rw [textOf_append_singleton]
    simp [Item.lines, unlines_cons]
  refine ⟨?_, ?_, hvalid, h.cross, key, hkey, ?_⟩
  · exact List.forall_mem_append.mpr ⟨h.sound, List.forall_mem_singleton.mpr hitem⟩
  · rw [hfields, ← hraw, ← h.certificate]
  · cases hdigest
    exact hver

/-- The step lemma: an item keeps the reading state, up to a new certificate, and whatever
happens the reported certificates stay certified. -/
theorem Reading.step (h : Reading P s block) (hitem : Sound P item) :
    AllCertified P (final ((certificateFormat P).replayItem item s)) ∧
      ∀ u s', (certificateFormat P).replayItem item s = .ok u s' →
        ∃ block', Reading P s' block' := by
  cases item with
  | failed line keyword body e =>
    exact absurd hitem.1 (Format.not_complete_failed _ line keyword body e)
  | blank line =>
    have hext : Reading P { s with recorder := s.recorder.record line } (block ++ [.blank line]) :=
      h.extend hitem rfl (by rw [fieldsOf_append_blank]; exact h.certificate) rfl (by nofun)
    refine ⟨hext.reported, fun u s' hrun => ?_⟩
    cases hrun
    exact ⟨_, hext⟩
  | entry line keyword body e =>
    obtain ⟨args, c, hread⟩ := hitem.1.readEntry
    have hkind := readEntry_certification hread
    by_cases hkeyword : KeyCertificateKeyword.findKeyword keyword = .DIR_KEY_CERTIFICATION
    · obtain ⟨signature, rfl⟩ := hkind.mp hkeyword
      rw [replayItem_certification hkeyword]
      obtain ⟨hdocs, hfresh⟩ := finishCertificate_spec (P := P) signature
        { s with recorder := (s.recorder.record line).endSignedEntity.recordLines body }
      have hall : AllCertified P (final (finishCertificate P signature
          { s with recorder := (s.recorder.record line).endSignedEntity.recordLines body })) := by
        intro c hc
        rcases hdocs c hc with hc | hc
        · exact h.reported c hc
        · exact ⟨block, line, keyword, body, signature, h.certified hitem hc⟩
      refine ⟨hall, fun u s' hrun => ⟨[], ?_, ?_, nofun, ?_, ?_⟩⟩
      · have hkeep : ∀ (r : Recorder) (ls : List JString), r.isProcessingSignedEntity = false →
            r.signatureIgnoreToken = none →
            (r.recordLines ls).endSignedEntity.resetRawDocument.startSignedEntity =
              openRecorder [] := by
          intro r ls hclosed htoken
          rw [recordLines_closed hclosed]
          simp [endSignedEntity, resetRawDocument, startSignedEntity, openRecorder, htoken, latin1]
        rw [(hfresh u s' hrun).1, h.recorder, openRecorder_record]
        exact hkeep _ _ rfl rfl
      · exact (hfresh u s' hrun).2
      · exact CrossChecked.nil
      · rw [hrun] at hall
        exact hall
    · rw [replayItem_entry hkeyword]
      let t : HandlerState CertificateParser :=
        { s with recorder := s.recorder.recordLines (line :: body) }
      -- a cross signature is checked, every other entry sets fields
      have hact : (∃ ex, act P e t = .error ex t) ∨
          act P e t = .ok () { t with document := { s.document with
            currentCertificate := assign s.document.currentCertificate e } } ∧
          ∀ signature, e = .crosscert signature →
            CrossVerifies P s.document.currentCertificate signature := by
        cases e with
        | certification signature => exact absurd (hkind.mpr ⟨signature, rfl⟩) hkeyword
        | crosscert signature =>
          refine (verifyCrossSignature_spec signature t).imp id fun hspec => ⟨hspec.1, ?_⟩
          intro signature' hsame
          cases hsame
          exact hspec.2
        | _ =>
          refine Or.inr ⟨rfl, ?_⟩
          intro signature' hsame
          cases hsame
      rcases hact with ⟨ex, hrun⟩ | ⟨hrun, hverifies⟩
      · rw [hrun]
        exact ⟨h.reported, fun u s' h => by cases h⟩
      · have hext : Reading P { t with document := { s.document with
              currentCertificate := assign s.document.currentCertificate e } }
            (block ++ [.entry line keyword body e]) := by
          refine h.extend hitem rfl ?_ rfl ?_
          · rw [fieldsOf_append_entry, ← h.certificate]
          · intro line' keyword' body' signature heq
            cases heq
            rw [← h.certificate]
            exact hverifies signature rfl
        rw [hrun]
        refine ⟨hext.reported, fun u s' hrun => ?_⟩
        cases hrun
        exact ⟨_, hext⟩

/-- Reading may fail at an item; nothing but the recorder has changed there. -/
theorem replayItem_failed (line keyword : JString) (body : List JString) (e : JavaException)
    (s : HandlerState CertificateParser) :
    ∃ r, (certificateFormat P).replayItem (.failed line keyword body e) s =
      .error e { s with recorder := r } := by
  by_cases hkeyword : KeyCertificateKeyword.findKeyword keyword = .DIR_KEY_CERTIFICATION
  · have hbefore : (certificateFormat P).before keyword = onRecorder endSignedEntity :=
      if_pos hkeyword
    refine ⟨(s.recorder.record line).endSignedEntity.recordLines body, ?_⟩
    simp only [Format.replayItem, hbefore]
    rfl
  · have hbefore : (certificateFormat P).before keyword = pure () := if_neg hkeyword
    refine ⟨(s.recorder.record line).recordLines body, ?_⟩
    simp only [Format.replayItem, hbefore]
    rfl

/-! ### Whole runs -/

/-- The run lemma: along the items of a document only certified certificates are reported. -/
theorem Reading.run {items : List (Item Entry)} (h : Reading P s block) (hitems : ∀ item ∈ items,
      (∃ line keyword body e, item = .failed line keyword body e) ∨ Sound P item) :
    AllCertified P (final ((certificateFormat P).replay items s)) := by
  induction items generalizing s block with
  | nil => exact h.reported
  | cons item items ih =>
    show AllCertified P (final (((certificateFormat P).replayItem item >>= fun _ =>
      (certificateFormat P).replay items) s))
    rw [bind_run]
    rcases hitems item (List.mem_cons_self ..) with ⟨line, keyword, body, e, rfl⟩ | hsound
    · obtain ⟨r, hrun⟩ := replayItem_failed (P := P) line keyword body e s
      rw [hrun]
      exact h.reported
    · obtain ⟨hall, hnext⟩ := h.step hsound
      cases hrun : (certificateFormat P).replayItem item s with
      | error e' s' =>
        rw [hrun] at hall
        exact hall
      | ok u s' =>
        obtain ⟨block', hblock'⟩ := hnext u s' hrun
        exact ih hblock' fun i hi => hitems i (List.mem_cons_of_mem _ hi)

theorem parse_run (c : Cursor) :
    parse P ⟨c, ⟨{ }, { }⟩⟩ =
      catchParsingError (processDocument false (processKeywordLine P) (handle (return ())))
        (fun message => onDocument fun p => { p with result := p.result.parsingError message })
        ⟨c, ⟨openRecorder [], { }⟩⟩ := rfl

variable (P) in
/-- Every certificate handed to `documentParsed` is certified by its own text. -/
theorem reported_certified (input : List UInt8) :
    ∀ c ∈ reported P input,
      ∃ block line keyword body signature, Certified P c block line keyword body signature := by
  -- the state `startNewCertificate` leaves behind
  let s₀ : ParserState CertificateParser :=
    ⟨⟨lines input, [], []⟩, ⟨openRecorder [], { }⟩⟩
  have hstart : Reading P s₀.handler [] := by
    refine ⟨rfl, rfl, fun item hitem => ?_, ?_, fun c hc => ?_⟩
    · cases hitem
    · exact CrossChecked.nil
    · cases hc
  have hitems : ∀ item ∈ (certificateFormat P).items (lines input),
      (∃ line keyword body e, item = .failed line keyword body e) ∨ Sound P item := by
    intro item hitem
    rcases ((certificateFormat P).items_complete (lines input)).1 item hitem with hf | ⟨hc, hsub⟩
    · exact Or.inl hf
    · exact Or.inr ⟨hc, fun line hline => lines_clean input line (hsub hline)⟩
  have hrun := hstart.run hitems
  have hreplay := (certificateFormat P).processDocument_eq_replay (pure ()) s₀
  rw [← processKeywordLine_eq_format, bind_run] at hreplay
  unfold reported
  rw [parse_run]
  show AllCertified P (final (catchParsingError _ _ s₀)).handler
  refine catchParsingError_final (AllCertified P) ?_ fun message h hall => hall
  have hfinal : final (forget (processDocument false (processKeywordLine P) (handle (pure ())) s₀)) =
      final ((certificateFormat P).replay ((certificateFormat P).items (lines input)) s₀.handler) := by
    rw [show false = (certificateFormat P).recognizeOpt from rfl, hreplay]
    cases (certificateFormat P).replay ((certificateFormat P).items (lines input)) s₀.handler <;> rfl
  rw [hfinal]
  exact hrun

end KeyCertificateParser

end Orchid
