import Orchid.HiddenService.Descriptor

/-!
# Orchid — the text a descriptor comes from

What `HSDescriptorParser` reports, as a function of the text it was given.

* `parseDocument` is the object handed to `documentParsed`, as it is when `parse` returns.
* **`parseDocument_fields`**: each field has the value the last line about it gave, and the
  introduction points are those of all such lines, up to the line that ended the parse.
* **`descriptors_agree_iff`**: two texts that agree up to a verified signature report equal
  descriptors exactly when the lines behind it leave the fields with equal values.
-/

namespace Orchid

open Prog LastValue Platform

namespace HSDescriptorParser

/-! ## Statements about a field -/

def Entry.descriptorId? : Entry → Option HexDigest
  | .descriptorId id => some id
  | _ => none

def Entry.publicationTime? : Entry → Option Int
  | .publicationTime time => some time
  | _ => none

def Entry.secretIdPart? : Entry → Option HexDigest
  | .secretIdPart part => some part
  | _ => none

def Entry.permanentKey? : Entry → Option TorPublicKey
  | .permanentKey key => some key
  | _ => none

def Entry.protocolVersions? : Entry → Option (List Int)
  | .protocolVersions versions => some versions
  | _ => none

variable (P : Platform) (cookie : Option HSDescriptorCookie)

def Entry.points : Entry → List IntroductionPoint
  | .introductionPoints ob => pointsOf P cookie ob
  | _ => []

/-- What a descriptor becomes under the lines of a text: the last value of every field, and
all introduction points. -/
structure Restated (d : HSDescriptor) (entries : List Entry) (d' : HSDescriptor) : Prop where
  descriptorId : d'.descriptorId = (lastSome Entry.descriptorId? entries).or d.descriptorId
  publicationTime :
    d'.publicationTime = (lastSome Entry.publicationTime? entries).or d.publicationTime
  secretIdPart : d'.secretIdPart = (lastSome Entry.secretIdPart? entries).or d.secretIdPart
  permanentKey : d'.permanentKey = (lastSome Entry.permanentKey? entries).or d.permanentKey
  protocolVersions :
    d'.protocolVersions = (lastSome Entry.protocolVersions? entries).or d.protocolVersions
  introductionPoints :
    d'.introductionPoints = d.introductionPoints ++ entries.flatMap (Entry.points P cookie)

/-- Applying the entries one after another restates the descriptor. Each field is an instance
of the same rule: one entry assigns it or leaves it. -/
theorem restated_foldl (d : HSDescriptor) (entries : List Entry) :
    Restated P cookie d entries (entries.foldl (applyEntry P cookie) d) where
  descriptorId := foldl_lastSome (fun d e => by cases e <;> rfl) entries d
  publicationTime := foldl_lastSome (fun d e => by cases e <;> rfl) entries d
  secretIdPart := foldl_lastSome (fun d e => by cases e <;> rfl) entries d
  permanentKey := foldl_lastSome (fun d e => by cases e <;> rfl) entries d
  protocolVersions := foldl_lastSome (fun d e => by cases e <;> rfl) entries d
  introductionPoints := foldl_append (fun d e => by cases e <;> simp [applyEntry, Entry.points])
    entries d

/-! ## What is reported -/

def startParser (ls : List JString) : ParserState HSDescriptorParser :=
  ⟨⟨ls, [], []⟩, ⟨{ }, { }⟩⟩

/-- The object given to `documentParsed`, if it was, with the values it has now. -/
def reported (p : HSDescriptorParser) : Option HSDescriptor :=
  if p.handedOut then some p.descriptor else none

/-- A parse of a whole text: what was reported by the time `parse` returns. -/
def parseDocument (input : List UInt8) : Except JavaException (Option HSDescriptor) :=
  match parse P cookie (startParser (lines input)) with
  | .ok _ s => .ok (reported s.handler.document)
  | .error e _ => .error e

/-- The parser after some lines of its input, none of which ended the parse. -/
def consume (ls : List JString) :
    EStateM.Result JavaException (ParserState HSDescriptorParser) Unit :=
  (do
    handle (onRecorder Recorder.startSignedEntity)
    processDocument false (processKeywordLine P cookie) (return ())) (startParser ls)

/-- The run behind `startSignedEntity`. -/
def openParser (ls : List JString) : ParserState HSDescriptorParser :=
  { startParser ls with handler := ⟨Recorder.startSignedEntity { }, { }⟩ }

variable {s : ParserState HSDescriptorParser} {signed : List JString} {d : HSDescriptor}
  {input : List UInt8}

/-- A parse that returned replayed its lines, to their end or to a parsing error. -/
theorem ended_of_returned {s' : ParserState HSDescriptorParser} {b : Bool}
    (h : catchParsingError (processDocument false (processKeywordLine P cookie)
      (handle (return ()))) (fun _ => return ()) s = .ok b s') :
    Format.Ended ((descriptorFormat P cookie).replay
      ((descriptorFormat P cookie).items s.cursor.inputLines) s.handler) s'.handler := by
  have hreturned := catchParsingError_returned h
  have hreplay := (descriptorFormat P cookie).processDocument_eq_replay (return ()) s
  rw [← processKeywordLine_eq_format] at hreplay
  -- the format has the same `recognizeOpt`, and nothing is done at the end of the document
  have hrun : forget (processDocument false (processKeywordLine P cookie) (handle (return ())) s) =
      (descriptorFormat P cookie).replay
        ((descriptorFormat P cookie).items s.cursor.inputLines) s.handler := by
    rw [show (false : Bool) = (descriptorFormat P cookie).recognizeOpt from rfl, hreplay, bind_run]
    cases (descriptorFormat P cookie).replay _ s.handler <;> rfl
  rw [hrun] at hreturned
  exact hreturned

/-- What follows some lines is parsed from the state they lead to. -/
theorem parse_append (hsigned : consume P cookie signed = .ok () s) (rest : List JString) :
    parse P cookie (startParser (signed ++ rest)) =
      catchParsingError (processDocument false (processKeywordLine P cookie) (handle (return ())))
        (fun _ => return ()) { s with cursor := { s.cursor with inputLines := rest } } := by
  have hfront : ∀ line,
      Front unreadLines (processKeywordLineWith false (processKeywordLine P cookie) line) := by
    intro line
    rw [processKeywordLine_eq_format]
    exact processKeywordLineWith_front (descriptorFormat P cookie).parseKeywordLine_front line
  have hrest : processDocument false (processKeywordLine P cookie) (handle (return ()))
      (openParser (signed ++ rest)) =
        processDocument false (processKeywordLine P cookie) (handle (return ()))
          { s with cursor := { s.cursor with inputLines := rest } } :=
    drain_append (s := openParser signed) hfront rfl hsigned rest
  show catchParsingError _ _ (openParser (signed ++ rest)) = _
  unfold catchParsingError
  rw [hrest]

/-- A descriptor reported at the end restates the one the first lines had made. -/
theorem reported_behind {rest : List JString} (hinput : lines input = signed ++ rest)
    (hsigned : consume P cookie signed = .ok () s) (h : parseDocument P cookie input = .ok (some d))
    :
    Restated P cookie s.handler.document.descriptor (statements P cookie rest) d := by
  unfold parseDocument at h
  rw [hinput, parse_append P cookie hsigned] at h
  split at h
  · rename_i b s' hrun
    have hreported : reported s'.handler.document = some d := by
      simpa only [Except.ok.injEq] using h
    have hdescriptor := replay_descriptor P cookie (ended_of_returned P cookie hrun)
    unfold reported at hreported
    split at hreported
    · obtain rfl : s'.handler.document.descriptor = d := Option.some.inj hreported
      rw [hdescriptor]
      exact restated_foldl P cookie _ _
    · cases hreported
  · cases h

/-- Every field of a reported descriptor comes from the text. -/
theorem parseDocument_fields (h : parseDocument P cookie input = .ok (some d)) :
    Restated P cookie { } (statements P cookie (lines input)) d := by
  have hnone : consume P cookie [] = .ok () (openParser []) := rfl
  exact reported_behind P cookie (List.nil_append _).symm hnone h

/-! ## Two texts with one signature -/

/-- Once handed out, the descriptor stays handed out. -/
def StaysReported (h h' : HandlerState HSDescriptorParser) : Prop :=
  h.document.handedOut = true → h'.document.handedOut = true

instance : HandlerOrder StaysReported where
  refl _ := id
  trans _ _ _ h₁ h₂ := fun h => h₂ (h₁ h)
  record _ _ := id

theorem actOn_staysReported (entry : Entry) (h : HandlerState HSDescriptorParser) :
    StaysReported h (final (actOn P cookie entry h)) := by
  intro hout
  cases entry with
  | introductionPoints ob =>
    show (final (addIntroductionPoints P cookie ob h)).document.handedOut = true
    rw [addIntroductionPoints_run]
    cases createIntroductionPointBuffer P cookie ob with
    | error e => exact hout
    | ok buffer =>
      cases houtcome : (IntroductionPointParser.parseBuffer buffer).2 with
      | ok u =>
        simp only [houtcome, fromExcept_ok, final_ok]
        exact hout
      | error e =>
        simp only [houtcome, fromExcept_error, final_error]
        exact hout
  | signature signature =>
    show (final (finishSignature P signature h)).document.handedOut = true
    rcases (finishSignature_spec P signature h).1 with hdoc | hdoc
    · rw [hdoc]
      exact hout
    · rw [hdoc]
  | _ => exact hout

theorem processKeywordLine_staysReported : Orderly StaysReported (processKeywordLine P cookie) := by
  rw [processKeywordLine_eq_format]
  refine Format.parseKeywordLine_orderly _ (fun keyword h => ?_) (actOn_staysReported P cookie)
  -- in front of the reading only the signed text is closed
  show StaysReported h (final ((if _ then _ else _ : HandlerM HSDescriptorParser Unit) h))
  split <;> exact id

/-- What was handed out in the first lines is reported at the end. -/
theorem reported_of_handedOut {rest : List JString} {o : Option HSDescriptor}
    (hinput : lines input = signed ++ rest) (hsigned : consume P cookie signed = .ok () s)
    (hout : s.handler.document.handedOut = true) (h : parseDocument P cookie input = .ok o) :
    ∃ d, o = some d := by
  unfold parseDocument at h
  rw [hinput, parse_append P cookie hsigned] at h
  split at h
  · rename_i b s' hrun
    let s₁ : ParserState HSDescriptorParser :=
      { s with cursor := { s.cursor with inputLines := rest } }
    have hkeeps : StaysReported s₁.handler (final (processDocument false
        (processKeywordLine P cookie) (handle (return ())) s₁)).handler :=
      processDocument_keeps (processKeywordLine_staysReported P cookie)
        (Orderly.handle fun h => HandlerOrder.refl h) s₁
    have hfinal : (final (processDocument false (processKeywordLine P cookie)
        (handle (return ())) s₁)).handler = s'.handler := by
      rw [← final_forget]
      rcases catchParsingError_returned hrun with hend | ⟨message, hend⟩ <;> rw [hend] <;> rfl
    rw [hfinal] at hkeeps
    have hout' : s'.handler.document.handedOut = true := hkeeps hout
    refine ⟨s'.handler.document.descriptor, ?_⟩
    simp only [reported, hout', if_true, Except.ok.injEq] at h
    exact h.symm
  · cases h

/-- The two runs of entries leave every field of `d` with the same value and add the same
introduction points. -/
structure SameOutcome (d : HSDescriptor) (e₁ e₂ : List Entry) : Prop where
  descriptorId : (lastSome Entry.descriptorId? e₁).or d.descriptorId =
    (lastSome Entry.descriptorId? e₂).or d.descriptorId
  publicationTime : (lastSome Entry.publicationTime? e₁).or d.publicationTime =
    (lastSome Entry.publicationTime? e₂).or d.publicationTime
  secretIdPart : (lastSome Entry.secretIdPart? e₁).or d.secretIdPart =
    (lastSome Entry.secretIdPart? e₂).or d.secretIdPart
  permanentKey : (lastSome Entry.permanentKey? e₁).or d.permanentKey =
    (lastSome Entry.permanentKey? e₂).or d.permanentKey
  protocolVersions : (lastSome Entry.protocolVersions? e₁).or d.protocolVersions =
    (lastSome Entry.protocolVersions? e₂).or d.protocolVersions
  introductionPoints :
    e₁.flatMap (Entry.points P cookie) = e₂.flatMap (Entry.points P cookie)

theorem Restated.eq_iff {d₁ d₂ : HSDescriptor} {e₁ e₂ : List Entry} (h₁ : Restated P cookie d e₁ d₁)
    (h₂ : Restated P cookie d e₂ d₂) :
    d₁ = d₂ ↔ SameOutcome P cookie d e₁ e₂ := by
  constructor
  · rintro rfl
    have hpoints := h₁.introductionPoints.symm.trans h₂.introductionPoints
    exact ⟨h₁.descriptorId.symm.trans h₂.descriptorId,
      h₁.publicationTime.symm.trans h₂.publicationTime,
      h₁.secretIdPart.symm.trans h₂.secretIdPart, h₁.permanentKey.symm.trans h₂.permanentKey,
      h₁.protocolVersions.symm.trans h₂.protocolVersions, List.append_cancel_left hpoints⟩
  · intro h
    cases d₁
    cases d₂
    rw [HSDescriptor.mk.injEq]
    exact ⟨h₁.descriptorId.trans (h.descriptorId.trans h₂.descriptorId.symm),
      h₁.publicationTime.trans (h.publicationTime.trans h₂.publicationTime.symm),
      h₁.secretIdPart.trans (h.secretIdPart.trans h₂.secretIdPart.symm),
      h₁.permanentKey.trans (h.permanentKey.trans h₂.permanentKey.symm),
      h₁.protocolVersions.trans (h.protocolVersions.trans h₂.protocolVersions.symm),
      h₁.introductionPoints.trans
        ((congrArg _ h.introductionPoints).trans h₂.introductionPoints.symm)⟩

/-- Two texts have the same first lines, and among them a signature at which the parser
handed its descriptor out. When both parses return, the reported descriptors are equal
exactly when the lines behind that signature leave every field with equal values. -/
theorem descriptors_agree_iff (P : Platform) (cookie : Option HSDescriptorCookie)
    (x₁ x₂ : List UInt8) (signed r₁ r₂ : List JString) (s : ParserState HSDescriptorParser)
    (o₁ o₂ : Option HSDescriptor) (hx₁ : lines x₁ = signed ++ r₁) (hx₂ : lines x₂ = signed ++ r₂)
    (hsigned : consume P cookie signed = .ok () s) (hout : s.handler.document.handedOut = true)
    (h₁ : parseDocument P cookie x₁ = .ok o₁) (h₂ : parseDocument P cookie x₂ = .ok o₂) :
    o₁.isSome = true ∧ o₂.isSome = true ∧
      (o₁ = o₂ ↔ SameOutcome P cookie s.handler.document.descriptor
        (statements P cookie r₁) (statements P cookie r₂)) := by
  obtain ⟨d₁, rfl⟩ := reported_of_handedOut P cookie hx₁ hsigned hout h₁
  obtain ⟨d₂, rfl⟩ := reported_of_handedOut P cookie hx₂ hsigned hout h₂
  have hd₁ := reported_behind P cookie hx₁ hsigned h₁
  have hd₂ := reported_behind P cookie hx₂ hsigned h₂
  refine ⟨rfl, rfl, ?_⟩
  rw [Option.some.injEq]
  exact hd₁.eq_iff P cookie hd₂

/-! ## A signed descriptor and a line behind it -/

def sampleKeyLines : List JString :=
  [lit "-----BEGIN RSA PUBLIC KEY-----", lit "4AAA", lit "-----END RSA PUBLIC KEY-----"]

/-- A small descriptor; its checksum is zero, and so is every byte of the signature. -/
def signedLines : List JString :=
  [lit "rendezvous-service-descriptor " ++ List.replicate 32 'a', lit "permanent-key"] ++
    sampleKeyLines ++
    [lit "signature", lit "-----BEGIN SIGNATURE-----", List.replicate 27 'A' ++ lit "=",
      lit "-----END SIGNATURE-----"]

def versionLine : JString := lit "version 2"

/-- A line that gives the descriptor another id. -/
def otherIdLine : JString := lit "rendezvous-service-descriptor " ++ List.replicate 32 'b'

def textOf (ls : List JString) : List UInt8 := latin1 (unlines ls)

def sampleDescriptor (digest : HexDigest) : HSDescriptor :=
  { descriptorId := some digest, permanentKey := some ⟨unlines sampleKeyLines⟩ }

def zeroDigest : HexDigest := ⟨List.replicate 20 0, Or.inl rfl⟩

def otherDigest : HexDigest :=
  ⟨(List.replicate 4 [8, 66, 16, 132, 33]).flatten, Or.inl rfl⟩

/-- The parser behind the signature. -/
def signedState : ParserState HSDescriptorParser :=
  final (consume Platform.checksum none signedLines)

theorem signedState_spec :
    consume checksum none signedLines = .ok () signedState ∧
      signedState.handler.document.handedOut = true := by
  have hok : returned (consume checksum none signedLines) = true ∧
      signedState.handler.document.handedOut = true := by decide +kernel
  exact ⟨eq_ok_of_returned hok.1, hok.2⟩

theorem signedLines_parsed :
    parseDocument checksum none (textOf signedLines) =
      .ok (some (sampleDescriptor zeroDigest)) := by decide +kernel

theorem versionLine_parsed :
    parseDocument checksum none (textOf (signedLines ++ [versionLine])) =
      .ok (some (sampleDescriptor zeroDigest)) := by decide +kernel

/-- A line behind the signature that assigns nothing changes nothing. -/
theorem version_line_same_outcome :
    SameOutcome checksum none signedState.handler.document.descriptor
      (statements checksum none []) (statements checksum none [versionLine]) := by
  have hagree := descriptors_agree_iff checksum none (textOf signedLines)
    (textOf (signedLines ++ [versionLine])) signedLines [] [versionLine] signedState _ _
    (by decide +kernel) (by decide +kernel) signedState_spec.1 signedState_spec.2
    signedLines_parsed versionLine_parsed
  exact hagree.2.2.mp rfl

/-- Two texts that differ only behind the verified signature, and the ids of the reported
descriptors differ: the line behind the signature replaced the signed id. -/
theorem unsigned_line_changes_id :
    lines (textOf signedLines) = signedLines ++ [] ∧
      lines (textOf (signedLines ++ [otherIdLine])) = signedLines ++ [otherIdLine] ∧
      consume checksum none signedLines = .ok () signedState ∧
      signedState.handler.document.handedOut = true ∧
      parseDocument checksum none (textOf signedLines) = .ok (some (sampleDescriptor zeroDigest)) ∧
      parseDocument checksum none (textOf (signedLines ++ [otherIdLine])) =
        .ok (some (sampleDescriptor otherDigest)) ∧
      sampleDescriptor zeroDigest ≠ sampleDescriptor otherDigest := by
  refine ⟨by decide +kernel, by decide +kernel, signedState_spec.1, signedState_spec.2,
    signedLines_parsed, by decide +kernel, ?_⟩
  intro hsame
  have hid := congrArg HSDescriptor.descriptorId hsame
  exact absurd hid (by decide)

end HSDescriptorParser

end Orchid
