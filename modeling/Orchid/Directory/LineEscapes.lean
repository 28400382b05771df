import Orchid.Directory.FieldEscapes
import Orchid.Lib.Lists

/-!
# Orchid — what a line of a document lets escape

From the fields of a line to the document. A line is handled by reading arguments and perhaps an
object and then working on the document; something escapes from a parse if it escapes at one of the
lines that the parser comes to.

* `Harmless` readers of arguments raise nothing but `TorParsingException`.
* **`parsePublicKey_escapes`**, **`parseSignature_escapes`**: where an object should stand, there is
  none (`NoObject`), or its armor holds no base64 data (`UndecodableSignature`).
* **`parse_returns_iff`**: a parse returns if at every line it comes to nothing escapes.
-/

namespace Orchid

open Prog TorSignature

/-! ## Harmless readers -/

/-- A reader of arguments whose exceptions are all reported. -/
def Harmless {α : Type} (x : ArgM α) : Prop := ∀ items, ¬ Raises Reported (x items)

namespace Harmless

variable {α β : Type}

theorem pure (a : α) : Harmless (Pure.pure a : ArgM α) := fun _ => raises_stateT_pure a

theorem throw (message : JString) :
    Harmless (MonadExcept.throw (JavaException.torParsing message) : ArgM α) := by
  intro items h
  exact (raises_stateT_throw _).mp h trivial

variable {f : α → ArgM β}

theorem bind {x : ArgM α} (hx : Harmless x) (hf : ∀ a, Harmless (f a)) : Harmless (x >>= f) := by
  intro items h
  rcases (raises_stateT_bind x f).mp h with hfirst | ⟨a, rest, -, hsecond⟩
  · exact hx items hfirst
  · exact hf a rest hsecond

theorem ite {c : Prop} [Decidable c] {x y : ArgM α} (hx : Harmless x) (hy : Harmless y) :
    Harmless (if c then x else y) := by
  split
  · exact hx
  · exact hy

/-- A check in front of the rest. -/
theorem check {c : Prop} [Decidable c] {message : JString} {rest : Unit → ArgM α}
    (hrest : ∀ r, Harmless (rest r)) :
    Harmless (if c then MonadExcept.throw (JavaException.torParsing message) >>= rest
      else rest ()) :=
  ite (bind (throw message) hrest) (hrest ())

theorem mapM (hf : ∀ a, Harmless (f a)) (l : List α) : Harmless (l.mapM f) := by
  induction l with
  | nil => exact pure _
  | cons a l ih =>
    rw [List.mapM_cons]
    exact bind (hf a) fun _ => bind ih fun _ => pure _

theorem getItem : Harmless ArgM.getItem := by
  intro items
  cases items with
  | nil =>
    rw [getItem_nil]
    simp
  | cons item items =>
    rw [getItem_cons]
    simp

theorem remainingItems : Harmless ArgM.remainingItems := fun items => raises_ok (items, [])

theorem argumentsRemaining : Harmless ArgM.argumentsRemaining :=
  fun items => raises_ok (items.length, items)

theorem parseIntegerOf (item : JString) : Harmless (ArgM.parseIntegerOf item) := by
  unfold ArgM.parseIntegerOf
  cases parseInt item with
  | none => exact throw _
  | some i => exact pure i

theorem parsePortOf (item : JString) : Harmless (ArgM.parsePortOf item) := by
  intro items
  rcases parsePortOf_cases item items with ⟨-, n, hn⟩ | ⟨-, message, herror⟩
  · simp [hn]
  · simp [herror]

theorem parseInteger : Harmless ArgM.parseInteger := bind getItem parseIntegerOf

theorem parseBoolean : Harmless ArgM.parseBoolean :=
  bind parseInteger fun _ => ite (pure _) (ite (pure _) (throw _))

theorem parseConcatenatedString : Harmless ArgM.parseConcatenatedString :=
  bind remainingItems fun _ => pure _

theorem parseTimestamp (P : Platform) : Harmless (ArgM.parseTimestamp P) := by
  intro items h
  exact ((timestamp_reader (P := P)).escapes items).mp h

theorem validateParameterName (name : JString) : Harmless (ArgM.validateParameterName name) :=
  check fun _ => ite (throw _) (pure _)

theorem parseParameter : Harmless ArgM.parseParameter := by
  refine bind getItem fun item => check fun _ => ?_
  refine bind (validateParameterName _) fun _ => ?_
  exact bind (parseIntegerOf _) fun _ => pure _

theorem parseParameters : Harmless ArgM.parseParameters :=
  bind argumentsRemaining fun _ => mapM (fun _ => parseParameter) _

end Harmless

/-! ## From the fields to the parser -/

section Parser

variable {α β δ : Type}

theorem escapes_args (x : ArgM α) (c : Cursor) :
    Escapes Reported (args x) c ↔ Raises Reported (x c.currentItems) := by
  unfold Escapes args
  cases x c.currentItems with
  | ok | error => simp

theorem escapes_read (x : ReadM α) (s : ParserState δ) :
    Escapes Reported (read x) s ↔ Escapes Reported x s.cursor := by
  unfold Escapes read
  cases x s.cursor with
  | ok | error => simp

theorem escapes_handle (x : HandlerM δ α) (s : ParserState δ) :
    Escapes Reported (handle x) s ↔ Escapes Reported x s.handler := by
  unfold Escapes handle
  cases x s.handler with
  | ok | error => simp

theorem escapes_read_args (x : ArgM α) (s : ParserState δ) :
    Escapes Reported (read (args x)) s ↔ Raises Reported (x s.cursor.currentItems) := by
  rw [escapes_read, escapes_args]

theorem Harmless.contained {x : ArgM α} (hx : Harmless x) :
    Contained Reported (read (args x) : ParserM δ α) := by
  intro s h
  exact hx _ ((escapes_read_args x s).mp h)

theorem contained_handle {x : HandlerM δ α} (hx : Contained Reported x) :
    Contained Reported (handle x) := by
  intro s h
  exact hx _ ((escapes_handle x s).mp h)

theorem contained_onDocument (f : δ → δ) : Contained Reported (onDocument f) :=
  Contained.modify _

theorem contained_onRecorder (f : Recorder → Recorder) :
    Contained Reported (onRecorder f : HandlerM δ Unit) := Contained.modify _

theorem escapes_getCurrentKeyword_bind (f : JString → ParserM δ α) (s : ParserState δ) :
    Escapes Reported (getCurrentKeyword >>= f) s ↔ Escapes Reported (f s.cursor.currentKeyword) s :=
  escapes_bind_of_ok rfl

/-- What is done with a value once it is read lets nothing escape. -/
theorem escapes_bind_contained {σ : Type} {x : Prog JavaException σ α}
    {f : α → Prog JavaException σ β} (hf : ∀ a, Contained Reported (f a)) (s : σ) :
    Escapes Reported (x >>= f) s ↔ Escapes Reported x s := by
  rw [escapes_bind]
  constructor
  · rintro (hx | ⟨a, s', -, hfa⟩)
    · exact hx
    · exact absurd hfa (hf a s')
  · intro hx
    exact Or.inl hx

end Parser

/-! ## Objects -/

/-- The header that is a tag and nothing else. -/
def EMPTY_HEADER : JString := lit "-----BEGIN-----"

/-- Only of that header `substring` cannot take the keyword: a shorter one that begins with the
begin tag does not end with the delimiter. -/
theorem parseObjectHeader_raises (line : JString) :
    Raises Reported (parseObjectHeader line) ↔ line = EMPTY_HEADER := by
  constructor
  · intro h
    unfold parseObjectHeader at h
    split at h
    · rename_i htags
      simp only [startsWith, endsWith, Bool.and_eq_true, List.isPrefixOf_iff_prefix,
        List.isSuffixOf_iff_suffix] at htags
      obtain ⟨⟨behind, hbehind⟩, before, hbefore⟩ := htags
      have hlength : line.length = 10 + behind.length := by
        rw [← hbehind, List.length_append]
        rfl
      have hlength' : line.length = before.length + 5 := by
        rw [← hbefore, List.length_append]
        rfl
      have hshort : line.length < 16 := by
        by_contra hlong
        unfold substring at h
        rw [if_pos ⟨by simp [BEGIN_TAG, TAG_DELIMITER, lit]; omega, by omega⟩] at h
        exact raises_ok _ h
      -- the tenth character is the last one of the begin tag, and no dash
      have htenth : (line)[9]? = some 'N' := by
        rw [← hbehind, List.getElem?_append_left (by decide)]
        rfl
      have hten : before.length = 10 := by
        by_contra hother
        have hdash : (line)[9]? = TAG_DELIMITER[9 - before.length]? := by
          rw [← hbefore, List.getElem?_append_right (by omega)]
        have hmem := List.mem_of_getElem? (hdash ▸ htenth)
        revert hmem
        decide
      have hparts : BEGIN_TAG ++ behind = before ++ TAG_DELIMITER := hbehind.trans hbefore.symm
      have htag : before = BEGIN_TAG :=
        (List.append_inj_left hparts (by rw [hten]; rfl)).symm
      rw [← hbefore, htag]
      rfl
    · simp at h
  · rintro rfl
    exact ⟨.indexOutOfBounds, rfl, id⟩

/-- Where an object should begin, the document has ended or has a header without a keyword. -/
def NoObject (ls : List JString) : Prop := ls = [] ∨ ∃ rest, ls = EMPTY_HEADER :: rest

/-- The line that ends an object. -/
def endLine (keyword : JString) : JString := END_TAG ++ lit " " ++ keyword ++ TAG_DELIMITER

variable {c : Cursor}

/-- The body of an object, read to its end. -/
theorem parseObjectBodyFrom_eq_ok {object object' : DocumentObject} {ls : List JString}
    {c' : Cursor} :
    parseObjectBodyFrom object ls c = .ok object' c' ↔
      ∃ body rest, ls = body ++ endLine object.keyword :: rest ∧ endLine object.keyword ∉ body ∧
        c' = { c with inputLines := rest } ∧
        object' = { object with
          bodyContent := object.bodyContent ++ unlines body
          footerLine := endLine object.keyword } := by
  induction ls generalizing object with
  | nil => exact iff_of_false nofun (by simp)
  | cons line ls ih =>
    rw [Lists.upTo_cons, parseObjectBodyFrom]
    split
    · rename_i hend
      have hend : line = endLine object.keyword := hend
      simp only [hend, true_and, ne_eq, not_true, false_and, or_false, unlines_nil, List.append_nil]
      constructor
      · intro h
        cases h
        exact ⟨rfl, rfl⟩
      · rintro ⟨rfl, rfl⟩
        rfl
    · rename_i hother
      have hother : line ≠ endLine object.keyword := hother
      simp [hother, ih, DocumentObject.addContent, unlines_cons]

theorem parseObjectBodyFrom_contained (object : DocumentObject) (ls : List JString) :
    Contained Reported (parseObjectBodyFrom object ls) := by
  induction ls generalizing object with
  | nil => exact (Contained.modify _).bind fun _ => Contained.throw trivial
  | cons line ls ih =>
    exact ((Contained.modify _).bind fun _ => Contained.pure _).ite (ih _)

theorem parseObjectBody_contained (object : DocumentObject) :
    Contained Reported (parseObjectBody object) := by
  intro c
  exact parseObjectBodyFrom_contained object c.inputLines c

theorem parseObject_nil (hlines : c.inputLines = []) : parseObject c = .error .nullPointer c := by
  simp only [parseObject, readLine, bind_run, hlines]
  rfl

theorem parseObject_cons {line : JString} {rest : List JString}
    (hlines : c.inputLines = line :: rest) :
    parseObject c = (fromExcept (parseObjectHeader line) >>= fun keyword =>
      parseObjectBody { keyword := keyword, headerLine := line }) { c with inputLines := rest } := by
  simp only [parseObject, readLine, bind_run, hlines]

theorem parseObject_escapes (c : Cursor) :
    Escapes Reported parseObject c ↔ NoObject c.inputLines := by
  cases hlines : c.inputLines with
  | nil => exact iff_of_true ⟨_, _, parseObject_nil hlines, id⟩ (Or.inl rfl)
  | cons line rest =>
    have hescapes : Escapes Reported parseObject c ↔ line = EMPTY_HEADER := by
      unfold Escapes
      rw [parseObject_cons hlines]
      exact (escapes_bind_contained (fun _ => parseObjectBody_contained _) _).trans
        ((escapes_fromExcept _ _).trans (parseObjectHeader_raises line))
    simp [hescapes, NoObject]

theorem parsePublicKey_escapes (c : Cursor) :
    Escapes Reported parsePublicKey c ↔ NoObject c.inputLines := by
  unfold parsePublicKey
  rw [escapes_bind_contained (fun _ => Contained.pure _), parseObject_escapes]

/-- The armor of a signature around something that is not base64 data. -/
def UndecodableArmor (text : JString) : Prop :=
  ∃ header ls base64Data, bufferedLines text = header :: ls ∧
    (header = SIGNATURE_BEGIN ∨ header = ID_SIGNATURE_BEGIN) ∧
    parseBase64Data ls [] = .ok base64Data ∧ Base64.decodeChars base64Data = none

theorem parseBase64Data_raises (ls : List JString) (base64Data : JString) :
    ¬ Raises Reported (parseBase64Data ls base64Data) := by
  induction ls generalizing base64Data with
  | nil => simp [parseBase64Data]
  | cons line ls ih =>
    unfold parseBase64Data
    split
    · simp
    · exact ih _

theorem createFromPEMBuffer_raises (text : JString) :
    Raises Reported (createFromPEMBuffer text) ↔ UndecodableArmor text := by
  unfold createFromPEMBuffer UndecodableArmor
  cases bufferedLines text with
  | nil => simp
  | cons header ls =>
    dsimp only
    split
    · rename_i hheader
      rw [raises_bind]
      have hdecode : ∀ base64Data, Raises Reported (Base64.decode base64Data) ↔
          Base64.decodeChars base64Data = none := by
        intro base64Data
        unfold Base64.decode
        cases Base64.decodeChars base64Data <;> simp [Reported]
      simp only [raises_bind, hdecode, parseBase64Data_raises, raises_pure, and_false, exists_false,
        false_or, or_false]
      constructor
      · rintro ⟨base64Data, hdata, hundecodable⟩
        exact ⟨header, ls, base64Data, rfl, hheader, hdata, hundecodable⟩
      · rintro ⟨header', ls', base64Data, hlines, -, hdata, hundecodable⟩
        cases hlines
        exact ⟨base64Data, hdata, hundecodable⟩
    · rename_i hheader
      simp [hheader]

/-- A signature object whose armor holds no base64 data. -/
def UndecodableSignature (ls : List JString) : Prop :=
  ∃ header keyword body rest, ls = header :: (body ++ endLine keyword :: rest) ∧
    parseObjectHeader header = .ok keyword ∧ endLine keyword ∉ body ∧
    UndecodableArmor (header ++ lit "\n" ++ unlines body ++ endLine keyword ++ lit "\n")

theorem parseObject_eq_ok {c' : Cursor} {object : DocumentObject} :
    parseObject c = .ok object c' ↔
      ∃ header keyword body rest, c.inputLines = header :: (body ++ endLine keyword :: rest) ∧
        parseObjectHeader header = .ok keyword ∧ endLine keyword ∉ body ∧
        c' = { c with inputLines := rest } ∧
        object = { keyword := keyword, headerLine := header, bodyContent := unlines body
                   footerLine := endLine keyword } := by
  cases hlines : c.inputLines with
  | nil =>
    rw [parseObject_nil hlines]
    simp
  | cons line ls =>
    rw [parseObject_cons hlines]
    cases hheader : parseObjectHeader line with
    | error e =>
      constructor
      · intro h
        cases h
      · rintro ⟨header, keyword, body, rest, hls, hkeyword, -⟩
        cases hls
        cases hheader.symm.trans hkeyword
    | ok keyword =>
      show parseObjectBodyFrom { keyword := keyword, headerLine := line } ls
        { c with inputLines := ls } = .ok object c' ↔ _
      rw [parseObjectBodyFrom_eq_ok]
      constructor
      · rintro ⟨body, rest, rfl, hbody, rfl, rfl⟩
        exact ⟨line, keyword, body, rest, rfl, hheader, hbody, rfl, rfl⟩
      · rintro ⟨header, keyword', body, rest, hls, hkeyword, hbody, rfl, rfl⟩
        cases hls
        cases hheader.symm.trans hkeyword
        exact ⟨body, rest, rfl, hbody, rfl, rfl⟩

/-- What keeps a signature from being read. -/
def NoSignature (ls : List JString) : Prop := NoObject ls ∨ UndecodableSignature ls

theorem parseSignature_escapes (c : Cursor) :
    Escapes Reported parseSignature c ↔ NoSignature c.inputLines := by
  unfold parseSignature NoSignature UndecodableSignature
  rw [escapes_bind, parseObject_escapes]
  simp only [escapes_fromExcept, createFromPEMBuffer_raises]
  constructor
  · rintro (hnone | ⟨object, c', hobject, harmor⟩)
    · exact Or.inl hnone
    · obtain ⟨header, keyword, body, rest, hlines, hheader, hbody, -, rfl⟩ :=
        parseObject_eq_ok.mp hobject
      exact Or.inr ⟨header, keyword, body, rest, hlines, hheader, hbody, harmor⟩
  · rintro (hnone | ⟨header, keyword, body, rest, hlines, hheader, hbody, harmor⟩)
    · exact Or.inl hnone
    · exact Or.inr ⟨_, _, parseObject_eq_ok.mpr
        ⟨header, keyword, body, rest, hlines, hheader, hbody, rfl, rfl⟩, harmor⟩

/-! ## Signatures and what is done with them -/

/-- The signature object at the head of the lines. -/
def SignatureAt (ls : List JString) (signature : TorSignature) : Prop :=
  ∃ header keyword body rest, ls = header :: (body ++ endLine keyword :: rest) ∧
    parseObjectHeader header = .ok keyword ∧ endLine keyword ∉ body ∧
    createFromPEMBuffer
      (header ++ lit "\n" ++ unlines body ++ endLine keyword ++ lit "\n") = .ok signature

theorem parseSignature_eq_ok {signature : TorSignature} :
    (∃ c', parseSignature c = .ok signature c') ↔ SignatureAt c.inputLines signature := by
  constructor
  · rintro ⟨c', h⟩
    obtain ⟨object, c₁, hobject, hcreate⟩ := bind_eq_ok.mp h
    obtain ⟨header, keyword, body, rest, hlines, hheader, hbody, -, rfl⟩ :=
      parseObject_eq_ok.mp hobject
    exact ⟨header, keyword, body, rest, hlines, hheader, hbody, (fromExcept_eq_ok.mp hcreate).1⟩
  · rintro ⟨header, keyword, body, rest, hlines, hheader, hbody, hcreate⟩
    have hobject := parseObject_eq_ok.mpr ⟨header, keyword, body, rest, hlines, hheader, hbody,
      rfl, rfl⟩
    exact ⟨_, bind_eq_ok.mpr ⟨_, _, hobject, fromExcept_eq_ok.mpr ⟨hcreate, rfl⟩⟩⟩

/-- The key or the running digest is missing, or RSA cannot decode the signature. -/
def Unverifiable (P : Platform) (publicKey : Option TorPublicKey)
    (digest : Option TorMessageDigest) (signature : TorSignature) : Prop :=
  publicKey = none ∨ digest.isSome = false ∨
    ∃ key e, publicKey = some key ∧ P.rsaDecrypt key signature.signatureBytes = .error e

section Signatures

variable {δ : Type} (P : Platform)

theorem verifySignature_raises (key : TorPublicKey) (signature : TorSignature)
    (digestBytes : List UInt8) :
    Raises Reported (key.verifySignature P signature digestBytes) ↔
      ∃ e, P.rsaDecrypt key signature.signatureBytes = .error e := by
  unfold TorPublicKey.verifySignature
  rw [raises_bind]
  simp only [raises_pure, and_false, exists_false, or_false]
  constructor
  · rintro ⟨e, he, -⟩
    exact ⟨e, he⟩
  · rintro ⟨e, he⟩
    refine ⟨e, he, ?_⟩
    intro hreported
    cases e with
    | torParsing message => exact P.rsaDecrypt_raises key signature.signatureBytes message he
    | _ => exact hreported

theorem verifySignedEntity_escapes (publicKey : Option TorPublicKey) (signature : TorSignature)
    (h : HandlerState δ) :
    Escapes Reported (verifySignedEntity P publicKey signature) h ↔
      Unverifiable P publicKey h.recorder.signatureDigest signature := by
  unfold Escapes Unverifiable
  rw [verifySignedEntity_run]
  cases publicKey with
  | none => exact iff_of_true ⟨_, _, rfl, id⟩ (Or.inl rfl)
  | some key =>
    cases hdigest : h.recorder.signatureDigest with
    | none => exact iff_of_true ⟨_, _, rfl, id⟩ (Or.inr (Or.inl rfl))
    | some digest =>
      refine ((escapes_fromExcept _ _).trans (verifySignature_raises P key signature _)).trans ?_
      simp

theorem recordLines_signatureDigest (r : Recorder) (ls : List JString) :
    (r.recordLines ls).signatureDigest.isSome = r.signatureDigest.isSome := by
  induction ls generalizing r with
  | nil => rfl
  | cons l ls ih =>
    have hline : (r.record l).signatureDigest.isSome = r.signatureDigest.isSome := by
      unfold Recorder.record Recorder.updateRawDocument Recorder.updateCurrentSignature
      split
      · rfl
      · split
        · rfl
        · exact Option.isSome_map
    show ((r.record l).recordLines ls).signatureDigest.isSome = _
    rw [ih, hline]

/-- A signature is read and something is done with it that does not depend on the lines it was
read from. -/
theorem escapes_signature {f : TorSignature → HandlerM δ Unit}
    {H : TorSignature → HandlerState δ → Prop}
    (hf : ∀ signature h, Escapes Reported (f signature) h ↔ H signature h)
    (hrecord : ∀ signature h ls,
      H signature { h with recorder := h.recorder.recordLines ls } ↔ H signature h)
    (s : ParserState δ) :
    Escapes Reported (read parseSignature >>= fun signature => handle (f signature)) s ↔
      NoSignature s.cursor.inputLines ∨
        ∃ signature, SignatureAt s.cursor.inputLines signature ∧ H signature s.handler := by
  rw [escapes_bind, escapes_read, parseSignature_escapes]
  simp only [escapes_handle, hf]
  have hbehind : (∃ signature s', read parseSignature s = .ok signature s' ∧
      H signature s'.handler) ↔
        ∃ signature, SignatureAt s.cursor.inputLines signature ∧ H signature s.handler := by
    simp only [← parseSignature_eq_ok]
    unfold read
    constructor
    · rintro ⟨signature, s', hread, hH⟩
      cases hrun : parseSignature s.cursor with rw [hrun] at hread
      | error e c => cases hread
      | ok signature' c =>
        cases hread
        exact ⟨signature, ⟨c, rfl⟩, (hrecord _ _ _).mp hH⟩
    · rintro ⟨signature, ⟨c, hrun⟩, hH⟩
      rw [hrun]
      exact ⟨signature, _, rfl, (hrecord _ _ _).mpr hH⟩
  rw [hbehind]

end Signatures

/-! ## Whole documents -/

section Documents

variable {δ : Type} {recognizeOpt : Bool} {parseKeywordLine endOfDocument : ParserM δ Unit}

/-- The states in which a keyword line is about to be handled: the lines before it have been, its
keyword and its arguments are at hand, and the lines behind it are unread. -/
def LineReached (recognizeOpt : Bool) (parseKeywordLine : ParserM δ Unit)
    (s s' : ParserState δ) : Prop :=
  ∃ before line rest keyword items,
    Reached unreadLines (processKeywordLineWith recognizeOpt parseKeywordLine) s before ∧
    before.cursor.inputLines = line :: rest ∧
    splitLine recognizeOpt line = some (keyword, items) ∧
    s' = ⟨⟨rest, keyword, items⟩,
      { before.handler with recorder := before.handler.recorder.record line }⟩

/-- The state in which the end of the document is handled. -/
def EndReached (recognizeOpt : Bool) (parseKeywordLine : ParserM δ Unit)
    (s s' : ParserState δ) : Prop :=
  Reached unreadLines (processKeywordLineWith recognizeOpt parseKeywordLine) s s' ∧
    s'.cursor.inputLines = []

theorem escapes_processKeywordLineWith (line : JString) (s : ParserState δ) :
    Escapes Reported (processKeywordLineWith recognizeOpt parseKeywordLine line) s ↔
      ∃ keyword items, splitLine recognizeOpt line = some (keyword, items) ∧
        Escapes Reported parseKeywordLine ⟨⟨s.cursor.inputLines, keyword, items⟩,
          { s.handler with recorder := s.handler.recorder.record line }⟩ := by
  unfold Escapes
  rw [processKeywordLineWith_run]
  cases splitLine recognizeOpt line with
  | none => simp
  | some p =>
    constructor
    · intro h
      exact ⟨p.1, p.2, rfl, h⟩
    · rintro ⟨keyword, items, hp, h⟩
      cases hp
      exact h

/-- Something escapes from a document at a line or at its end. -/
theorem escapes_processDocument (hfront : Front unreadLines parseKeywordLine) (s : ParserState δ) :
    Escapes Reported (processDocument recognizeOpt parseKeywordLine endOfDocument) s ↔
      (∃ s', LineReached recognizeOpt parseKeywordLine s s' ∧
        Escapes Reported parseKeywordLine s') ∨
      ∃ s', EndReached recognizeOpt parseKeywordLine s s' ∧ Escapes Reported endOfDocument s' := by
  unfold processDocument
  rw [drain_escapes (processKeywordLineWith_front hfront)]
  constructor
  · rintro ⟨before, hreached, ⟨hend, hescapes⟩ | ⟨line, rest, hline, hescapes⟩⟩
    · exact Or.inr ⟨before, ⟨hreached, hend⟩, hescapes⟩
    · obtain ⟨keyword, items, hsplit, hescapes⟩ := (escapes_processKeywordLineWith _ _).mp hescapes
      exact Or.inl ⟨_, ⟨before, line, rest, keyword, items, hreached, hline, hsplit, rfl⟩, hescapes⟩
  · rintro (⟨s', ⟨before, line, rest, keyword, items, hreached, hline, hsplit, rfl⟩, hescapes⟩ |
      ⟨s', ⟨hreached, hend⟩, hescapes⟩)
    · exact ⟨before, hreached, Or.inr ⟨line, rest, hline,
        (escapes_processKeywordLineWith _ _).mpr ⟨keyword, items, hsplit, hescapes⟩⟩⟩
    · exact ⟨s', hreached, Or.inl ⟨hend, hescapes⟩⟩

variable {parsingError : JString → δ → δ}

/-- The handler of `TorParsingException` returns. -/
theorem catchParsingError_returns {x : ParserM δ Unit} (s : ParserState δ) :
    (∃ b s', catchParsingError x (fun message => onDocument (parsingError message)) s = .ok b s') ↔
      ¬ Escapes Reported x s := by
  unfold catchParsingError Escapes
  cases x s with
  | ok a s' => simp
  | error e s' =>
    cases e with
    | torParsing message =>
      refine iff_of_true ⟨false, _, rfl⟩ ?_
      rintro ⟨e, s'', h, hnot⟩
      cases h
      exact hnot trivial
    | _ =>
      refine iff_of_false ?_ ?_
      · rintro ⟨b, s'', h⟩
        cases h
      · intro hnone
        exact hnone ⟨_, _, rfl, id⟩

/-- **When a parse returns.** Its lines let something escape exactly if they are hazards, and its
end lets nothing escape. -/
theorem parse_returns_iff {Hazard : ParserState δ → Prop}
    {s : ParserState δ} (hfront : Front unreadLines parseKeywordLine)
    (hline : ∀ s', LineReached recognizeOpt parseKeywordLine s s' →
      (Escapes Reported parseKeywordLine s' ↔ Hazard s'))
    (hend : ∀ s', EndReached recognizeOpt parseKeywordLine s s' →
      ¬ Escapes Reported endOfDocument s') :
    (∃ b s', catchParsingError (processDocument recognizeOpt parseKeywordLine endOfDocument)
        (fun message => onDocument (parsingError message)) s = .ok b s') ↔
      ∀ s', LineReached recognizeOpt parseKeywordLine s s' → ¬ Hazard s' := by
  rw [catchParsingError_returns, escapes_processDocument hfront]
  constructor
  · intro h s' hreached hhazard
    exact h (Or.inl ⟨s', hreached, (hline s' hreached).mpr hhazard⟩)
  · rintro h (⟨s', hreached, hescapes⟩ | ⟨s', hreached, hescapes⟩)
    · exact h s' hreached ((hline s' hreached).mp hescapes)
    · exact hend s' hreached hescapes

end Documents

end Orchid
