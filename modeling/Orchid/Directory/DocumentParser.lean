import Orchid.Directory.FieldParser

/-!
# Orchid — keyword-driven document parsers

Every parser of the directory package is a handler that `processDocument` calls once per
keyword line. A handler reads the line's arguments and perhaps an object behind it, and
then acts on the document it builds. Its state is the `Cursor` (what is read) next to a
`HandlerState` (what has been recorded and built).

The second half relates a whole run to what the document says. `Format` is a handler whose
reading does not depend on the document built so far. `Format.items` lists the entries of
a document, a function of its lines alone, and **`processDocument_eq_replay`** shows that
the run is the actions of those entries in order. Facts about documents then are facts
about lists of entries.
-/

namespace Orchid

open Prog

/-! ## Recording -/

/-- The recording half of the field parser. -/
structure Recorder where
  signatureIgnoreToken : Option JString := none
  isProcessingSignedEntity : Bool := false
  signatureDigest : Option TorMessageDigest := none
  signatureDigest256 : Option TorMessageDigest := none
  rawDocumentBuffer : JString := []
  deriving DecidableEq

namespace Recorder

/-- Lines that begin with the ignore token are kept out of the digests. -/
def ignores (r : Recorder) (line : JString) : Bool :=
  match r.signatureIgnoreToken with
  | some token => startsWith line token
  | none => false

def updateCurrentSignature (line : JString) (r : Recorder) : Recorder :=
  if !r.isProcessingSignedEntity then r
  else if r.ignores line then r
  else
    { r with
      signatureDigest := r.signatureDigest.map (·.update (latin1 (line ++ lit "\n")))
      signatureDigest256 := r.signatureDigest256.map (·.update (latin1 (line ++ lit "\n"))) }

def updateRawDocument (line : JString) (r : Recorder) : Recorder :=
  { r with rawDocumentBuffer := r.rawDocumentBuffer ++ line ++ lit "\n" }

/-- What `readLine` does with the line it returns. -/
def record (r : Recorder) (line : JString) : Recorder :=
  (r.updateCurrentSignature line).updateRawDocument line

def recordLines (r : Recorder) (ls : List JString) : Recorder := ls.foldl record r

def startSignedEntity (r : Recorder) : Recorder :=
  { r with
    isProcessingSignedEntity := true
    signatureDigest := some { }
    signatureDigest256 := some { isDigest256 := true } }

def endSignedEntity (r : Recorder) : Recorder := { r with isProcessingSignedEntity := false }

def setSignatureIgnoreToken (token : JString) (r : Recorder) : Recorder :=
  { r with signatureIgnoreToken := some token }

def resetRawDocument (r : Recorder) : Recorder := { r with rawDocumentBuffer := [] }

/-- While a signed entity is open and nothing is ignored, both digests take in the text of
the lines as the raw document does. -/
theorem recordLines_open {r : Recorder} (hopen : r.isProcessingSignedEntity = true)
    (htoken : r.signatureIgnoreToken = none) (ls : List JString) :
    r.recordLines ls =
      { r with
        signatureDigest := r.signatureDigest.map (·.update (latin1 (unlines ls)))
        signatureDigest256 := r.signatureDigest256.map (·.update (latin1 (unlines ls)))
        rawDocumentBuffer := r.rawDocumentBuffer ++ unlines ls } := by
  induction ls generalizing r with
  | nil =>
    have hid : ∀ d : Option TorMessageDigest, d.map (·.update (latin1 (unlines []))) = d := by
      intro d
      cases d <;> simp [TorMessageDigest.update, latin1]
    rw [hid, hid, unlines_nil, List.append_nil]
    rfl
  | cons l ls ih =>
    have hrecord : r.record l =
        { r with
          signatureDigest := r.signatureDigest.map (·.update (latin1 (l ++ lit "\n")))
          signatureDigest256 := r.signatureDigest256.map (·.update (latin1 (l ++ lit "\n")))
          rawDocumentBuffer := r.rawDocumentBuffer ++ l ++ lit "\n" } := by
      simp [record, updateRawDocument, updateCurrentSignature, hopen, ignores, htoken]
    have hupdate : ∀ d : Option TorMessageDigest,
        (d.map (·.update (latin1 (l ++ lit "\n")))).map (·.update (latin1 (unlines ls))) =
          d.map (·.update (latin1 (unlines (l :: ls)))) := by
      intro d
      cases d <;> simp [TorMessageDigest.update, unlines_cons, latin1]
    show (r.record l).recordLines ls = _
    rw [ih (by rw [hrecord]; exact hopen) (by rw [hrecord]; exact htoken), hrecord]
    simp only [hupdate, unlines_cons, List.append_assoc]

/-- Once the signed entity is closed only the raw document grows. -/
theorem recordLines_closed {r : Recorder} (hclosed : r.isProcessingSignedEntity = false)
    (ls : List JString) :
    r.recordLines ls = { r with rawDocumentBuffer := r.rawDocumentBuffer ++ unlines ls } := by
  induction ls generalizing r with
  | nil =>
    rw [unlines_nil, List.append_nil]
    rfl
  | cons l ls ih =>
    have hrecord : r.record l =
        { r with rawDocumentBuffer := r.rawDocumentBuffer ++ l ++ lit "\n" } := by
      simp [record, updateRawDocument, updateCurrentSignature, hclosed]
    show (r.record l).recordLines ls = _
    rw [ih (by rw [hrecord]; exact hclosed), hrecord]
    simp only [unlines_cons, List.append_assoc]

end Recorder

/-! ## Results -/

/-- `BasicDocumentParsingResult`. -/
structure DocumentParsingResult (T : Type) where
  documents : List T := []
  invalidDocument : Option T := none
  isOkay : Bool := true
  isInvalid : Bool := false
  isError : Bool := false
  message : JString := []

namespace DocumentParsingResult

variable {T : Type}

def documentParsed (r : DocumentParsingResult T) (document : T) : DocumentParsingResult T :=
  { r with documents := r.documents ++ [document] }

def documentInvalid (r : DocumentParsingResult T) (document : T) (message : JString) :
    DocumentParsingResult T :=
  { r with isOkay := false, isInvalid := true, invalidDocument := some document, message := message }

def parsingError (r : DocumentParsingResult T) (message : JString) : DocumentParsingResult T :=
  { r with isOkay := false, isError := true, message := message }

def getDocument (r : DocumentParsingResult T) : Except JavaException T :=
  match r.documents with
  | [document] => .ok document
  | _ => .error (.illegalState [])

end DocumentParsingResult

/-! ## Handlers -/

/-- What a handler works on besides the input: the recorder and the document it builds. -/
structure HandlerState (δ : Type) where
  recorder : Recorder
  document : δ

structure ParserState (δ : Type) where
  cursor : Cursor
  handler : HandlerState δ

abbrev HandlerM (δ : Type) := Prog JavaException (HandlerState δ)

abbrev ParserM (δ : Type) := Prog JavaException (ParserState δ)

variable {δ α : Type}

def onRecorder (f : Recorder → Recorder) : HandlerM δ Unit :=
  modify fun s => { s with recorder := f s.recorder }

def onDocument (f : δ → δ) : HandlerM δ Unit :=
  modify fun s => { s with document := f s.document }

/-- `verifySignedEntity`. A missing key or digest is a null receiver. -/
def verifySignedEntity (P : Platform) (publicKey : Option TorPublicKey) (signature : TorSignature) :
    HandlerM δ Bool := do
  onRecorder Recorder.endSignedEntity
  match publicKey, (← get).recorder.signatureDigest with
  | some key, some digest => fromExcept (key.verifySignature P signature (digest.getDigestBytes P))
  | _, _ => throw .nullPointer

/-- The signed entity is closed whatever comes of the check. -/
theorem verifySignedEntity_run (P : Platform) (publicKey : Option TorPublicKey)
    (signature : TorSignature) (s : HandlerState δ) :
    verifySignedEntity P publicKey signature s =
      (match publicKey, s.recorder.signatureDigest with
        | some key, some digest =>
          fromExcept (key.verifySignature P signature (digest.getDigestBytes P))
        | _, _ => throw .nullPointer : HandlerM δ Bool)
        { s with recorder := s.recorder.endSignedEntity } := rfl

/-- The lines that are no longer there. -/
def taken (ls rest : List JString) : List JString := ls.take (ls.length - rest.length)

@[simp] theorem taken_append (q r : List JString) : taken (q ++ r) r = q := by
  unfold taken
  rw [List.length_append, Nat.add_sub_cancel, List.take_left']
  rfl

/-- The handler state after the lines between two cursors have been recorded. -/
def HandlerState.recordTaken (s : HandlerState δ) (c c' : Cursor) : HandlerState δ :=
  { s with recorder := s.recorder.recordLines (taken c.inputLines c'.inputLines) }

/-- Run a reading program and record the lines it took. -/
def read (x : ReadM α) : ParserM δ α := fun s =>
  match x s.cursor with
  | .ok a c => .ok a ⟨c, s.handler.recordTaken s.cursor c⟩
  | .error e c => .error e ⟨c, s.handler.recordTaken s.cursor c⟩

/-- Run a program of the handler. -/
def handle (x : HandlerM δ α) : ParserM δ α := fun s =>
  match x s.handler with
  | .ok a h => .ok a { s with handler := h }
  | .error e h => .error e { s with handler := h }

def getCurrentKeyword : ParserM δ JString := fun s => .ok s.cursor.currentKeyword s

variable {β : Type} {s : ParserState δ} {recognizeOpt : Bool}

/-- Doing nothing in the handler is doing nothing. -/
theorem handle_pure_bind (a : α) (f : α → ParserM δ β) :
    (handle (pure a : HandlerM δ α) >>= f) = f a := rfl

/-- A value computed from what was read can be computed later. -/
theorem read_map_bind {γ : Type} (x : ReadM α) (g : α → β) (f : β → ParserM δ γ) :
    (read (g <$> x) >>= f) = (read x >>= fun a => f (g a)) := by
  funext s
  rw [bind_run, bind_run]
  unfold read
  rw [map_run]
  cases x s.cursor with
  | ok | error => rfl

/-- Reading nothing records nothing. -/
theorem read_pure_bind (a : α) (f : α → ParserM δ β) : (read (pure a : ReadM α) >>= f) = f a := by
  funext s
  have htaken : taken s.cursor.inputLines s.cursor.inputLines = [] := taken_append [] _
  rw [bind_run]
  simp only [read, pure_run, HandlerState.recordTaken, htaken]
  rfl

variable (x : HandlerM δ α)

theorem final_handle (s : ParserState δ) : (final (handle x s)).handler = final (x s.handler) := by
  unfold handle
  cases x s.handler with
  | ok | error => rfl

/-- The unread lines of a parser. -/
def unreadLines : QueueView (ParserState δ) JString where
  get s := s.cursor.inputLines
  set ls s := { s with cursor := { s.cursor with inputLines := ls } }
  get_set _ _ := rfl
  set_set _ _ _ := rfl
  set_get _ := rfl

theorem read_front {x : ReadM α} (hx : Front unread x) : Front (unreadLines (δ := δ)) (read x) := by
  intro s a s' h
  unfold read at h
  cases hrun : x s.cursor with rw [hrun] at h
  | error e c =>
    cases h
  | ok b c =>
    cases h
    obtain ⟨q, hq, hreads⟩ := hx _ _ _ hrun
    refine ⟨q, hq, fun r => ?_⟩
    have hq' : s.cursor.inputLines = q ++ c.inputLines := hq
    have hreads' : x { s.cursor with inputLines := q ++ r } = .ok a { c with inputLines := r } :=
      hreads r
    show read x ⟨{ s.cursor with inputLines := q ++ r }, s.handler⟩ = _
    simp only [read, hreads', HandlerState.recordTaken, hq', taken_append]
    rfl

theorem handle_front : Front unreadLines (handle x) := by
  apply Silent.front
  intro ls s
  show handle x ⟨{ s.cursor with inputLines := ls }, s.handler⟩ = _
  unfold handle
  cases hx : x s.handler with
  | ok | error => rfl

theorem getCurrentKeyword_front : Front (unreadLines (δ := δ)) getCurrentKeyword :=
  Silent.front fun _ _ => rfl

/-! ## Orderly handlers

A handler reads from the front, and what it does to its state keeps to a relation: a part
stays as it was, or an invariant survives. -/

theorem Recorder.recordLines_token (r : Recorder) (ls : List JString) :
    (r.recordLines ls).signatureIgnoreToken = r.signatureIgnoreToken := by
  induction ls generalizing r with
  | nil => rfl
  | cons l ls ih =>
    have hline : (r.record l).signatureIgnoreToken = r.signatureIgnoreToken := by
      unfold record updateRawDocument updateCurrentSignature
      split
      · rfl
      · split <;> rfl
    show ((r.record l).recordLines ls).signatureIgnoreToken = _
    rw [ih, hline]

/-- A relation between handler states that composes and allows lines to be recorded. -/
class HandlerOrder (R : HandlerState δ → HandlerState δ → Prop) : Prop where
  refl : ∀ h, R h h
  trans : ∀ h h' h'', R h h' → R h' h'' → R h h''
  record : ∀ (h : HandlerState δ) ls, R h { h with recorder := h.recorder.recordLines ls }

/-- `x` reads from the front and `R` relates what it finds to what it leaves. -/
structure Orderly (R : HandlerState δ → HandlerState δ → Prop) (x : ParserM δ α) : Prop where
  front : Front unreadLines x
  keeps : Steps (fun s s' => R s.handler s'.handler) x

namespace Orderly

variable {β : Type} {R : HandlerState δ → HandlerState δ → Prop} [HandlerOrder R]

theorem order : StepOrder fun s s' : ParserState δ => R s.handler s'.handler where
  refl s := HandlerOrder.refl s.handler
  trans h h' := HandlerOrder.trans _ _ _ h h'

theorem pure (a : α) : Orderly R (Pure.pure a : ParserM δ α) :=
  ⟨Front.pure a, order.pure a⟩

theorem throw (e : JavaException) : Orderly R (MonadExcept.throw e : ParserM δ α) :=
  ⟨Front.throw e, order.throw e⟩

variable {x : ParserM δ α}

theorem bind {f : α → ParserM δ β} (hx : Orderly R x) (hf : ∀ a, Orderly R (f a)) :
    Orderly R (x >>= f) :=
  ⟨hx.front.bind fun a => (hf a).front, order.bind hx.keeps fun a => (hf a).keeps⟩

omit [HandlerOrder R] in
theorem ite {c : Prop} [Decidable c] {y : ParserM δ α} (hx : Orderly R x) (hy : Orderly R y) :
    Orderly R (if c then x else y) :=
  ⟨hx.front.ite hy.front, hx.keeps.ite hy.keeps⟩

theorem iterate {e : JavaException} {body : ParserM δ Bool} (h : Orderly R body) (n : Nat) :
    Orderly R (Prog.iterate e body n) :=
  ⟨Front.iterate h.front n, order.iterate h.keeps n⟩

theorem read {x : ReadM α} (hx : Front unread x) : Orderly R (Orchid.read x) := by
  refine ⟨read_front hx, fun s => ?_⟩
  unfold Orchid.read
  cases x s.cursor with
  | ok a c | error e c => exact HandlerOrder.record _ _

omit [HandlerOrder R] in
theorem handle {x : HandlerM δ α} (hx : ∀ h, R h (final (x h))) : Orderly R (Orchid.handle x) := by
  refine ⟨handle_front x, fun s => ?_⟩
  show R s.handler (final (Orchid.handle x s)).handler
  rw [final_handle]
  exact hx s.handler

theorem getCurrentKeyword : Orderly R getCurrentKeyword :=
  ⟨getCurrentKeyword_front, fun s => HandlerOrder.refl s.handler⟩

omit [HandlerOrder R] in
/-- What keeps to a relation keeps to a weaker one. -/
theorem mono {R' : HandlerState δ → HandlerState δ → Prop} (h : Orderly R x)
    (hweaker : ∀ h h', R h h' → R' h h') : Orderly R' x :=
  ⟨h.front, fun s => hweaker _ _ (h.keeps s)⟩

end Orderly

/-! ## The main loop -/

/-- What `processDocument` does with one line. -/
def processKeywordLineWith (recognizeOpt : Bool) (parseKeywordLine : ParserM δ Unit)
    (line : JString) : ParserM δ Unit := do
  handle (onRecorder (·.record line))
  if ← read (processLine recognizeOpt line) then parseKeywordLine

/-- `processDocument`: line by line until `readLine` is null. -/
def processDocument (recognizeOpt : Bool) (parseKeywordLine endOfDocument : ParserM δ Unit) :
    ParserM δ Unit :=
  drain unreadLines .stuck (processKeywordLineWith recognizeOpt parseKeywordLine) endOfDocument

/-- The `try` around `processDocument`: only `TorParsingException` is caught. -/
def catchParsingError (x : ParserM δ Unit) (parsingError : JString → HandlerM δ Unit) :
    ParserM δ Bool := fun s =>
  match x s with
  | .ok _ s' => .ok true s'
  | .error (.torParsing message) s' => (do handle (parsingError message); return false) s'
  | .error e s' => .error e s'

/-- A handler's run, seen without the cursor. -/
def forget (r : EStateM.Result JavaException (ParserState δ) α) :
    EStateM.Result JavaException (HandlerState δ) α :=
  mapState ParserState.handler r

theorem forget_handle (s : ParserState δ) : forget (handle x s) = x s.handler := by
  unfold handle forget
  cases x s.handler with
  | ok | error => rfl

theorem final_forget (r : EStateM.Result JavaException (ParserState δ) α) :
    final (forget r) = (final r).handler := by
  cases r with
  | ok | error => rfl

variable {x : ParserM δ Unit}

/-- What holds at the end of the run and survives the error report holds at the end of
`parse`. -/
theorem catchParsingError_final {parsingError : JString → HandlerM δ Unit}
    (I : HandlerState δ → Prop) (hx : I (final (forget (x s))))
    (herror : ∀ message h, I h → I (final (parsingError message h))) :
    I (final (catchParsingError x parsingError s)).handler := by
  unfold catchParsingError
  cases hrun : x s with rw [hrun] at hx
  | ok u s' =>
    exact hx
  | error e s' =>
    have hx' : I s'.handler := hx
    cases e with
    | torParsing message =>
      have hpe := herror message s'.handler hx'
      rw [← final_handle] at hpe
      show I (final ((handle (parsingError message) >>= fun _ => pure false) s')).handler
      rw [bind_run]
      cases hh : handle (parsingError message) s' with rw [hh] at hpe
      | ok | error => exact hpe
    | _ => exact hx'

/-- A parse that logs its parsing errors and returned: the run came to its end or to such an
error, and left the state it left. -/
theorem catchParsingError_returned {s' : ParserState δ} {b : Bool}
    (h : catchParsingError x (fun _ => pure ()) s = .ok b s') :
    forget (x s) = .ok () s'.handler ∨
      ∃ message, forget (x s) = .error (.torParsing message) s'.handler := by
  unfold catchParsingError at h
  cases hrun : x s with rw [hrun] at h
  | ok u s₁ =>
    cases h
    exact Or.inl rfl
  | error e s₁ =>
    cases e with
    | torParsing message =>
      cases h
      exact Or.inr ⟨message, rfl⟩
    | _ => cases h

theorem processLine_front (recognizeOpt : Bool) (line : JString) :
    Front unread (processLine recognizeOpt line) := by
  apply Silent.front
  intro ls c
  unfold processLine
  cases splitLine recognizeOpt line with
  | none | some => rfl

theorem processKeywordLineWith_front {parseKeywordLine : ParserM δ Unit}
    (h : Front unreadLines parseKeywordLine) (line : JString) :
    Front unreadLines (processKeywordLineWith recognizeOpt parseKeywordLine line) := by
  refine (handle_front _).bind fun _ => ?_
  refine (read_front (processLine_front recognizeOpt line)).bind fun b => ?_
  exact h.ite (Front.pure _)

variable {R : HandlerState δ → HandlerState δ → Prop}

theorem processKeywordLineWith_orderly [HandlerOrder R]
    {parseKeywordLine : ParserM δ Unit} (h : Orderly R parseKeywordLine) (line : JString) :
    Orderly R (processKeywordLineWith recognizeOpt parseKeywordLine line) := by
  refine (Orderly.handle fun hs => HandlerOrder.record hs [line]).bind fun _ => ?_
  refine (Orderly.read (processLine_front recognizeOpt line)).bind fun b => ?_
  exact h.ite (Orderly.pure _)

/-- What each line of an orderly handler keeps to, a whole run keeps to. -/
theorem processDocument_keeps [HandlerOrder R]
    {parseKeywordLine done : ParserM δ Unit} (h : Orderly R parseKeywordLine)
    (hdone : Orderly R done) (s : ParserState δ) :
    R s.handler (final (processDocument recognizeOpt parseKeywordLine done s)).handler := by
  have hround : Steps (fun s s' => R s.handler s'.handler)
      (drainRound unreadLines (processKeywordLineWith recognizeOpt parseKeywordLine) done) := by
    intro s
    unfold drainRound
    split
    · exact Orderly.order.bind hdone.keeps (fun _ => Orderly.order.pure _) s
    · rename_i line rest _
      exact Orderly.order.bind (processKeywordLineWith_orderly h line).keeps
        (fun _ => Orderly.order.pure _) (unreadLines.set rest s)
  exact Orderly.order.iterate hround _ s

/-- The three things a line can do to a parser. -/
theorem processKeywordLineWith_run (recognizeOpt : Bool) (parseKeywordLine : ParserM δ Unit)
    (line : JString) (s : ParserState δ) :
    processKeywordLineWith recognizeOpt parseKeywordLine line s =
      match splitLine recognizeOpt line with
      | none => .ok () ⟨s.cursor, { s.handler with recorder := s.handler.recorder.record line }⟩
      | some (keyword, items) =>
        parseKeywordLine ⟨⟨s.cursor.inputLines, keyword, items⟩,
          { s.handler with recorder := s.handler.recorder.record line }⟩ := by
  have htaken : ∀ ls : List JString, taken ls ls = [] := fun ls => taken_append [] ls
  unfold processKeywordLineWith
  rw [bind_run]
  show (read (processLine recognizeOpt line) >>= _) _ = _
  rw [bind_run]
  cases hsplit : splitLine recognizeOpt line with
  | none =>
    simp only [read, processLine, hsplit, pure_run, HandlerState.recordTaken, htaken]
    rfl
  | some p =>
    obtain ⟨keyword, items⟩ := p
    simp only [read, processLine, hsplit, bind_run, modify_run, pure_run,
      HandlerState.recordTaken, htaken]
    rfl

/-- Handlers that agree where a property of the document holds, which they keep, make the
same run there. -/
theorem processDocument_congr {h h' done : ParserM δ Unit} (J : δ → Prop)
    (hagree : ∀ s, J s.handler.document → h s = h' s)
    (hkeeps : ∀ s u s', J s.handler.document → h' s = .ok u s' → J s'.handler.document)
    (hs : J s.handler.document) :
    processDocument recognizeOpt h done s = processDocument recognizeOpt h' done s := by
  refine iterate_congr (fun s => J s.handler.document) ?_ ?_ hs
  · intro s hJ
    unfold drainRound
    split
    · rfl
    · rename_i line rest _
      rw [bind_run, bind_run, processKeywordLineWith_run, processKeywordLineWith_run]
      cases splitLine recognizeOpt line with
      | none => rfl
      | some p =>
        dsimp only
        rw [hagree]
        exact hJ
  · intro s s' hJ hround
    unfold drainRound at hround
    split at hround
    · obtain ⟨u, s₁, -, hfalse⟩ := bind_eq_ok.mp hround
      cases hfalse
    · rename_i line rest _
      obtain ⟨u, s₁, hrun, hpure⟩ := bind_eq_ok.mp hround
      cases hpure
      rw [processKeywordLineWith_run] at hrun
      cases hsplit : splitLine recognizeOpt line with rw [hsplit] at hrun
      | none =>
        cases hrun
        exact hJ
      | some p =>
        refine hkeeps _ u s' ?_ hrun
        exact hJ

/-! ## Formats

A handler whose reading depends on the keyword only. What it reads is an entry, what it
does is to act on the entry; `before` is what it does ahead of the reading. -/

structure Format (δ E : Type) where
  recognizeOpt : Bool
  before : JString → HandlerM δ Unit
  readEntry : JString → ReadM E
  readEntry_front : ∀ keyword, Front unread (readEntry keyword)
  act : E → HandlerM δ Unit

/-- The parts of a document: lines that are no keyword lines, keyword lines with the object
lines behind them and the entry they make, and the line at which reading failed. -/
inductive Item (E : Type) where
  | blank (line : JString)
  | entry (line keyword : JString) (body : List JString) (entry : E)
  | failed (line keyword : JString) (body : List JString) (exception : JavaException)
  deriving DecidableEq

/-- The lines an item occupies. -/
def Item.lines {E : Type} : Item E → List JString
  | .blank line => [line]
  | .entry line _ body _ => line :: body
  | .failed line _ body _ => line :: body

namespace Format

variable {E : Type} (F : Format δ E)

def parseKeywordLine : ParserM δ Unit := do
  let keyword ← getCurrentKeyword
  handle (F.before keyword)
  let entry ← read (F.readEntry keyword)
  handle (F.act entry)

/-- The item that begins with `line`, and what is left behind it unless reading failed. -/
def nextItem (line : JString) (rest : List JString) : Item E × Option (List JString) :=
  match splitLine F.recognizeOpt line with
  | none => (.blank line, some rest)
  | some (keyword, items) =>
    match F.readEntry keyword ⟨rest, keyword, items⟩ with
    | .ok entry c => (.entry line keyword (taken rest c.inputLines) entry, some c.inputLines)
    | .error e c => (.failed line keyword (taken rest c.inputLines) e, none)

/-- The items of a document; the bound is its number of lines. -/
def itemsUpTo : Nat → List JString → List (Item E)
  | 0, _ => []
  | _, [] => []
  | n + 1, line :: rest =>
    match F.nextItem line rest with
    | (item, some rest') => item :: itemsUpTo n rest'
    | (item, none) => [item]

def items (ls : List JString) : List (Item E) := F.itemsUpTo ls.length ls

/-- What an item does once its lines are there: recording and acting, without any input. -/
def replayItem : Item E → HandlerM δ Unit
  | .blank line => onRecorder (·.record line)
  | .entry line keyword body entry => do
    onRecorder (·.record line)
    F.before keyword
    onRecorder (·.recordLines body)
    F.act entry
  | .failed line keyword body e => do
    onRecorder (·.record line)
    F.before keyword
    onRecorder (·.recordLines body)
    throw e

def replay (items : List (Item E)) : HandlerM δ Unit := items.forM F.replayItem

theorem parseKeywordLine_front : Front unreadLines F.parseKeywordLine := by
  refine getCurrentKeyword_front.bind fun keyword => ?_
  refine (handle_front _).bind fun _ => ?_
  exact (read_front (F.readEntry_front keyword)).bind fun _ => handle_front _

theorem parseKeywordLine_orderly [HandlerOrder R]
    (hbefore : ∀ keyword h, R h (final (F.before keyword h)))
    (hact : ∀ entry h, R h (final (F.act entry h))) : Orderly R F.parseKeywordLine := by
  refine Orderly.getCurrentKeyword.bind fun keyword => ?_
  refine (Orderly.handle (hbefore keyword)).bind fun _ => ?_
  exact (Orderly.read (F.readEntry_front keyword)).bind fun entry =>
    Orderly.handle (hact entry)

variable {item : Item E} {line : JString} {rest : List JString} {rest' : List JString}

/-- Items take at least their keyword line. -/
theorem nextItem_length (h : F.nextItem line rest = (item, some rest')) :
    rest'.length ≤ rest.length := by
  unfold nextItem at h
  cases hsplit : splitLine F.recognizeOpt line with
  | none =>
    rw [hsplit] at h
    cases h
    exact Nat.le_refl _
  | some p =>
    obtain ⟨keyword, items⟩ := p
    simp only [hsplit] at h
    cases hread : F.readEntry keyword ⟨rest, keyword, items⟩ with rw [hread] at h
    | error e c => cases h
    | ok entry c =>
      cases h
      exact (F.readEntry_front keyword).length_le hread

/-- The bound is never used up. -/
theorem itemsUpTo_enough {n m : Nat} {ls : List JString} (hn : ls.length ≤ n)
    (hm : ls.length ≤ m) : F.itemsUpTo n ls = F.itemsUpTo m ls := by
  induction n generalizing m ls with
  | zero =>
    obtain rfl : ls = [] := List.length_eq_zero_iff.mp (by omega)
    cases m <;> rfl
  | succ n ih =>
    cases ls with
    | nil => cases m <;> rfl
    | cons line rest =>
      rw [List.length_cons] at hn hm
      obtain ⟨k, rfl⟩ : ∃ k, m = k + 1 := ⟨m - 1, by omega⟩
      unfold itemsUpTo
      cases hnext : F.nextItem line rest with
      | mk item left =>
        cases left with
        | none => rfl
        | some rest' =>
          have hle := F.nextItem_length hnext
          have htail : F.itemsUpTo n rest' = F.itemsUpTo k rest' := ih (by omega) (by omega)
          exact congrArg (item :: ·) htail

theorem items_cons (line : JString) (rest : List JString) :
    F.items (line :: rest) = match F.nextItem line rest with
      | (item, some rest') => item :: F.items rest'
      | (item, none) => [item] := by
  unfold items
  rw [List.length_cons, itemsUpTo]
  cases hnext : F.nextItem line rest with
  | mk item left =>
    cases left with
    | none => rfl
    | some rest' =>
      have hle := F.nextItem_length hnext
      show item :: F.itemsUpTo rest.length rest' = item :: F.itemsUpTo rest'.length rest'
      rw [F.itemsUpTo_enough hle (Nat.le_refl _)]

/-! ## Items and lines

An item that was read without an exception is the reading of its own lines, whatever
stands behind them. So a document's items can be cut and joined like its lines. -/

/-- Reading the lines of the item gives the item and stops behind them. -/
def Complete (item : Item E) : Prop :=
  ∃ line body, item.lines = line :: body ∧ ∀ r, F.nextItem line (body ++ r) = (item, some r)

theorem nextItem_complete (h : F.nextItem line rest = (item, some rest')) :
    F.Complete item ∧ line :: rest = item.lines ++ rest' := by
  unfold nextItem at h
  cases hsplit : splitLine F.recognizeOpt line with
  | none =>
    simp only [hsplit, Prod.mk.injEq, Option.some.injEq] at h
    obtain ⟨rfl, rfl⟩ := h
    exact ⟨⟨line, [], rfl, fun r => by simp only [nextItem, hsplit, List.nil_append]⟩, rfl⟩
  | some p =>
    obtain ⟨keyword, args⟩ := p
    simp only [hsplit] at h
    cases hread : F.readEntry keyword ⟨rest, keyword, args⟩ with
    | error e c => rw [hread] at h; cases h
    | ok entry c =>
      simp only [hread, Prod.mk.injEq, Option.some.injEq] at h
      obtain ⟨rfl, rfl⟩ := h
      obtain ⟨q, hq, hreads⟩ := F.readEntry_front keyword _ _ _ hread
      have hq' : rest = q ++ c.inputLines := hq
      have htaken : taken rest c.inputLines = q := by rw [hq', taken_append]
      rw [htaken]
      refine ⟨⟨line, q, rfl, fun r => ?_⟩, by rw [hq']; rfl⟩
      have hr : F.readEntry keyword ⟨q ++ r, keyword, args⟩ = .ok entry { c with inputLines := r } :=
        hreads r
      simp only [nextItem, hsplit, hr, taken_append]

variable {keyword : JString}

/-- The entry of a complete item is what the reader of its keyword returned. -/
theorem Complete.readEntry {F : Format δ E} {body : List JString} {entry : E}
    (h : F.Complete (.entry line keyword body entry)) :
    ∃ args c, F.readEntry keyword ⟨body, keyword, args⟩ = .ok entry c := by
  obtain ⟨line', body', hlines, hnext⟩ := h
  cases hlines
  have hnext := hnext []
  rw [List.append_nil] at hnext
  unfold nextItem at hnext
  cases hsplit : splitLine F.recognizeOpt line with
  | none => rw [hsplit] at hnext; cases hnext
  | some p =>
    simp only [hsplit] at hnext
    cases hread : F.readEntry p.1 ⟨body, p.1, p.2⟩ with
    | error e c => rw [hread] at hnext; cases hnext
    | ok entry' c =>
      simp only [hread, Prod.mk.injEq, Item.entry.injEq] at hnext
      obtain ⟨⟨-, rfl, -, rfl⟩, -⟩ := hnext
      exact ⟨p.2, c, hread⟩

/-- No part of the document failed to read. -/
def AllRead (items : List (Item E)) : Prop :=
  ∀ line keyword body e, Item.failed line keyword body e ∉ items

variable {items : List (Item E)}

/-- What stands behind complete items does not change them. -/
theorem items_append_of_complete (h : ∀ item ∈ items, F.Complete item)
    (r : List JString) : F.items (items.flatMap Item.lines ++ r) = items ++ F.items r := by
  induction items with
  | nil => rfl
  | cons item items ih =>
    obtain ⟨line, body, hlines, hnext⟩ := h item (List.mem_cons_self ..)
    have htail := ih fun i hi => h i (List.mem_cons_of_mem _ hi)
    rw [List.flatMap_cons, hlines, List.append_assoc, List.cons_append, items_cons, hnext]
    show item :: F.items _ = item :: _
    rw [htail]
    rfl

theorem items_of_complete (h : ∀ item ∈ items, F.Complete item) :
    F.items (items.flatMap Item.lines) = items := by
  have happ := F.items_append_of_complete h []
  rwa [List.append_nil, show F.items [] = [] from rfl, List.append_nil] at happ

/-- Behind a failed item reading does not go on. -/
theorem nextItem_failed (h : F.nextItem line rest = (item, none)) :
    ∃ line keyword body e, item = .failed line keyword body e := by
  unfold nextItem at h
  cases hsplit : splitLine F.recognizeOpt line with
  | none => rw [hsplit] at h; cases h
  | some p =>
    simp only [hsplit] at h
    cases hread : F.readEntry p.1 ⟨rest, p.1, p.2⟩ with
    | ok entry c => rw [hread] at h; cases h
    | error e c =>
      simp only [hread, Prod.mk.injEq, and_true] at h
      exact ⟨line, p.1, _, e, h.symm⟩

theorem not_complete_failed (line keyword : JString) (body : List JString) (e : JavaException) :
    ¬ F.Complete (.failed line keyword body e) := by
  rintro ⟨line', body', -, hnext⟩
  have hnext := hnext []
  unfold nextItem at hnext
  split at hnext
  · cases hnext
  · split at hnext <;> cases hnext

/-- Every item but a failed one is complete and made of lines of the document, and without a
failed one the items cover the document. -/
theorem items_complete (ls : List JString) :
    (∀ item ∈ F.items ls, (∃ line keyword body e, item = .failed line keyword body e) ∨
      F.Complete item ∧ item.lines ⊆ ls) ∧
    (AllRead (F.items ls) → (F.items ls).flatMap Item.lines = ls) := by
  induction hn : ls.length using Nat.strongRecOn generalizing ls with
  | ind n ih =>
    cases ls with
    | nil => exact ⟨fun item hi => (by cases hi), fun _ => rfl⟩
    | cons line rest =>
      rw [items_cons]
      rcases hnext : F.nextItem line rest with ⟨item, _ | rest'⟩
      · have hfailed := F.nextItem_failed hnext
        refine ⟨fun i hi => ?_, fun hall => ?_⟩
        · rw [List.mem_singleton.mp hi]
          exact Or.inl hfailed
        · obtain ⟨l, k, b, e, rfl⟩ := hfailed
          exact absurd (List.mem_singleton.mpr rfl) (hall l k b e)
      · obtain ⟨hcomplete, hcover⟩ := F.nextItem_complete hnext
        have hle := F.nextItem_length hnext
        rw [List.length_cons] at hn
        obtain ⟨hmem, hflat⟩ := ih rest'.length (by omega) rest' rfl
        refine ⟨fun i hi => ?_, fun hall => ?_⟩
        · rcases List.mem_cons.mp hi with rfl | hi
          · exact Or.inr ⟨hcomplete, by rw [hcover]; exact List.subset_append_left _ _⟩
          · rcases hmem i hi with hf | ⟨hc, hsub⟩
            · exact Or.inl hf
            · refine Or.inr ⟨hc, List.Subset.trans hsub ?_⟩
              rw [hcover]
              exact List.subset_append_right _ _
        · have htail := hflat fun l k b e hm => hall l k b e (List.mem_cons_of_mem _ hm)
          rw [List.flatMap_cons, htail, hcover]

/-! ## Runs and replays -/

/-- One line of the run is one item of the document, and the run goes on where the item
ends. -/
theorem processKeywordLine_replay (line : JString) (s : ParserState δ) :
    forget (processKeywordLineWith F.recognizeOpt F.parseKeywordLine line s) =
        F.replayItem (F.nextItem line s.cursor.inputLines).1 s.handler ∧
      ∀ u s', processKeywordLineWith F.recognizeOpt F.parseKeywordLine line s = .ok u s' →
        (F.nextItem line s.cursor.inputLines).2 = some s'.cursor.inputLines := by
  rw [processKeywordLineWith_run]
  unfold nextItem
  cases hsplit : splitLine F.recognizeOpt line with
  | none =>
    refine ⟨rfl, ?_⟩
    intro u s' h
    cases h
    rfl
  | some p =>
    obtain ⟨keyword, items⟩ := p
    -- the run up to the reading: the line is recorded and `before` has acted
    let h₀ : HandlerState δ := { s.handler with recorder := s.handler.recorder.record line }
    let c₀ : Cursor := ⟨s.cursor.inputLines, keyword, items⟩
    have hhead : F.parseKeywordLine ⟨c₀, h₀⟩ =
        (handle (F.before keyword) >>= fun _ => read (F.readEntry keyword) >>= fun entry =>
          handle (F.act entry)) ⟨c₀, h₀⟩ := rfl
    show forget (F.parseKeywordLine ⟨c₀, h₀⟩) = _ ∧ ∀ u s', F.parseKeywordLine ⟨c₀, h₀⟩ = _ → _
    rw [hhead, bind_run]
    cases hbefore : F.before keyword h₀ with
    | error e h₁ =>
      have hrun : handle (F.before keyword) ⟨c₀, h₀⟩ = .error e ⟨c₀, h₁⟩ := by
        simp only [handle, hbefore]
      simp only [hrun]
      refine ⟨?_, fun u s' h => by cases h⟩
      cases hread : F.readEntry keyword c₀ <;>
        exact (bind_of_ok rfl).trans (bind_of_error hbefore) |>.symm
    | ok u h₁ =>
      have hrun : handle (F.before keyword) ⟨c₀, h₀⟩ = .ok u ⟨c₀, h₁⟩ := by
        simp only [handle, hbefore]
      simp only [hrun]
      cases hread : F.readEntry keyword c₀ with
      | error e c =>
        have hrun' : read (F.readEntry keyword) ⟨c₀, h₁⟩ = .error e ⟨c, h₁.recordTaken c₀ c⟩ := by
          simp only [read, hread]
        rw [bind_of_error hrun']
        refine ⟨?_, fun u s' h => by cases h⟩
        show _ = (F.before keyword >>= fun _ => onRecorder (·.recordLines _) >>= fun _ => throw e) h₀
        rw [bind_of_ok hbefore]
        rfl
      | ok entry c =>
        have hrun' : read (F.readEntry keyword) ⟨c₀, h₁⟩ = .ok entry ⟨c, h₁.recordTaken c₀ c⟩ := by
          simp only [read, hread]
        rw [bind_of_ok hrun']
        constructor
        · rw [forget_handle]
          show _ = (F.before keyword >>= fun _ => onRecorder (·.recordLines _) >>= fun _ =>
            F.act entry) h₀
          rw [bind_of_ok hbefore]
          rfl
        · intro v s' h
          unfold handle at h
          cases hact : F.act entry (h₁.recordTaken c₀ c) with rw [hact] at h
          | error e h₂ => cases h
          | ok w h₂ =>
            cases h
            rfl

/-- The whole run is a replay of the items of the document. -/
theorem processDocument_eq_replay (done : HandlerM δ Unit) (s : ParserState δ) :
    forget (processDocument F.recognizeOpt F.parseKeywordLine (handle done) s) =
      (F.replay (F.items s.cursor.inputLines) >>= fun _ => done) s.handler := by
  induction hn : s.cursor.inputLines.length using Nat.strongRecOn generalizing s with
  | ind n ih =>
    cases hlines : s.cursor.inputLines with
    | nil =>
      unfold processDocument
      rw [drain_nil (by exact hlines), forget_handle]
      rfl
    | cons line rest =>
      let s₁ : ParserState δ := { s with cursor := { s.cursor with inputLines := rest } }
      have hcons : processDocument F.recognizeOpt F.parseKeywordLine (handle done) s =
          (processKeywordLineWith F.recognizeOpt F.parseKeywordLine line >>= fun _ =>
            processDocument F.recognizeOpt F.parseKeywordLine (handle done)) s₁ :=
        drain_cons (fun t => processKeywordLineWith_front F.parseKeywordLine_front t) hlines
      obtain ⟨hitem, hleft⟩ := F.processKeywordLine_replay line s₁
      rw [hcons, items_cons]
      cases hrun : processKeywordLineWith F.recognizeOpt F.parseKeywordLine line s₁ with
      | error e s' =>
        rw [bind_of_error hrun]
        rw [hrun] at hitem
        -- whatever items follow, the replay stops at this one
        rcases hnext : F.nextItem line rest with ⟨item, _ | rest'⟩ <;>
          rw [show F.nextItem line s₁.cursor.inputLines = F.nextItem line rest from rfl, hnext]
            at hitem <;>
          exact (bind_of_error (bind_of_error hitem.symm)).symm
      | ok u s' =>
        have hleft' : (F.nextItem line rest).2 = some s'.cursor.inputLines := hleft u s' hrun
        rw [bind_of_ok hrun]
        rw [hrun] at hitem
        have hitem' : F.replayItem (F.nextItem line rest).1 s.handler = .ok u s'.handler :=
          hitem.symm
        rcases hnext : F.nextItem line rest with ⟨item, left⟩
        rw [hnext] at hleft' hitem'
        obtain rfl : left = some s'.cursor.inputLines := hleft'
        have hlt : s'.cursor.inputLines.length < n := by
          have hle := F.nextItem_length hnext
          rw [← hn, hlines, List.length_cons]
          omega
        rw [ih _ hlt s' rfl]
        show _ = ((F.replayItem item >>= fun _ => F.replay (F.items s'.cursor.inputLines)) >>=
          fun _ => done) s.handler
        rw [bind_run, bind_run, bind_of_ok hitem']

/-- A replay that gets past a keyword line: the line made an entry, `before` and `act` went
through, and the rest was replayed behind them. -/
theorem replay_items_cons {args : List JString} {h h' : HandlerState δ}
    (hsplit : splitLine F.recognizeOpt line = some (keyword, args))
    (hrun : F.replay (F.items (line :: rest)) h = .ok () h') :
    ∃ body entry rest' h₁ h₂,
      F.items (line :: rest) = .entry line keyword body entry :: F.items rest' ∧
      F.before keyword { h with recorder := h.recorder.record line } = .ok () h₁ ∧
      F.act entry { h₁ with recorder := h₁.recorder.recordLines body } = .ok () h₂ ∧
      F.replay (F.items rest') h₂ = .ok () h' := by
  rw [items_cons] at hrun ⊢
  unfold nextItem at hrun ⊢
  simp only [hsplit] at hrun ⊢
  cases hread : F.readEntry keyword ⟨rest, keyword, args⟩ with rw [hread] at hrun
  | error e c =>
    obtain ⟨u, h₁, hitem, -⟩ := bind_eq_ok.mp hrun
    obtain ⟨u₀, k₀, -, hitem⟩ := bind_eq_ok.mp hitem
    obtain ⟨u₁, k₁, -, hitem⟩ := bind_eq_ok.mp hitem
    cases hitem
  | ok entry c =>
    obtain ⟨u, h₂, hitem, hrest⟩ := bind_eq_ok.mp hrun
    have hitem : (F.before keyword >>= fun _ =>
        onRecorder (·.recordLines (taken rest c.inputLines)) >>= fun _ => F.act entry)
          { h with recorder := h.recorder.record line } = .ok u h₂ := hitem
    obtain ⟨u₁, h₁, hbefore, hact⟩ := bind_eq_ok.mp hitem
    exact ⟨_, entry, c.inputLines, h₁, h₂, rfl, hbefore, hact, hrest⟩

/-! ## What a run has handled

A parse also returns when it was ended by a parsing error. What it leaves then is what the
items in front of the error did. -/

/-- The run came to its end or to a parsing error, and left the state `h`. -/
def Ended (r : EStateM.Result JavaException (HandlerState δ) Unit) (h : HandlerState δ) : Prop :=
  r = .ok () h ∨ ∃ message, r = .error (.torParsing message) h

/-- The run is accepted and leaves one view of the state, or a parsing error leaves the other. -/
def Viewed {γ : Type} (view : HandlerState δ → γ) (accepted : Bool) (before after : γ) :
    EStateM.Result JavaException (HandlerState δ) Unit → Prop
  | .ok _ h => accepted = true ∧ view h = after
  | .error (.torParsing _) h => accepted = false ∧ view h = before
  | .error _ _ => True

/-- Suppose the items that raise parsing errors can be told by themselves, that they leave a
view of the state alone, and that every other item changes it by `step`. Then a run changes
the view as the items in front of the first refused one do. -/
theorem replay_view {γ : Type} (view : HandlerState δ → γ) {step : γ → Item E → γ}
    {accepts : Item E → Bool} (hitem : ∀ item h,
      Viewed view (accepts item) (view h) (step (view h) item) (F.replayItem item h))
    {h h' : HandlerState δ} (hrun : Ended (F.replay items h) h') :
    view h' = (items.takeWhile accepts).foldl step (view h) := by
  induction items generalizing h with
  | nil =>
    rcases hrun with hrun | ⟨message, hrun⟩
    · cases hrun
      rfl
    · cases hrun
  | cons item rest ih =>
    have hcons : F.replay (item :: rest) h = (F.replayItem item >>= fun _ => F.replay rest) h := rfl
    rw [hcons] at hrun
    have hview := hitem item h
    cases hfirst : F.replayItem item h with rw [hfirst] at hview
    | ok u h₁ =>
      obtain ⟨haccepts, hview⟩ := hview
      rw [bind_of_ok hfirst] at hrun
      rw [List.takeWhile_cons_of_pos haccepts, List.foldl_cons, ← hview]
      exact ih hrun
    | error e h₁ =>
      rw [bind_of_error hfirst] at hrun
      rcases hrun with hrun | ⟨message, hrun⟩
      · cases hrun
      · cases hrun
        obtain ⟨haccepts, hview⟩ := hview
        rw [List.takeWhile_cons_of_neg (by rw [haccepts]; decide), List.foldl_nil, hview]

end Format

end Orchid
