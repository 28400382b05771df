import Orchid.Lib.Reading
import Orchid.Crypto.Platform

/-!
# Orchid — reading the fields of a directory document

`DocumentFieldParserImpl` does two things with the lines of a document. It reads them:
keyword lines are split into arguments, and an object (`-----BEGIN … -----END`) may follow.
And it records them: every line it takes is added to the raw document and, while a signed
entity is open, to two running digests. The model keeps the two halves apart. `Cursor` is
the reading half, `Recorder` the recording half, and `DocumentFieldParser.read` runs a
reading program and records the lines it took.

* `lines` cuts the input buffer as `nextLineFromInputBuffer` does; **`lines_append`**: what
  ends with a line break is cut the same whatever follows.
* The readers of single arguments are programs on the argument list alone (`ArgM`).
* **`parseObject_front`**: an object is read from the lines it occupies, whatever follows.
-/

namespace Orchid

open Prog

/-! ## The lines of a buffer -/

/-- `nextLineFromInputBuffer` on a buffer that is not empty: the line and what is left. -/
def nextLineFromInputBuffer : List UInt8 → JString × List UInt8
  | [] => ([], [])
  | b :: inputBuffer =>
    if charOfByte b = '\n' then ([], inputBuffer)
    else
      let (line, rest) := nextLineFromInputBuffer inputBuffer
      if charOfByte b ≠ '\r' then (charOfByte b :: line, rest) else (line, rest)

/-- All lines of a buffer, in the order `readLine` delivers them. -/
def lines : List UInt8 → List JString
  | [] => []
  | b :: inputBuffer =>
    if charOfByte b = '\n' then [] :: lines inputBuffer
    else
      match lines inputBuffer with
      | [] => [if charOfByte b ≠ '\r' then [charOfByte b] else []]
      | line :: rest => (if charOfByte b ≠ '\r' then charOfByte b :: line else line) :: rest

variable (b : UInt8) (inputBuffer : List UInt8)

/-- One call of `nextLineFromInputBuffer` takes the first of the `lines`. -/
theorem lines_cons :
    lines (b :: inputBuffer) =
      (nextLineFromInputBuffer (b :: inputBuffer)).1 ::
        lines (nextLineFromInputBuffer (b :: inputBuffer)).2 := by
  induction inputBuffer generalizing b with
  | nil =>
    simp only [lines, nextLineFromInputBuffer]
    split
    · rfl
    · split <;> rfl
  | cons c cs ih =>
    rw [lines, nextLineFromInputBuffer]
    by_cases hb : charOfByte b = '\n'
    · rw [if_pos hb, if_pos hb]
    · rw [if_neg hb, if_neg hb, ih c]
      by_cases hr : charOfByte b = '\r'
      · simp only [hr, ne_eq, not_true_eq_false, if_false]
      · simp only [hr, ne_eq, not_false_eq_true, if_true]

/-- A buffer stops where a line stops. -/
def EndsLine (inputBuffer : List UInt8) : Prop :=
  inputBuffer = [] ∨ inputBuffer.getLast? = some 10

instance (inputBuffer : List UInt8) : Decidable (EndsLine inputBuffer) :=
  inferInstanceAs (Decidable (_ ∨ _))

theorem lines_ne_nil : lines (b :: inputBuffer) ≠ [] := by
  rw [lines_cons]
  exact List.cons_ne_nil _ _

theorem lines_append {q : List UInt8} (hq : EndsLine q) (r : List UInt8) :
    lines (q ++ r) = lines q ++ lines r := by
  induction q with
  | nil => rfl
  | cons b bs ih =>
    cases bs with
    | nil =>
      have hb : charOfByte b = '\n' := by
        rcases hq with h | h
        · cases h
        · cases h
          rfl
      simp only [List.cons_append, List.nil_append, lines, if_pos hb]
    | cons c cs =>
      have htail : EndsLine (c :: cs) := by
        rcases hq with h | h
        · cases h
        · exact Or.inr h
      obtain ⟨line, rest, hline⟩ := List.exists_cons_of_ne_nil (lines_ne_nil c cs)
      have happ := ih htail
      rw [hline] at happ
      rw [List.cons_append, lines, lines, happ, hline]
      split <;> rfl

/-! ### Lines and text

The text made of some lines is cut into those lines again, if none of them holds a line
break or a character no byte becomes. -/

/-- The text of some lines, as the raw document keeps it. -/
def unlines (ls : List JString) : JString := ls.flatMap (· ++ lit "\n")

@[simp] theorem unlines_nil : unlines [] = [] := rfl

@[simp] theorem unlines_append (ls ls' : List JString) :
    unlines (ls ++ ls') = unlines ls ++ unlines ls' := by
  unfold unlines
  rw [List.flatMap_append]

theorem unlines_cons (l : JString) (ls : List JString) :
    unlines (l :: ls) = l ++ lit "\n" ++ unlines ls := rfl

def CleanLine (line : JString) : Prop :=
  ∀ c ∈ line, c.toNat < 256 ∧ c ≠ '\n' ∧ c ≠ '\r'

theorem charOfByte_toNat : (charOfByte b).toNat = b.toNat := by
  unfold charOfByte
  have hb : b.toNat < 256 := b.toNat_lt
  have hvalid : b.toNat.isValidChar := Or.inl (by omega)
  rw [Char.ofNat, dif_pos hvalid]
  rfl

theorem charOfByte_latin1 {c : Char} (h : c.toNat < 256) :
    charOfByte (UInt8.ofNat c.toNat) = c := by
  unfold charOfByte
  have hbyte : (UInt8.ofNat c.toNat).toNat = c.toNat := by
    rw [UInt8.toNat_ofNat']
    exact Nat.mod_eq_of_lt h
  rw [hbyte, Char.ofNat_toNat]

theorem lines_clean : ∀ line ∈ lines inputBuffer, CleanLine line := by
  induction inputBuffer with
  | nil => intro line h; cases h
  | cons b bs ih =>
    have hchar : charOfByte b ≠ '\n' → charOfByte b ≠ '\r' →
        (charOfByte b).toNat < 256 ∧ charOfByte b ≠ '\n' ∧ charOfByte b ≠ '\r' := by
      intro hn hr
      refine ⟨?_, hn, hr⟩
      rw [charOfByte_toNat]
      exact b.toNat_lt
    intro line h
    unfold lines at h
    by_cases hn : charOfByte b = '\n'
    · rw [if_pos hn] at h
      rcases List.mem_cons.mp h with rfl | h
      · intro c hc; cases hc
      · exact ih line h
    · rw [if_neg hn] at h
      cases hls : lines bs with
      | nil =>
        rw [hls] at h
        by_cases hr : charOfByte b = '\r'
        · simp only [hr, ne_eq, not_true_eq_false, if_false, List.mem_singleton] at h
          subst h
          intro c hc; cases hc
        · simp only [hr, ne_eq, not_false_eq_true, if_true, List.mem_singleton] at h
          subst h
          intro c hc
          rw [List.mem_singleton.mp hc]
          exact hchar hn hr
      | cons l rest =>
        rw [hls] at h ih
        rcases List.mem_cons.mp h with rfl | h
        · have hl := ih l (List.mem_cons_self ..)
          by_cases hr : charOfByte b = '\r'
          · simpa only [hr, ne_eq, not_true_eq_false, if_false] using hl
          · simp only [hr, ne_eq, not_false_eq_true, if_true]
            intro c hc
            rcases List.mem_cons.mp hc with rfl | hc
            · exact hchar hn hr
            · exact hl c hc
        · exact ih line (List.mem_cons_of_mem _ h)

theorem lines_latin1_cons {line : JString} (h : CleanLine line) (rest : List UInt8) :
    lines (latin1 (line ++ lit "\n") ++ rest) = line :: lines rest := by
  induction line with
  | nil => rfl
  | cons c cs ih =>
    obtain ⟨hlt, hn, hr⟩ := h c (List.mem_cons_self ..)
    have htail := ih fun d hd => h d (List.mem_cons_of_mem _ hd)
    have hbyte : latin1 ((c :: cs) ++ lit "\n") ++ rest =
        UInt8.ofNat c.toNat :: (latin1 (cs ++ lit "\n") ++ rest) := by
      simp only [latin1, List.cons_append, List.map_cons, if_pos hlt]
    rw [hbyte, lines, charOfByte_latin1 hlt, if_neg hn, htail]
    simp only [ne_eq, hr, not_false_eq_true, if_true]

/-- Cutting the text of clean lines gives the lines back. -/
theorem lines_unlines {ls : List JString} (h : ∀ line ∈ ls, CleanLine line) :
    lines (latin1 (unlines ls)) = ls := by
  induction ls with
  | nil => rfl
  | cons l ls ih =>
    have happ : latin1 (unlines (l :: ls)) = latin1 (l ++ lit "\n") ++ latin1 (unlines ls) := by
      simp only [latin1, unlines_cons, List.map_append]
    rw [happ, lines_latin1_cons (h l (List.mem_cons_self ..)),
      ih fun line hl => h line (List.mem_cons_of_mem _ hl)]

/-! ## Reading: the cursor -/

/-- The reading half of the field parser: the lines not yet read, and the keyword and
remaining arguments of the current line. -/
structure Cursor where
  inputLines : List JString
  currentKeyword : JString := []
  currentItems : List JString := []
  deriving DecidableEq

/-- Programs that read the document. -/
abbrev ReadM := Prog JavaException Cursor

/-- Programs that read the arguments of the current line. -/
abbrev ArgM := StateT (List JString) (Except JavaException)

/-- The unread lines are the queue of the cursor. -/
def unread : QueueView Cursor JString where
  get c := c.inputLines
  set ls c := { c with inputLines := ls }
  get_set _ _ := rfl
  set_set _ _ _ := rfl
  set_get _ := rfl

/-- Run a reader of arguments on the current line. -/
def args {α : Type} (x : ArgM α) : ReadM α := fun c =>
  match x c.currentItems with
  | .ok (a, items) => .ok a { c with currentItems := items }
  | .error e => .error e c

theorem args_front {α : Type} (x : ArgM α) : Front unread (args x) := by
  apply Silent.front
  intro b c
  show args x { c with inputLines := b } = mapState (unread.set b) (args x c)
  unfold args
  cases h : x c.currentItems with
  | ok | error => rfl

/-- The keyword of a line and its arguments. The delimiter is always a space, the one call
of `setDelimiter` sets it to that. A blank first item makes the line no keyword line. -/
def splitLine (recognizeOpt : Bool) (line : JString) : Option (JString × List JString) :=
  match split ' ' line with
  | [] => none
  | [] :: _ => none
  | keyword :: items =>
    match items with
    | item :: items' =>
      if recognizeOpt ∧ keyword = lit "opt" then some (item, items') else some (keyword, items)
    | [] => some (keyword, items)

example : splitLine false (lit "fingerprint AB CD") = some (lit "fingerprint", [lit "AB", lit "CD"])
    ∧ splitLine true (lit "opt hibernating 1") = some (lit "hibernating", [lit "1"])
    ∧ splitLine false (lit " x") = none := by decide

def processLine (recognizeOpt : Bool) (line : JString) : ReadM Bool :=
  match splitLine recognizeOpt line with
  | none => return false
  | some (keyword, items) => do
    modify fun c => { c with currentKeyword := keyword, currentItems := items }
    return true

/-- `readLine`, without the recording; `none` is the end of the document. -/
def readLine : ReadM (Option JString) := fun c =>
  match c.inputLines with
  | [] => .ok none c
  | line :: rest => .ok (some line) { c with inputLines := rest }

/-! ## Arguments -/

namespace ArgM

def getItem : ArgM JString := do
  match ← get with
  | [] => throw (.torParsing (lit "Overrun while reading arguments"))
  | item :: items =>
    set items
    return item

def argumentsRemaining : ArgM Nat := return (← get).length

/-- `while (argumentsRemaining() > 0) … getItem()`. -/
def remainingItems : ArgM (List JString) := do
  let items ← get
  set ([] : List JString)
  return items

def parseNickname : ArgM JString := getItem

def parseString : ArgM JString := getItem

/-- All remaining arguments, joined by spaces; no space is put before the first non-empty
part. -/
def parseConcatenatedString : ArgM JString := do
  return (← remainingItems).foldl (fun result item =>
    (if result.length > 0 then result ++ lit " " else result) ++ item) []

def parseIntegerOf (item : JString) : ArgM Int :=
  match parseInt item with
  | some i => return i
  | none => throw (.torParsing (lit "Failed to parse expected integer value: " ++ item))

def parseInteger : ArgM Int := do parseIntegerOf (← getItem)

def parseBoolean : ArgM Bool := do
  let i ← parseInteger
  if i = 1 then return true
  else if i = 0 then return false
  else throw (.torParsing (lit "Illegal boolean value: " ++ showInt i))

def parseIntegerList : ArgM (List Int) := do
  let item ← getItem
  (split ',' item).mapM parseIntegerOf

def parsePortOf (item : JString) : ArgM Int := do
  let port ← parseIntegerOf item
  if port < 0 ∨ port > 65535 then
    throw (.torParsing (lit "Illegal port value: " ++ showInt port))
  return port

def parsePort : ArgM Int := do parsePortOf (← getItem)

/-- Milliseconds, as the platform's date format reads them. -/
def parseTimestamp (P : Platform) : ArgM Int := do
  let date ← getItem
  let time ← getItem
  let timeAndDate := date ++ lit " " ++ time
  match P.dateFormat timeAndDate with
  | some t => return t
  | none => throw (.torParsing (lit "Could not parse timestamp value: " ++ timeAndDate))

def parseHexDigest : ArgM HexDigest := do HexDigest.createFromString (← parseString)

def parseBase32Digest : ArgM HexDigest := do HexDigest.createFromBase32String (← parseString)

def parseFingerprint : ArgM HexDigest := do HexDigest.createFromString (← parseConcatenatedString)

def parseBase64Data : ArgM (List UInt8) := do
  let string ← getItem
  let padded := match string.length % 4 with
    | 2 => string ++ lit "=="
    | 3 => string ++ lit "="
    | _ => string
  Base64.decodeData padded

def parseAddress : ArgM IPv4Address := do IPv4Address.createFromString (← getItem)

/-- `Character.isLetterOrDigit` on the characters a byte can become. -/
def isLetterOrDigit (c : Char) : Bool :=
  c.isAlphanum || c.toNat == 0xAA || c.toNat == 0xB5 || c.toNat == 0xBA ||
    (0xC0 ≤ c.toNat && c.toNat ≤ 0xFF && c.toNat != 0xD7 && c.toNat != 0xF7)

def validateParameterName (name : JString) : ArgM Unit := do
  if name.isEmpty then throw (.torParsing (lit "Parameter name cannot be empty"))
  if !name.all fun c => isLetterOrDigit c || c == '_' then
    throw (.torParsing (lit "Parameter name can only contain letters.  Rejecting: " ++ name))

/-- `parseParameter`: the name and value of a `name=value` argument. -/
def parseParameter : ArgM (JString × Int) := do
  let item ← getItem
  if !item.contains '=' then
    throw (.torParsing (lit "Parameter not in expected form name=value"))
  let name := item.takeWhile (· ≠ '=')
  validateParameterName name
  let value ← parseIntegerOf ((item.dropWhile (· ≠ '=')).drop 1)
  return (name, value)

/-- `for (int i = 0; i < remaining; i++) … parseParameter()`. -/
def parseParameters : ArgM (List (JString × Int)) := do
  let remaining ← argumentsRemaining
  (List.replicate remaining ()).mapM fun _ => parseParameter

end ArgM

/-! ## Objects -/

structure DocumentObject where
  keyword : JString
  headerLine : JString
  bodyContent : JString := []
  footerLine : JString := []
  deriving DecidableEq

namespace DocumentObject

def addContent (object : DocumentObject) (content : JString) : DocumentObject :=
  { object with bodyContent := object.bodyContent ++ content ++ lit "\n" }

def addFooterLine (object : DocumentObject) (footer : JString) : DocumentObject :=
  { object with footerLine := footer }

def getContent (object : DocumentObject) (includeHeaders : Bool) : JString :=
  if includeHeaders then
    object.headerLine ++ lit "\n" ++ object.bodyContent ++ object.footerLine ++ lit "\n"
  else object.bodyContent

end DocumentObject

def BEGIN_TAG : JString := lit "-----BEGIN"
def END_TAG : JString := lit "-----END"
def TAG_DELIMITER : JString := lit "-----"

/-- `substring` raises on a header line too short to hold a keyword. -/
def parseObjectHeader (headerLine : JString) : Except JavaException JString :=
  if startsWith headerLine BEGIN_TAG && endsWith headerLine TAG_DELIMITER then
    substring headerLine (BEGIN_TAG.length + 1) (headerLine.length - TAG_DELIMITER.length)
  else .error (.torParsing (lit "Did not find expected object start tag."))

/-- The lines up to the end tag, one `readLine` each. -/
def parseObjectBodyFrom (object : DocumentObject) : List JString → ReadM DocumentObject
  | [] => do
    modify fun c => { c with inputLines := [] }
    throw (.torParsing (lit "EOF reached before end of '" ++ object.keyword ++ lit "' object."))
  | line :: rest =>
    if line = END_TAG ++ lit " " ++ object.keyword ++ TAG_DELIMITER then do
      modify fun c => { c with inputLines := rest }
      return object.addFooterLine line
    else
      parseObjectBodyFrom (object.addContent line) rest

def parseObjectBody (object : DocumentObject) : ReadM DocumentObject := do
  parseObjectBodyFrom object (← get).inputLines

/-- `parseObject`. At the end of the document `readLine` is null and the header test raises. -/
def parseObject : ReadM DocumentObject := do
  match ← readLine with
  | none => throw .nullPointer
  | some line =>
    let keyword ← fromExcept (parseObjectHeader line)
    parseObjectBody { keyword := keyword, headerLine := line }

def parseTypedObject (type : JString) : ReadM DocumentObject := do
  let object ← parseObject
  if type ≠ object.keyword then
    throw (.torParsing (lit "Unexpected object type.  Expecting: " ++ type ++
      lit ", but got: " ++ object.keyword))
  return object

def parsePublicKey : ReadM TorPublicKey := do
  let object ← parseObject
  return ⟨object.getContent true⟩

def parseSignature : ReadM TorSignature := do
  let object ← parseObject
  fromExcept (TorSignature.createFromPEMBuffer (object.getContent true))

/-- What the body loop takes is decided by the lines it takes. -/
theorem parseObjectBodyFrom_reads {object object' : DocumentObject} {ls : List JString}
    {c c' : Cursor} (h : parseObjectBodyFrom object ls c = .ok object' c') :
    ∃ q, ls = q ++ c'.inputLines ∧ c' = { c with inputLines := c'.inputLines } ∧
      ∀ r d, parseObjectBodyFrom object (q ++ r) d = .ok object' { d with inputLines := r } := by
  induction ls generalizing object with
  | nil => cases h
  | cons line rest ih =>
    unfold parseObjectBodyFrom at h
    split at h
    · rename_i htag
      cases h
      refine ⟨[line], rfl, rfl, fun r d => ?_⟩
      rw [List.singleton_append, parseObjectBodyFrom, if_pos htag]
      rfl
    · rename_i htag
      obtain ⟨q, hq, hc, hreads⟩ := ih h
      refine ⟨line :: q, by rw [hq, List.cons_append], hc, fun r d => ?_⟩
      rw [List.cons_append, parseObjectBodyFrom, if_neg htag]
      exact hreads r d

theorem parseObjectBody_front (object : DocumentObject) :
    Front unread (parseObjectBody object) := by
  intro c object' c' h
  obtain ⟨q, hq, hc, hreads⟩ := parseObjectBodyFrom_reads h
  refine ⟨q, hq, fun r => ?_⟩
  rw [hc]
  exact hreads r _

theorem parseObject_front : Front unread parseObject := by
  intro c object c' h
  cases hl : c.inputLines with
  | nil =>
    simp only [parseObject, readLine, bind_run, hl, throw_run] at h
    cases h
  | cons line rest =>
    -- behind the header line the rest of the program is one that reads from the front
    have hfront : Front unread (do
        let keyword ← fromExcept (parseObjectHeader line)
        parseObjectBody { keyword := keyword, headerLine := line }) :=
      (Front.fromExcept _).bind fun _ => parseObjectBody_front _
    have hrun : (do
        let keyword ← fromExcept (parseObjectHeader line)
        parseObjectBody { keyword := keyword, headerLine := line })
          { c with inputLines := rest } = .ok object c' := by
      simpa only [parseObject, readLine, bind_run, hl] using h
    obtain ⟨q, hq, hreads⟩ := hfront _ _ _ hrun
    refine ⟨line :: q, ?_, fun r => ?_⟩
    · show c.inputLines = _
      rw [hl, List.cons_append]
      exact congrArg (line :: ·) hq
    · exact hreads r

theorem parsePublicKey_front : Front unread parsePublicKey :=
  parseObject_front.bind fun _ => Front.pure _

theorem parseSignature_front : Front unread parseSignature :=
  parseObject_front.bind fun _ => Front.fromExcept _

end Orchid
