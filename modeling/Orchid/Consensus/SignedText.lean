import Orchid.Consensus.Parser

/-!
# Orchid — what of a consensus is covered by its signatures

The signatures of a consensus cover its text up to the keyword of the first
`directory-signature` line of the footer. Behind that line the parser goes on: further
signatures are filed, as they should be, and `bandwidth-weights` lines are still applied.

* **`consensus_agree_iff`**: two inputs that agree on the signed text report documents that
  agree on everything but the weights, and on these exactly when the unsigned tails leave
  every weight with one value.
* **`unsigned_weights_taken`**: two tails for which the weights differ.
-/

namespace Orchid

open Prog ConsensusParser Platform ConsensusDocument DocumentKeyword

/-! ## What the client takes from a document -/

/-- The contents of a document apart from its signatures and its weights. -/
structure SignedView where
  routerStatusEntries : List RouterStatus
  parameters : JString → Option Int
  validAfter : Option Int
  freshUntil : Option Int
  validUntil : Option Int
  authorities : Option HexDigest → Option VoteAuthorityEntry
  signingHash : Option HexDigest
  signingHash256 : Option HexDigest

def ConsensusDocument.signedView (doc : ConsensusDocument) : SignedView where
  routerStatusEntries := doc.routerStatusEntries
  parameters name := doc.parameters.lookup name
  validAfter := doc.validAfter
  freshUntil := doc.freshUntil
  validUntil := doc.validUntil
  authorities key := (doc.voteAuthorityEntries.lookup key).map VoteAuthorityEntry.unsigned
  signingHash := doc.signingHash
  signingHash256 := doc.signingHash256

/-- Two documents with the same contents, signatures aside. -/
structure SameContents (d₁ d₂ : ConsensusDocument) : Prop where
  routers : d₁.routerStatusEntries = d₂.routerStatusEntries
  parameters : ∀ name, d₁.parameters.lookup name = d₂.parameters.lookup name
  weights : ∀ name, d₁.bandwidthWeights.lookup name = d₂.bandwidthWeights.lookup name
  validAfter : d₁.validAfter = d₂.validAfter
  freshUntil : d₁.freshUntil = d₂.freshUntil
  validUntil : d₁.validUntil = d₂.validUntil
  authorities : ∀ key, (d₁.voteAuthorityEntries.lookup key).map VoteAuthorityEntry.unsigned =
    (d₂.voteAuthorityEntries.lookup key).map VoteAuthorityEntry.unsigned
  signingHash : d₁.signingHash = d₂.signingHash
  signingHash256 : d₁.signingHash256 = d₂.signingHash256

/-- With the view fixed, the weights decide. -/
theorem sameContents_iff {d₁ d₂ : ConsensusDocument} (h : d₁.signedView = d₂.signedView) :
    SameContents d₁ d₂ ↔
      ∀ name, d₁.bandwidthWeights.lookup name = d₂.bandwidthWeights.lookup name := by
  refine ⟨fun hsame => hsame.weights, fun hweights => ?_⟩
  unfold signedView at h
  simp only [SignedView.mk.injEq] at h
  obtain ⟨hr, hp, ha, hf, hu, hauth, hh, hh'⟩ := h
  exact ⟨hr, congrFun hp, hweights, ha, hf, hu, congrFun hauth, hh, hh'⟩

/-! ## Signatures and weights -/

theorem addSignature_contents (doc : ConsensusDocument) (signature : DirectorySignature) :
    (doc.addSignature signature).signedView = doc.signedView ∧
      (doc.addSignature signature).bandwidthWeights = doc.bandwidthWeights := by
  have hauth := funext (doc.addSignature_unsigned signature)
  unfold signedView
  rw [hauth]
  unfold addSignature
  cases doc.voteAuthorityEntries.lookup (some signature.identityDigest) with
  | none => exact ⟨rfl, rfl⟩
  | some authority =>
    dsimp only
    split <;> exact ⟨rfl, rfl⟩

theorem addBandwidthWeights_signedView (weights : List (JString × Int)) (doc : ConsensusDocument) :
    (addBandwidthWeights weights doc).signedView = doc.signedView := by
  unfold addBandwidthWeights
  induction weights generalizing doc with
  | nil => rfl
  | cons w ws ih => exact ih _

/-- The value a list of assignments gives a name last. -/
def lastWeight (weights : List (JString × Int)) (name : JString) : Option Int :=
  (weights.reverse.find? fun w => w.1 = name).map (·.2)

theorem lastWeight_append (ws ws' : List (JString × Int)) (name : JString) :
    lastWeight (ws ++ ws') name = (lastWeight ws' name).or (lastWeight ws name) := by
  unfold lastWeight
  rw [List.reverse_append, List.find?_append]
  cases List.find? (fun w : JString × Int => decide (w.1 = name)) ws'.reverse <;> rfl

theorem addBandwidthWeights_lookup (weights : List (JString × Int)) (doc : ConsensusDocument)
    (name : JString) :
    (addBandwidthWeights weights doc).bandwidthWeights.lookup name =
      (lastWeight weights name).or (doc.bandwidthWeights.lookup name) := by
  induction weights generalizing doc with
  | nil => rfl
  | cons w ws ih =>
    have hcons : lastWeight (w :: ws) name = (lastWeight ws name).or (lastWeight [w] name) :=
      lastWeight_append [w] ws name
    show (addBandwidthWeights ws (doc.addBandwidthWeight w.1 w.2)).bandwidthWeights.lookup name = _
    rw [ih, hcons, Option.or_assoc]
    congr 1
    unfold addBandwidthWeight
    rcases eq_or_ne w.1 name with rfl | hname
    · rw [AList.lookup_insert]
      simp [lastWeight]
    · rw [AList.lookup_insert_ne (fun h => hname h.symm)]
      simp [lastWeight, hname]

/-! ## The footer as a format

Once the footer is reached, what is read depends on the keyword alone. -/

inductive FooterEntry where
  | weights (weights : List (JString × Int))
  | signature (signature : DirectorySignature)
  | other
  deriving DecidableEq

variable (P : Platform)

/-- `doFirstSignature`, at the first signature line only. -/
def firstSignature : HandlerM ConsensusParser Unit := do
  if !(← get).document.seenFirstSignature then doFirstSignature P

def readFooterEntry : DocumentKeyword → ReadM FooterEntry
  | .BANDWIDTH_WEIGHTS => FooterEntry.weights <$> args ArgM.parseParameters
  | .DIRECTORY_SIGNATURE => FooterEntry.signature <$> readSignature
  | _ => return .other

theorem readFooterEntry_front (keyword : DocumentKeyword) :
    Front unread (readFooterEntry keyword) := by
  cases keyword with
  | BANDWIDTH_WEIGHTS => exact (args_front _).map _
  | DIRECTORY_SIGNATURE => exact readSignature_front.map _
  | _ => exact Front.pure _

def footerDocument (f : ConsensusDocument → ConsensusDocument) : HandlerM ConsensusParser Unit :=
  onDocument fun p => { p with document := f p.document }

def footerFormat : Format ConsensusParser FooterEntry where
  recognizeOpt := false
  before keyword :=
    if findKeyword keyword .FOOTER = .DIRECTORY_SIGNATURE then firstSignature P
    else return ()
  readEntry keyword := readFooterEntry (findKeyword keyword .FOOTER)
  readEntry_front _ := readFooterEntry_front _
  act
    | .weights weights => footerDocument (addBandwidthWeights weights)
    | .signature signature => footerDocument (·.addSignature signature)
    | .other => return ()

/-- A footer line in the words of the section parser. -/
def footerLine : ConsensusM Unit := do
  let keyword := findKeyword (← getCurrentKeyword) .FOOTER
  if keyword ≠ .UNKNOWN_KEYWORD then parseFooterLine P keyword

theorem processSignature_eq :
    processSignature P = (do
      handle (firstSignature P)
      let signature ← read readSignature
      handle (footerDocument (·.addSignature signature))) := by
  funext s
  have hseen : handle (firstSignature P) s =
      (if !s.handler.document.seenFirstSignature then handle (doFirstSignature P)
        else pure () : ConsensusM Unit) s := by
    cases hs : s.handler.document.seenFirstSignature with
    | true | false => simp [firstSignature, handle, bind_run, hs]
  unfold processSignature
  rw [bind_run, bind_run, hseen]
  show (if !s.handler.document.seenFirstSignature then _ else _ : ConsensusM Unit) s = _
  cases hs : s.handler.document.seenFirstSignature with
  | true => rfl
  | false =>
    simp only [Bool.not_false, if_true]
    rw [bind_run]
    rfl

theorem footerLine_eq_format : footerLine P = (footerFormat P).parseKeywordLine := by
  funext s
  unfold footerLine Format.parseKeywordLine
  rw [bind_run, bind_run]
  simp only [getCurrentKeyword, footerFormat]
  cases hk : findKeyword s.cursor.currentKeyword .FOOTER with
  | BANDWIDTH_WEIGHTS =>
    simp only [ne_eq, reduceCtorEq, not_false_eq_true, if_true, if_false, parseFooterLine,
      processBandwidthWeights, readFooterEntry, handle_pure_bind, read_map_bind]
    rfl
  | DIRECTORY_SIGNATURE =>
    simp only [ne_eq, reduceCtorEq, not_false_eq_true, if_true, parseFooterLine,
      processSignature_eq, readFooterEntry, read_map_bind]
  | _ =>
    simp only [ne_eq, reduceCtorEq, not_false_eq_true, not_true_eq_false, if_true, if_false,
      parseFooterLine, readFooterEntry, handle_pure_bind, read_pure_bind]
    rfl

variable {s : ParserState ConsensusParser} {q : List JString} {line : JString}
  {h h' : HandlerState ConsensusParser} {t : List UInt8}

/-- In the footer a line takes one round and the section stays. -/
theorem processKeywordLine_footer (hs : s.handler.document.currentSection = .FOOTER) :
    processKeywordLine P s = footerLine P s := by
  have hround : processKeywordRound P s = (footerLine P >>= fun _ => pure false) s := by
    unfold processKeywordRound
    rw [bind_run]
    show (if s.handler.document.currentSection = .NO_SECTION then _ else _ : ConsensusM Bool) s = _
    rw [hs, if_neg (by decide)]
    -- no keyword leaves the footer, so the section the line returns is the footer again
    show (((do
      let keyword := findKeyword (← getCurrentKeyword) .FOOTER
      if keyword ≠ .UNKNOWN_KEYWORD then parseFooterLine P keyword
      return DocumentSection.FOOTER) : ConsensusM DocumentSection) >>= _) s = _
    unfold footerLine
    simp only [bind_assoc]
    rw [bind_run, bind_run]
    simp only [getCurrentKeyword]
    split
    · rw [bind_run, bind_run, bind_run]
      cases parseFooterLine P (findKeyword s.cursor.currentKeyword .FOOTER) s with
      | ok | error => rfl
    · rfl
  unfold processKeywordLine
  cases hline : footerLine P s with
  | ok u s' => rw [iterate_succ_false (hround.trans (bind_of_ok hline))]
  | error e s' => rw [iterate_succ_error (hround.trans (bind_of_error hline))]

theorem firstSignature_run (h : HandlerState ConsensusParser) :
    firstSignature P h =
      if h.document.seenFirstSignature then .ok () h else doFirstSignature P h := by
  show (if !h.document.seenFirstSignature then doFirstSignature P else pure () :
    HandlerM ConsensusParser Unit) h = _
  cases h.document.seenFirstSignature with
  | true | false => rfl

def SameSection (h h' : HandlerState ConsensusParser) : Prop :=
  h'.document.currentSection = h.document.currentSection

instance : HandlerOrder SameSection where
  refl _ := rfl
  trans _ _ _ hs hs' := hs'.trans hs
  record _ _ := rfl

theorem firstSignature_section (h : HandlerState ConsensusParser) :
    SameSection h (final (firstSignature P h)) := by
  rw [firstSignature_run]
  split
  · rfl
  · rw [doFirstSignature_run]
    split <;> rfl

/-- A footer line leaves the parser in the footer. -/
theorem footerFormat_section : Orderly SameSection (footerFormat P).parseKeywordLine := by
  refine Orderly.getCurrentKeyword.bind fun keyword => ?_
  refine (Orderly.handle fun h => ?_).bind fun _ => ?_
  · unfold footerFormat
    dsimp only
    split
    · exact firstSignature_section P h
    · rfl
  · refine (Orderly.read (readFooterEntry_front _)).bind fun entry => ?_
    refine Orderly.handle fun h => ?_
    cases entry with
    | weights | signature | other => rfl

/-- The run behind a part of the input that leads into the footer. -/
theorem footer_replay (hq : consume P q = .ok () s)
    (hfooter : s.handler.document.currentSection = .FOOTER) (done : HandlerM ConsensusParser Unit)
    (r : List JString) :
    forget (processDocument false (processKeywordLine P) (handle done) (startParser (q ++ r))) =
      ((footerFormat P).replay ((footerFormat P).items r) >>= fun _ => done) s.handler := by
  let s₁ : ParserState ConsensusParser := { s with cursor := { s.cursor with inputLines := r } }
  have hformat : processDocument false (processKeywordLine P) (handle done) s₁ =
      processDocument false (footerFormat P).parseKeywordLine (handle done) s₁ := by
    refine processDocument_congr (fun p => p.currentSection = .FOOTER) ?_ ?_ hfooter
    · intro t ht
      rw [processKeywordLine_footer P ht, footerLine_eq_format]
    · intro t u t' ht hrun
      have hkeeps := (footerFormat_section P).keeps t
      rw [hrun] at hkeeps
      exact hkeeps.trans ht
  rw [processDocument_append P hq, hformat]
  exact (footerFormat P).processDocument_eq_replay done s₁

/-! ## The first signature line -/

/-- The first part of a split string begins the string. -/
theorem split_head_begins {c : Char} {s head : JString} {rest : List JString}
    (h : split c s = head :: rest) : head <+: s := by
  unfold split at h
  split at h
  · -- trailing empty parts are dropped, so the parts begin all the parts
    have hparts : head :: rest <+: s.splitOn c := by
      rw [← h, ← List.reverse_suffix, List.reverse_reverse]
      exact List.dropWhile_suffix _
    obtain ⟨more, hmore⟩ := hparts
    have hjoin : [c].intercalate (head :: (rest ++ more)) = s := by
      rw [← List.cons_append, hmore, List.intercalate_splitOn]
    rw [← hjoin]
    cases rest ++ more with
    | nil => simp
    | cons next others =>
      rw [List.intercalate_cons_cons, List.append_assoc]
      exact List.prefix_append _ _
  · obtain ⟨rfl, -⟩ := List.cons.inj h
    exact List.prefix_rfl

/-- A line with the keyword of a signature is one the digests ignore. -/
theorem startsWith_of_splitLine {keyword : JString} {items : List JString}
    (h : splitLine false line = some (keyword, items)) : startsWith line keyword = true := by
  have hhead : ∃ rest, split ' ' line = keyword :: rest := by
    unfold splitLine at h
    split at h
    · cases h
    · cases h
    · rename_i head tail hne hsplit
      refine ⟨tail, ?_⟩
      rw [hsplit]
      split at h
      · simp only [Bool.false_eq_true, false_and, if_false, Option.some.injEq, Prod.mk.injEq] at h
        rw [h.1]
      · simp only [Option.some.injEq, Prod.mk.injEq] at h
        rw [h.1]
  obtain ⟨rest, hsplit⟩ := hhead
  exact List.isPrefixOf_iff_prefix.mpr (split_head_begins hsplit)

/-- The view of a document whose signed text ends here. -/
def closedView (h : HandlerState ConsensusParser) : SignedView :=
  { h.document.document.signedView with
    signingHash := h.recorder.signatureDigest.map fun d => (closeDigest d).getHexDigest P
    signingHash256 := h.recorder.signatureDigest256.map fun d => (closeDigest d).getHexDigest P }

/-- An ignored line does not reach the digests. -/
theorem closedView_record (hignores : h.recorder.ignores line = true) :
    closedView P { h with recorder := h.recorder.record line } = closedView P h := by
  have hrecord : h.recorder.record line = h.recorder.updateRawDocument line := by
    unfold Recorder.record Recorder.updateCurrentSignature
    rw [hignores]
    simp
  rw [hrecord]
  rfl

theorem doFirstSignature_view_closed (hrun : doFirstSignature P h = .ok () h') :
    h'.document.seenFirstSignature = true ∧
      h'.document.document.signedView = closedView P h ∧
      h'.document.document.signingHash.isSome ∧ h'.document.document.signingHash256.isSome ∧
      h'.document.document.voteAuthorityEntries = h.document.document.voteAuthorityEntries ∧
      h'.document.document.bandwidthWeights = h.document.document.bandwidthWeights := by
  rw [doFirstSignature_run] at hrun
  split at hrun
  · rename_i digest digest256 hd hd256
    cases hrun
    refine ⟨rfl, ?_, rfl, rfl, rfl, rfl⟩
    unfold closedView
    rw [hd, hd256]
    rfl
  · cases hrun

/-! ## Behind the first signature line -/

/-- The weights an item sets. -/
def entryWeights : Item FooterEntry → List (JString × Int)
  | .entry _ _ _ (.weights weights) => weights
  | _ => []

/-- The signature an item adds. -/
def entrySignatures : Item FooterEntry → List DirectorySignature
  | .entry _ _ _ (.signature signature) => [signature]
  | _ => []

/-- The signatures on the lines of a footer, in order. -/
def footerSignatures (ls : List JString) : List DirectorySignature :=
  ((footerFormat P).items ls).flatMap entrySignatures

/-- The weights set by the lines of a footer, in order. -/
def footerWeights (ls : List JString) : List (JString × Int) :=
  ((footerFormat P).items ls).flatMap entryWeights

/-- What lines behind the first signature line do: signatures are filed, and of the rest only
the weights can change. -/
structure TailStep (signatures : List DirectorySignature) (weights : List (JString × Int))
    (h h' : HandlerState ConsensusParser) : Prop where
  seen : h'.document.seenFirstSignature = true
  entries : h'.document.document.voteAuthorityEntries =
    signatures.foldl ConsensusDocument.fileSignature h.document.document.voteAuthorityEntries
  view : h'.document.document.signedView = h.document.document.signedView
  weights_lookup : ∀ name, h'.document.document.bandwidthWeights.lookup name =
    (lastWeight weights name).or (h.document.document.bandwidthWeights.lookup name)

/-- Acting on an entry; the recorder does not matter. -/
theorem act_tailStep {entry : FooterEntry} {keyword : JString} {body : List JString}
    (hseen : h.document.seenFirstSignature = true)
    (hrun : (footerFormat P).act entry h = .ok () h') :
    TailStep (entrySignatures (.entry line keyword body entry))
      (entryWeights (.entry line keyword body entry)) h h' := by
  cases entry with
  | weights ws =>
    cases hrun
    exact ⟨hseen, addBandwidthWeights_authorities ws _, addBandwidthWeights_signedView ws _,
      addBandwidthWeights_lookup ws _⟩
  | signature signature =>
    cases hrun
    obtain ⟨hview, hweights⟩ := addSignature_contents h.document.document signature
    exact ⟨hseen, addSignature_entries _ signature, hview, fun name => by
      exact congrArg (AList.lookup name) hweights⟩
  | other =>
    cases hrun
    exact ⟨hseen, rfl, rfl, fun _ => rfl⟩

/-- The hashes are fixed at the first signature line only. -/
theorem before_seen (keyword : JString) (hseen : h.document.seenFirstSignature = true) :
    (footerFormat P).before keyword h = .ok () h := by
  unfold footerFormat
  dsimp only
  split
  · rw [firstSignature_run, if_pos hseen]
  · rfl

/-- One item behind the first signature line. -/
theorem replayItem_tailStep {item : Item FooterEntry} (hseen : h.document.seenFirstSignature = true)
    (hrun : (footerFormat P).replayItem item h = .ok () h') :
    TailStep (entrySignatures item) (entryWeights item) h h' := by
  let h₁ : JString → HandlerState ConsensusParser := fun line =>
    { h with recorder := h.recorder.record line }
  have hbefore (line keyword : JString) :
      (footerFormat P).before keyword (h₁ line) = .ok () (h₁ line) := before_seen P keyword hseen
  cases item with
  | blank line =>
    cases hrun
    exact ⟨hseen, rfl, rfl, fun _ => rfl⟩
  | failed line keyword body e =>
    have herror : (footerFormat P).replayItem (.failed line keyword body e) h =
        .error e { h₁ line with recorder := (h₁ line).recorder.recordLines body } :=
      (bind_of_ok rfl).trans (bind_of_ok (hbefore line keyword))
    cases herror.symm.trans hrun
  | entry line keyword body entry =>
    have hact : (footerFormat P).replayItem (.entry line keyword body entry) h =
        (footerFormat P).act entry
          { h₁ line with recorder := (h₁ line).recorder.recordLines body } :=
      (bind_of_ok rfl).trans (bind_of_ok (hbefore line keyword))
    -- recording changes neither the contents nor the weights
    exact { act_tailStep P (by exact hseen) (hact.symm.trans hrun) with }

/-- All items behind the first signature line. -/
theorem replay_tailStep {items : List (Item FooterEntry)}
    (hseen : h.document.seenFirstSignature = true)
    (hrun : (footerFormat P).replay items h = .ok () h') :
    TailStep (items.flatMap entrySignatures) (items.flatMap entryWeights) h h' := by
  induction items generalizing h with
  | nil =>
    cases hrun
    exact ⟨hseen, rfl, rfl, fun _ => rfl⟩
  | cons item items ih =>
    obtain ⟨u, h₁, hitem, hrest⟩ := bind_eq_ok.mp hrun
    obtain ⟨hs, he, hv, hw⟩ := replayItem_tailStep P hseen hitem
    obtain ⟨hs', he', hv', hw'⟩ := ih hs hrest
    refine ⟨hs', ?_, hv'.trans hv, fun name => ?_⟩
    · rw [he', he, List.flatMap_cons, List.foldl_append]
    · rw [hw', hw, List.flatMap_cons, lastWeight_append, Option.or_assoc]

/-- The keyword of the first line of a text. -/
def firstKeyword (t : List UInt8) : Option JString :=
  ((lines t).head?.bind (splitLine false)).map Prod.fst

/-- What the lines of a consensus from its first signature line on do: the contents stay
those signed, with both hashes, and signatures are filed. The weights are those signed
unless these lines set them again. -/
structure SignedTail (ls : List JString) (h h' : HandlerState ConsensusParser) : Prop where
  view : h'.document.document.signedView = closedView P h
  hashed : h'.document.document.signingHash.isSome ∧ h'.document.document.signingHash256.isSome
  entries : h'.document.document.voteAuthorityEntries =
    (footerSignatures P ls).foldl ConsensusDocument.fileSignature
      h.document.document.voteAuthorityEntries
  weights_lookup : ∀ name, h'.document.document.bandwidthWeights.lookup name =
    (lastWeight (footerWeights P ls) name).or (h.document.document.bandwidthWeights.lookup name)

theorem TailStep.hashed {signatures : List DirectorySignature} {weights : List (JString × Int)}
    (hstep : TailStep signatures weights h h') :
    h'.document.document.signingHash = h.document.document.signingHash ∧
      h'.document.document.signingHash256 = h.document.document.signingHash256 :=
  ⟨congrArg SignedView.signingHash hstep.view, congrArg SignedView.signingHash256 hstep.view⟩

/-- At the first signature line the hashes are fixed before the line is read. -/
theorem before_first (hfirst : h.document.seenFirstSignature = false) :
    (footerFormat P).before (lit "directory-signature") h = doFirstSignature P h := by
  show (if findKeyword (lit "directory-signature") .FOOTER =
    .DIRECTORY_SIGNATURE then firstSignature P else pure () : HandlerM _ Unit) h = _
  rw [if_pos (by decide), firstSignature_run, hfirst, if_neg (by decide)]

theorem replay_signatures
    (htoken : h.recorder.signatureIgnoreToken = some (lit "directory-signature"))
    (hfirst : h.document.seenFirstSignature = false)
    (ht : firstKeyword t = some (lit "directory-signature"))
    (hrun : (footerFormat P).replay ((footerFormat P).items (lines t)) h = .ok () h') :
    SignedTail P (lines t) h h' := by
  unfold firstKeyword at ht
  cases hlines : lines t with
  | nil => rw [hlines] at ht; cases ht
  | cons line rest =>
    rw [hlines] at ht hrun
    obtain ⟨⟨keyword, args⟩, hsplit, hkeyword⟩ := Option.map_eq_some_iff.mp ht
    have hsplit : splitLine false line = some (keyword, args) := hsplit
    obtain rfl : keyword = lit "directory-signature" := hkeyword
    have hignores : h.recorder.ignores line = true := by
      unfold Recorder.ignores
      rw [htoken]
      exact startsWith_of_splitLine hsplit
    -- the line is recorded, the hashes are fixed, the entry is taken, and the rest follows
    obtain ⟨body, entry, rest', h₁, h₂, hitems, hbefore, hact, hrest⟩ :=
      (footerFormat P).replay_items_cons hsplit hrun
    have hfix : doFirstSignature P { h with recorder := h.recorder.record line } = .ok () h₁ := by
      rw [← before_first P (by exact hfirst)]
      exact hbefore
    obtain ⟨hseen, hview, hhash, hhash256, hentries, hweights⟩ :=
      doFirstSignature_view_closed P hfix
    have hstep : TailStep (entrySignatures (.entry line (lit "directory-signature") body entry))
        (entryWeights (.entry line (lit "directory-signature") body entry))
        { h₁ with recorder := h₁.recorder.recordLines body } h₂ := act_tailStep P hseen hact
    have htail := replay_tailStep P hstep.seen hrest
    constructor
    · rw [htail.view, hstep.view, hview]
      exact closedView_record P hignores
    · rw [htail.hashed.1, htail.hashed.2, hstep.hashed.1, hstep.hashed.2]
      exact ⟨hhash, hhash256⟩
    · unfold footerSignatures
      rw [hitems, List.flatMap_cons, List.foldl_append, htail.entries, hstep.entries, hentries]
    · intro name
      unfold footerWeights
      rw [hitems, List.flatMap_cons, lastWeight_append, Option.or_assoc, htail.weights_lookup,
        hstep.weights_lookup, hweights]

/-! ## The documents reported -/

/-- What the lines of `q` leave: the ignore token is set, nothing has been reported, and the
authority entries are filed. -/
theorem consume_fixed (hq : consume P q = .ok () s) :
    s.handler.recorder.signatureIgnoreToken = some (lit "directory-signature") ∧
      s.handler.document.result = { } ∧ s.handler.document.Filed := by
  have hkeeps : LineKept (startParser q).handler (final (consume P q)).handler :=
    processDocument_keeps (processKeywordLine_orderly P) (Orderly.pure ()) _
  rw [hq] at hkeeps
  exact ⟨hkeeps.token, hkeeps.parser.result, hkeeps.parser.filed (startParser_filed q)⟩

/-- Before the end of the document nothing is reported. -/
theorem replay_reports_nothing (hq : consume P q = .ok () s)
    (hfooter : s.handler.document.currentSection = .FOOTER) (r : List JString) :
    (final ((footerFormat P).replay ((footerFormat P).items r) s.handler)).document.result.documents
      = [] := by
  let run := processDocument false (processKeywordLine P) (handle (pure ())) (startParser (q ++ r))
  have hkeeps : LineKept (startParser (q ++ r)).handler (final run).handler :=
    processDocument_keeps (processKeywordLine_orderly P)
      (Orderly.handle fun h => HandlerOrder.refl h) _
  have hreplay : forget run = (footerFormat P).replay ((footerFormat P).items r) s.handler := by
    rw [footer_replay P hq hfooter, bind_pure_unit]
  rw [← hreplay, final_forget, hkeeps.parser.result]
  rfl

/-- A document that is reported was built by the whole tail. -/
theorem replay_of_reported {q : List UInt8} {d : ConsensusDocument} (hline : EndsLine q)
    (hq : consume P (lines q) = .ok () s) (hfooter : s.handler.document.currentSection = .FOOTER)
    (hd : d ∈ reported P (q ++ t)) :
    ∃ h', (footerFormat P).replay ((footerFormat P).items (lines t)) s.handler = .ok () h' ∧
      d = { h'.document.document with rawDocumentData := some h'.recorder.rawDocumentBuffer } := by
  let Built : HandlerState ConsensusParser → Prop := fun h => ∀ d ∈ h.document.result.documents,
    ∃ h', (footerFormat P).replay ((footerFormat P).items (lines t)) s.handler = .ok () h' ∧
      d = { h'.document.document with rawDocumentData := some h'.recorder.rawDocumentBuffer }
  have hempty := replay_reports_nothing P hq hfooter (lines t)
  have hbuilt : Built (final (parse P (startParser (lines (q ++ t))))).handler := by
    refine catchParsingError_final Built ?_ fun message h hb => hb
    rw [lines_append hline, footer_replay P hq hfooter, bind_run]
    cases hrun : (footerFormat P).replay ((footerFormat P).items (lines t)) s.handler with
    | error e h' =>
      intro d hd
      rw [hrun] at hempty
      have hdocs : d ∈ h'.document.result.documents := hd
      rw [show h'.document.result.documents = [] from hempty] at hdocs
      cases hdocs
    | ok u h' =>
      intro d hd
      rw [hrun] at hempty
      have hdocs : d ∈ h'.document.result.documents ++
          [{ h'.document.document with rawDocumentData := some h'.recorder.rawDocumentBuffer }] := hd
      rw [show h'.document.result.documents = [] from hempty, List.nil_append,
        List.mem_singleton] at hdocs
      exact ⟨h', hrun, hdocs⟩
  exact hbuilt d hd

/-- Two inputs that agree up to and including the keyword of the first signature line report
documents with the same contents exactly when the lines behind that keyword leave every
bandwidth weight with the same value. -/
theorem consensus_agree_iff (P : Platform) (q t₁ t₂ : List UInt8)
    (s : ParserState ConsensusParser) (d₁ d₂ : ConsensusDocument) (hline : EndsLine q)
    (hq : consume P (lines q) = .ok () s) (hfooter : s.handler.document.currentSection = .FOOTER)
    (hfirst : s.handler.document.seenFirstSignature = false)
    (ht₁ : firstKeyword t₁ = some (lit "directory-signature"))
    (ht₂ : firstKeyword t₂ = some (lit "directory-signature"))
    (hd₁ : d₁ ∈ reported P (q ++ t₁)) (hd₂ : d₂ ∈ reported P (q ++ t₂)) :
    SameContents d₁ d₂ ↔ ∀ name,
      (lastWeight (footerWeights P (lines t₁)) name).or
          (s.handler.document.document.bandwidthWeights.lookup name) =
        (lastWeight (footerWeights P (lines t₂)) name).or
          (s.handler.document.document.bandwidthWeights.lookup name) := by
  obtain ⟨h₁, hrun₁, rfl⟩ := replay_of_reported P hline hq hfooter hd₁
  obtain ⟨h₂, hrun₂, rfl⟩ := replay_of_reported P hline hq hfooter hd₂
  have htoken := (consume_fixed P hq).1
  have htail₁ := replay_signatures P htoken hfirst ht₁ hrun₁
  have htail₂ := replay_signatures P htoken hfirst ht₂ hrun₂
  rw [sameContents_iff (by exact htail₁.view.trans htail₂.view.symm)]
  simp only [htail₁.weights_lookup, htail₂.weights_lookup]

/-! ## Two tails of one consensus -/

/-- Forty digits: a digest in hexadecimal. -/
def sampleDigest (digit : Char) : JString := List.replicate 40 digit

/-- A digest in Base64, as router entries have it. -/
def sampleBase64 : JString := List.replicate 27 'A'

/-- A small consensus up to its first signature line; it sets the weight `Wbd` to one. -/
def signedText : List UInt8 := latin1 (unlines
  [lit "network-status-version 3", lit "vote-status consensus",
    lit "dir-source a1 " ++ sampleDigest '1' ++ lit " host 1.2.3.4 80 443",
    lit "contact x", lit "vote-digest " ++ sampleDigest '2',
    lit "r nick " ++ sampleBase64 ++ lit " " ++ sampleBase64 ++ lit " 2013-01-01 00:00:00" ++
      lit " 1.2.3.4 443 80",
    lit "s Fast", lit "p accept 80", lit "directory-footer", lit "bandwidth-weights Wbd=1"])

def signatureLines : List JString :=
  [lit "directory-signature " ++ sampleDigest '1' ++ lit " " ++ sampleDigest '2',
    lit "-----BEGIN SIGNATURE-----", lit "AAAA", lit "-----END SIGNATURE-----"]

/-- The signature alone. -/
def plainTail : List UInt8 := latin1 (unlines signatureLines)

/-- The signature with a line behind it that sets the weight again. -/
def weightTail : List UInt8 := latin1 (unlines (signatureLines ++ [lit "bandwidth-weights Wbd=7"]))

/-- The parser behind the signed text. -/
def signedState : ParserState ConsensusParser :=
  final (consume Platform.checksum (lines signedText))

/-- The document reported for the signed text with a tail. -/
def sampleDocument (t : List UInt8) : ConsensusDocument :=
  (reported Platform.checksum (signedText ++ t)).headD { }

theorem signedText_endsLine : EndsLine signedText := by decide +kernel

theorem signedState_spec : consume checksum (lines signedText) = .ok () signedState ∧
    signedState.handler.document.currentSection = .FOOTER ∧
    signedState.handler.document.seenFirstSignature = false := by
  have hok : returned (consume checksum (lines signedText)) = true ∧
      signedState.handler.document.currentSection = .FOOTER ∧
      signedState.handler.document.seenFirstSignature = false := by decide +kernel
  exact ⟨eq_ok_of_returned hok.1, hok.2⟩

/-- One evaluation of the parse tells that there is a document and what its weight is. -/
theorem sampleDocument_spec {weight : Option Int}
    (h : (reported checksum (signedText ++ t)).map
      (fun d => d.bandwidthWeights.lookup (lit "Wbd")) = [weight]) :
    sampleDocument t ∈ reported checksum (signedText ++ t) ∧
      (sampleDocument t).bandwidthWeights.lookup (lit "Wbd") = weight := by
  obtain ⟨d, hd, hweight⟩ := List.map_eq_singleton_iff.mp h
  unfold sampleDocument
  rw [hd]
  exact ⟨List.mem_singleton.mpr rfl, hweight⟩

theorem plainTail_spec :
    sampleDocument plainTail ∈ reported checksum (signedText ++ plainTail) ∧
      (sampleDocument plainTail).bandwidthWeights.lookup (lit "Wbd") = some 1 :=
  sampleDocument_spec (by decide +kernel)

theorem plainTail_keyword : firstKeyword plainTail = some (lit "directory-signature") := by
  decide +kernel

/-- A second signature behind the first changes nothing. -/
theorem second_signature_same_contents :
    SameContents (sampleDocument plainTail) (sampleDocument (plainTail ++ plainTail)) := by
  have hw : footerWeights checksum (lines plainTail) = [] ∧
      footerWeights checksum (lines (plainTail ++ plainTail)) = [] := by decide +kernel
  have hkeyword : firstKeyword (plainTail ++ plainTail) = some (lit "directory-signature") := by
    decide +kernel
  have hdouble : sampleDocument (plainTail ++ plainTail) ∈
      reported checksum (signedText ++ (plainTail ++ plainTail)) ∧
      (sampleDocument (plainTail ++ plainTail)).bandwidthWeights.lookup (lit "Wbd") = some 1 :=
    sampleDocument_spec (by decide +kernel)
  obtain ⟨hstate, hfooter, hfirst⟩ := signedState_spec
  refine (consensus_agree_iff checksum signedText plainTail (plainTail ++ plainTail)
    signedState _ _ signedText_endsLine hstate hfooter hfirst plainTail_keyword hkeyword
    plainTail_spec.1 hdouble.1).mpr fun name => ?_
  rw [hw.1, hw.2]

/-- The weight line behind the signature is applied: the two inputs agree up to and including
the keyword of the first signature line, and the weight is one in one document and seven in
the other. -/
theorem unsigned_weights_taken :
    EndsLine signedText ∧
      consume checksum (lines signedText) = .ok () signedState ∧
      signedState.handler.document.currentSection = .FOOTER ∧
      signedState.handler.document.seenFirstSignature = false ∧
      firstKeyword plainTail = some (lit "directory-signature") ∧
      firstKeyword weightTail = some (lit "directory-signature") ∧
      sampleDocument plainTail ∈ reported checksum (signedText ++ plainTail) ∧
      sampleDocument weightTail ∈ reported checksum (signedText ++ weightTail) ∧
      (sampleDocument plainTail).bandwidthWeights.lookup (lit "Wbd") = some 1 ∧
      (sampleDocument weightTail).bandwidthWeights.lookup (lit "Wbd") = some 7 ∧
      ¬ SameContents (sampleDocument plainTail) (sampleDocument weightTail) := by
  have hweight : sampleDocument weightTail ∈ reported checksum (signedText ++ weightTail) ∧
      (sampleDocument weightTail).bandwidthWeights.lookup (lit "Wbd") = some 7 :=
    sampleDocument_spec (by decide +kernel)
  obtain ⟨hstate, hfooter, hfirst⟩ := signedState_spec
  refine ⟨signedText_endsLine, hstate, hfooter, hfirst, plainTail_keyword, by decide +kernel,
    plainTail_spec.1, hweight.1, plainTail_spec.2, hweight.2, fun hsame => ?_⟩
  have hequal := hsame.weights (lit "Wbd")
  rw [plainTail_spec.2, hweight.2] at hequal
  exact absurd hequal (by decide)

end Orchid
