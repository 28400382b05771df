import Orchid.Directory.PendingConsensus
import Orchid.Paths.NodeChooser

/-!
# Orchid — the task that downloads directory documents

`DirectoryDownloadTask` keeps a consensus of its own, which decides when the next one is fetched.
A worker that has fetched a document puts it there first and hands it to the directory afterwards,
and whatever the directory makes of it, it stays there.

The worker and the main loop take turns here. While a worker is busy (`isDownloadingConsensus`),
the main loop does not look at the task's consensus, so that is the time it may be anything.

* **`steered_run`**: if the directory accepts what is handed over, or had accepted it before, the
  task's consensus is always one the directory has accepted or one on its way there.
* **`rejected_consensus_delays`**: a document without a single signature puts off the next download
  as long as it likes.
-/

namespace Orchid

open Prog Sample DirectoryImpl

/-! ## The state -/

/-- The fields of `DirectoryDownloadTask` that consensus downloads use. -/
structure DirectoryDownloadTask where
  directory : DirectoryImpl
  currentConsensus : Option ConsensusDocument := none
  consensusDownloadTime : Option Int := none
  isDownloadingConsensus : Bool := false
  /-- `run` has loaded the directory. -/
  started : Bool := false
  /-- An exception has ended the thread of `run`. -/
  ended : Bool := false
  /-- What the worker has fetched and not yet handed over. -/
  fetched : Option ConsensusDocument := none
  /-- The consensuses that the directory has had in force. -/
  accepted : List ConsensusDocument := []

/-- What happens to the task. -/
inductive DownloadEvent where
  | loadConsensus (now : Int) (consensus : ConsensusDocument)
  | addCertificate (now : Int) (certificate : KeyCertificate)
  | begin (draw : Nat)
  | checkConsensus (now : Int)
  | consensusArrives (consensus : Option ConsensusDocument) (draw : Nat)
  | handOver (now : Int)
  | downloadFails

/-- `isLive`. -/
def ConsensusDocument.isLive (now : Int) (doc : ConsensusDocument) : Bool :=
  match doc.validUntil with
  | none => false
  | some validUntil => !(validUntil < now)

namespace DirectoryDownloadTask

/-- When downloads may start: three quarters into the interval after a consensus is fresh. -/
def downloadStart (va fu : Int) : Int :=
  let i1 := javaLong (fu - va)
  javaLong (fu + (javaLong (i1 * 3)).tdiv 4)

/-- How long from then on: seven eighths of the time that remains. -/
def downloadWindow (va fu vu : Int) : Int :=
  (javaLong (javaLong (vu - downloadStart va fu) * 7)).tdiv 8

/-- `chooseDownloadTimeForConsensus`, with what `nextLong` draws from. -/
def chooseDownloadTimeForConsensus (consensus : ConsensusDocument) (draw : Nat) :
    Except JavaException Int :=
  match consensus.validAfter, consensus.freshUntil, consensus.validUntil with
  | some va, some fu, some vu =>
    let i2 := downloadWindow va fu vu
    if i2 = 0 then throw .arithmetic
    else return javaLong (downloadStart va fu + TorRandom.nextLong i2 draw)
  | _, _, _ => throw .nullPointer

/-- `setCurrentConsensus`: the task, and what was raised once the document was in place. -/
def setCurrentConsensus (consensus : Option ConsensusDocument) (draw : Nat)
    (s : DirectoryDownloadTask) : DirectoryDownloadTask × Option JavaException :=
  match consensus with
  | none => ({ s with currentConsensus := none, consensusDownloadTime := none }, none)
  | some consensus =>
    match chooseDownloadTimeForConsensus consensus draw with
    | .ok time =>
      ({ s with currentConsensus := some consensus, consensusDownloadTime := some time }, none)
    | .error e => ({ s with currentConsensus := some consensus }, some e)

def needConsensusDownload (now : Int) (s : DirectoryDownloadTask) : Except JavaException Bool :=
  if s.directory.hasPendingConsensus then return false
  else
    match s.currentConsensus with
    | none => return true
    | some consensus =>
      if !consensus.isLive now then return true
      else
        match s.consensusDownloadTime with
        | none => throw .nullPointer
        | some time => return time < now

/-- The consensus in force is noted. -/
def remember (s : DirectoryDownloadTask) : DirectoryDownloadTask :=
  { s with accepted := s.directory.currentConsensus.toList ++ s.accepted }

/-- The directory after a call on it. -/
def onDirectory (P : Platform) (now : Int) (call : DirectoryCall) (s : DirectoryDownloadTask) :
    DirectoryDownloadTask :=
  remember { s with directory := afterCall P s.directory (now, call) }

/-- `checkConsensus` of the main loop. -/
def checkConsensus (now : Int) (s : DirectoryDownloadTask) : DirectoryDownloadTask :=
  if s.isDownloadingConsensus then s
  else
    match s.needConsensusDownload now with
    | .ok true => { s with isDownloadingConsensus := true }
    | .ok false => s
    | .error _ => { s with ended := true }

/-- The worker has its answer. The directory raises for a null document, and `finally` clears the
flag of a worker that ends. -/
def consensusArrives (consensus : Option ConsensusDocument) (draw : Nat)
    (s : DirectoryDownloadTask) : DirectoryDownloadTask :=
  match setCurrentConsensus consensus draw s with
  | (s, some _) => { s with isDownloadingConsensus := false }
  | (s, none) =>
    match consensus with
    | none => { s with isDownloadingConsensus := false }
    | some consensus => { s with fetched := some consensus }

/-- The worker hands its document over. -/
def handOver (P : Platform) (now : Int) (consensus : ConsensusDocument)
    (s : DirectoryDownloadTask) : DirectoryDownloadTask :=
  { onDirectory P now (.addConsensusDocument consensus false) s with
    fetched := none
    isDownloadingConsensus := false }

/-- One event; none if it cannot happen. `loadFromStore` comes first, and a worker fetches one
document at most. -/
def step (P : Platform) (s : DirectoryDownloadTask) :
    DownloadEvent → Option DirectoryDownloadTask
  | .loadConsensus now consensus =>
    if s.started then none else some (onDirectory P now (.addConsensusDocument consensus true) s)
  | .addCertificate now certificate => some (onDirectory P now (.addCertificate certificate) s)
  | .begin draw =>
    if s.started then none
    else
      let (s', raised) := setCurrentConsensus s.directory.currentConsensus draw s
      some { s' with started := true, ended := raised.isSome }
  | .checkConsensus now => if s.started && !s.ended then some (s.checkConsensus now) else none
  | .consensusArrives consensus draw =>
    if s.isDownloadingConsensus && s.fetched.isNone then some (s.consensusArrives consensus draw)
    else none
  | .handOver now => s.fetched.map fun consensus => s.handOver P now consensus
  | .downloadFails =>
    if s.isDownloadingConsensus && s.fetched.isNone then
      some { s with isDownloadingConsensus := false }
    else none

/-! ## What is asked -/

/-- Java's `equals`: the signed text is the same. -/
def SameDocument (d doc : ConsensusDocument) : Prop :=
  doc = d ∨ d.signingHash.isSome ∧ doc.signingHash = d.signingHash

/-- The directory has had the document in force. -/
def Accepted (s : DirectoryDownloadTask) (doc : ConsensusDocument) : Prop :=
  ∃ d ∈ s.accepted, SameDocument d doc

/-- The task's consensus is null or a document that the directory accepted, or else it is the one
that a busy worker has in hand. -/
def Steered (s : DirectoryDownloadTask) : Prop :=
  ∀ doc, s.currentConsensus = some doc →
    s.Accepted doc ∨ s.isDownloadingConsensus = true ∧ s.fetched = some doc

/-- The document has its three times, and time in which to download the next. -/
def Timed (doc : ConsensusDocument) : Prop :=
  ∃ va fu vu, doc.validAfter = some va ∧ doc.freshUntil = some fu ∧ doc.validUntil = some vu ∧
    downloadWindow va fu vu ≠ 0

/-- The document is another one than that in force and not older, its signatures verify with the
certificates held, and it can be installed. -/
structure Acceptable (P : Platform) (now : Int) (directory : DirectoryImpl)
    (doc : ConsensusDocument) : Prop where
  new : directory.supersedes doc = .ok false
  verified : directory.verdict P now doc = .ok .STATUS_VERIFIED
  installable : Installable doc

/-- What is asked of an event: a document handed over is acceptable, and one whose times raise is
not handed over at all; or the directory had accepted it before. -/
def Accepts (P : Platform) (s : DirectoryDownloadTask) : DownloadEvent → Prop
  | .consensusArrives (some doc) _ => Timed doc ∨ s.Accepted doc
  | .handOver now => ∀ doc, s.fetched = some doc → Acceptable P now s.directory doc ∨ s.Accepted doc
  | _ => True

/-! ## The invariant -/

structure Inv (s : DirectoryDownloadTask) : Prop where
  inForce : ∀ doc, s.directory.currentConsensus = some doc → doc ∈ s.accepted
  kept : s.fetched = none → ∀ doc, s.currentConsensus = some doc → s.Accepted doc
  fetched : ∀ doc, s.fetched = some doc →
    s.currentConsensus = some doc ∧ s.isDownloadingConsensus = true
  started : s.isDownloadingConsensus = true → s.started = true

variable {P : Platform} {s s' : DirectoryDownloadTask} {doc : ConsensusDocument}

theorem accepted_of_mem (h : doc ∈ s.accepted) : s.Accepted doc :=
  ⟨doc, h, Or.inl rfl⟩

theorem Accepted.mono (h : s.Accepted doc) (hmono : ∀ d ∈ s.accepted, d ∈ s'.accepted) :
    s'.Accepted doc := by
  obtain ⟨d, hd, hsame⟩ := h
  exact ⟨d, hmono d hd, hsame⟩

theorem Inv.steered (h : s.Inv) : s.Steered := by
  intro doc hdoc
  cases hfetched : s.fetched with
  | none => exact Or.inl (h.kept hfetched doc hdoc)
  | some fetched =>
    obtain ⟨hcurrent, hbusy⟩ := h.fetched fetched hfetched
    have hsame : doc = fetched := Option.some.inj (hdoc.symm.trans hcurrent)
    exact Or.inr ⟨hbusy, by rw [hsame]⟩

theorem not_busy (h : s.Inv) (hnot : s.started = false) : s.isDownloadingConsensus = false := by
  cases hbusy : s.isDownloadingConsensus with
  | false => rfl
  | true =>
    have hstarted := h.started hbusy
    cases hnot.symm.trans hstarted

theorem not_fetched (h : s.Inv) (hnot : s.isDownloadingConsensus = false) : s.fetched = none := by
  cases hfetched : s.fetched with
  | none => rfl
  | some fetched =>
    have hbusy := (h.fetched fetched hfetched).2
    cases hnot.symm.trans hbusy

/-- A call on the directory. -/
theorem Inv.onDirectory (h : s.Inv) (now : Int) (call : DirectoryCall) :
    (s.onDirectory P now call).Inv where
  inForce := by
    intro doc hdoc
    have hdoc : (afterCall P s.directory (now, call)).currentConsensus = some doc :=
      hdoc
    show doc ∈ (afterCall P s.directory (now, call)).currentConsensus.toList ++ _
    rw [hdoc]
    exact List.mem_append_left _ (by simp)
  kept := by
    intro hfetched doc hdoc
    exact (h.kept hfetched doc hdoc).mono fun d hd => List.mem_append_right _ hd
  fetched := h.fetched
  started := h.started

variable {directory : DirectoryImpl}

/-- An acceptable document comes into force. -/
theorem Acceptable.inForce {now : Int} (h : Acceptable P now directory doc) (fromCache : Bool) :
    (afterCall P directory
      (now, .addConsensusDocument doc fromCache)).currentConsensus = some doc := by
  have hoffer := addConsensusDocument_offer P now doc fromCache directory
  show (final (addConsensusDocument P now doc fromCache directory)).currentConsensus = some doc
  generalize addConsensusDocument P now doc fromCache directory = r at hoffer ⊢
  have hnew := h.new
  have hverified := h.verified
  cases hoffer with
  | superseded hold => simp [hold] at hnew
  | incomparable hraise => simp [hraise] at hnew
  | unverifiable _ _ hverdict | failed _ _ hverdict | pending _ _ _ hverdict =>
    simp [hverdict] at hverified
  | verified required _ _ _ =>
    obtain ⟨s₁, stored, -, hrun⟩ := install_returns h.installable fromCache _
    rw [hrun]
    rfl

theorem Inv.handOver {now : Int} (h : s.Inv) (hfetched : s.fetched = some doc)
    (haccepts : Acceptable P now s.directory doc ∨ s.Accepted doc) :
    (s.handOver P now doc).Inv := by
  have hcalled : (s.onDirectory P now (.addConsensusDocument doc false)).Inv :=
    h.onDirectory now (.addConsensusDocument doc false)
  have haccepted : (s.onDirectory P now (.addConsensusDocument doc false)).Accepted doc := by
    rcases haccepts with hacceptable | hbefore
    · exact accepted_of_mem (hcalled.inForce doc (hacceptable.inForce false))
    · exact hbefore.mono fun d hd => List.mem_append_right _ hd
  constructor
  · exact hcalled.inForce
  · intro _ doc' hdoc'
    have hsame : doc = doc' :=
      Option.some.inj ((h.fetched doc hfetched).1.symm.trans hdoc')
    subst hsame
    exact haccepted
  · intro doc' hnone
    have hnone : none = some doc' := hnone
    cases hnone
  · intro hbusy
    have hbusy : false = true := hbusy
    cases hbusy

theorem chooseDownloadTime_of_timed (h : Timed doc) (draw : Nat) :
    ∃ time, chooseDownloadTimeForConsensus doc draw = .ok time := by
  obtain ⟨va, fu, vu, hva, hfu, hvu, hwindow⟩ := h
  unfold chooseDownloadTimeForConsensus
  simp only [hva, hfu, hvu, hwindow, if_false]
  exact ⟨_, rfl⟩

variable {consensus : Option ConsensusDocument}

/-- The task's consensus is set to one that was accepted, or to none. -/
theorem Inv.idle (h : s.Inv) (hfetched : s.fetched = none)
    (haccepted : ∀ doc, consensus = some doc → s.Accepted doc) (time : Option Int)
    (busy started ended : Bool) (hstarted : busy = true → started = true) :
    ({ s with
      currentConsensus := consensus
      consensusDownloadTime := time
      isDownloadingConsensus := busy
      started
      ended } : DirectoryDownloadTask).Inv where
  inForce := h.inForce
  kept := fun _ doc hdoc => haccepted doc hdoc
  fetched := by
    intro doc hdoc
    have hdoc : s.fetched = some doc := hdoc
    cases hfetched.symm.trans hdoc
  started := hstarted

theorem setCurrentConsensus_sets (consensus : Option ConsensusDocument) (draw : Nat)
    (s : DirectoryDownloadTask) :
    ∃ time, (setCurrentConsensus consensus draw s).1 =
      { s with currentConsensus := consensus, consensusDownloadTime := time } := by
  unfold setCurrentConsensus
  cases consensus with
  | none => exact ⟨none, rfl⟩
  | some doc =>
    dsimp only
    cases chooseDownloadTimeForConsensus doc draw with
    | ok time => exact ⟨some time, rfl⟩
    | error e => exact ⟨s.consensusDownloadTime, rfl⟩

/-- The worker has its answer, and what it fetched is in place. -/
theorem Inv.consensusArrives (h : s.Inv) (hbusy : s.isDownloadingConsensus = true)
    (hfetched : s.fetched = none) (draw : Nat)
    (haccepts : ∀ doc, consensus = some doc → Timed doc ∨ s.Accepted doc) :
    (s.consensusArrives consensus draw).Inv := by
  unfold DirectoryDownloadTask.consensusArrives setCurrentConsensus
  cases consensus with
  | none => exact h.idle hfetched (by simp) none false s.started s.ended (by simp)
  | some doc =>
    dsimp only
    cases htime : chooseDownloadTimeForConsensus doc draw with
    | ok time =>
      -- from here on the document is the worker's
      constructor
      · exact h.inForce
      · simp
      · rintro doc' ⟨⟩
        exact ⟨rfl, hbusy⟩
      · exact h.started
    | error e =>
      have hbefore : s.Accepted doc := by
        rcases haccepts doc rfl with htimed | hbefore
        · obtain ⟨time, hok⟩ := chooseDownloadTime_of_timed htimed draw
          rw [hok] at htime
          cases htime
        · exact hbefore
      refine h.idle hfetched ?_ s.consensusDownloadTime false s.started s.ended (by simp)
      rintro doc' ⟨⟩
      exact hbefore

theorem Inv.checkConsensus (h : s.Inv) (now : Int) (hstarted : s.started = true) :
    (s.checkConsensus now).Inv := by
  unfold DirectoryDownloadTask.checkConsensus
  split
  · exact h
  · rename_i hidle
    have hfetched := not_fetched h (Bool.eq_false_iff.mpr hidle)
    split
    · exact h.idle hfetched (h.kept hfetched) s.consensusDownloadTime true s.started s.ended
        fun _ => hstarted
    · exact h
    · exact h.idle hfetched (h.kept hfetched) s.consensusDownloadTime s.isDownloadingConsensus
        s.started true fun _ => hstarted

/-- **One event.** -/
theorem inv_step {event : DownloadEvent} (h : s.Inv) (haccepts : Accepts P s event)
    (hstep : step P s event = some s') : s'.Inv := by
  cases event with
  | loadConsensus now consensus =>
    simp only [step] at hstep
    split at hstep
    · cases hstep
    · cases hstep
      exact h.onDirectory now _
  | addCertificate now certificate =>
    cases hstep
    exact h.onDirectory now _
  | begin draw =>
    simp only [step] at hstep
    split at hstep
    · cases hstep
    · rename_i hnot
      have hidle := not_busy h (Bool.eq_false_iff.mpr hnot)
      have hfetched := not_fetched h hidle
      have hforce : ∀ doc, s.directory.currentConsensus = some doc → s.Accepted doc :=
        fun doc hdoc => accepted_of_mem (h.inForce doc hdoc)
      obtain ⟨time, hset⟩ := setCurrentConsensus_sets s.directory.currentConsensus draw s
      rw [hset] at hstep
      cases hstep
      exact h.idle hfetched hforce time s.isDownloadingConsensus true _ fun _ => rfl
  | checkConsensus now =>
    simp only [step] at hstep
    split at hstep
    · rename_i hrunning
      cases hstep
      rw [Bool.and_eq_true] at hrunning
      exact h.checkConsensus now hrunning.1
    · cases hstep
  | consensusArrives consensus draw =>
    simp only [step] at hstep
    split at hstep
    · rename_i hwaits
      cases hstep
      rw [Bool.and_eq_true, Option.isNone_iff_eq_none] at hwaits
      refine h.consensusArrives hwaits.1 hwaits.2 draw fun doc hdoc => ?_
      subst hdoc
      exact haccepts
    · cases hstep
  | handOver now =>
    obtain ⟨doc, hfetched, rfl⟩ := Option.map_eq_some_iff.mp hstep
    exact h.handOver hfetched (haccepts doc hfetched)
  | downloadFails =>
    simp only [step] at hstep
    split at hstep
    · rename_i hwaits
      cases hstep
      rw [Bool.and_eq_true, Option.isNone_iff_eq_none] at hwaits
      exact h.idle hwaits.2 (h.kept hwaits.2) s.consensusDownloadTime false s.started s.ended
        (by simp)
    · cases hstep

/-- The task as its constructor leaves it, with a directory. -/
def create (directory : DirectoryImpl) : DirectoryDownloadTask := remember { directory }

theorem inv_create (directory : DirectoryImpl) : (create directory).Inv where
  inForce := by
    intro doc hdoc
    have hdoc : directory.currentConsensus = some doc := hdoc
    show doc ∈ directory.currentConsensus.toList ++ []
    rw [hdoc]
    simp
  kept := by
    intro _ doc hdoc
    have hdoc : none = some doc := hdoc
    cases hdoc
  fetched := by
    intro doc hdoc
    have hdoc : none = some doc := hdoc
    cases hdoc
  started := by
    intro hbusy
    have hbusy : false = true := hbusy
    cases hbusy

/-- **The downloader is steered by accepted documents**, in every run in which what is fetched is
accepted. -/
theorem steered_run (P : Platform) (directory : DirectoryImpl) (events : List DownloadEvent)
    (hevents : Runs.Meets (step P) (Accepts P) (create directory) events)
    (s : DirectoryDownloadTask) (hrun : Runs.run (step P) (create directory) events = some s) :
    s.Steered := by
  have hinv : s.Inv := Runs.invariant (fun _ _ _ h haccepts hstep => inv_step h haccepts hstep)
    (inv_create directory) hevents hrun
  exact hinv.steered

/-! ## Two downloads -/

/-- One document is fetched and then handed over. -/
def oneFetch (consensus : ConsensusDocument) : List DownloadEvent :=
  [.begin 0, .checkConsensus 5, .consensusArrives (some consensus) 0]

theorem oneFetch_run {time : Int} (hcurrent : directory.currentConsensus = none)
    (hwaiting : directory.hasPendingConsensus = false)
    (htime : chooseDownloadTimeForConsensus doc 0 = .ok time) :
    Runs.run (step P) (create directory) (oneFetch doc) = some
      { create directory with
        started := true
        isDownloadingConsensus := true
        currentConsensus := some doc
        consensusDownloadTime := some time
        fetched := some doc } := by
  simp [oneFetch, Runs.run, step, create, remember, setCurrentConsensus, pure, Except.pure,
    DirectoryDownloadTask.checkConsensus, needConsensusDownload,
    DirectoryDownloadTask.consensusArrives, hcurrent, hwaiting, htime]

/-- The document is handed over to a directory that can accept it. -/
theorem oneFetch_accepts (hcurrent : directory.currentConsensus = none)
    (hwaiting : directory.hasPendingConsensus = false) (htimed : Timed doc)
    (hacceptable : Acceptable P 5 directory doc) :
    Runs.Meets (step P) (Accepts P) (create directory) (oneFetch doc ++ [.handOver 5]) := by
  obtain ⟨time, htime⟩ := chooseDownloadTime_of_timed htimed 0
  refine Runs.Meets.append ?_ fun s hs => ⟨?_, fun _ _ => trivial⟩
  · exact ⟨trivial, fun _ _ => ⟨trivial, fun _ _ => ⟨Or.inl htimed, fun _ _ => trivial⟩⟩⟩
  · rw [oneFetch_run hcurrent hwaiting htime, Option.some.injEq] at hs
    subst hs
    intro doc' hdoc'
    cases hdoc'
    exact Or.inl hacceptable

/-- A good document of an authority whose certificate is at hand. -/
theorem good_document_kept :
    ∃ s doc, Runs.run (step Platform.checksum)
        (create (DirectoryImpl.create [⟨some (digestOf 1), [certificateFor 1]⟩]))
        (oneFetch (consensusOf [signer 1 0xB1]) ++ [.handOver 5]) = some s ∧
      s.isDownloadingConsensus = false ∧ s.currentConsensus = some doc ∧ s.Accepted doc := by
  let directory := DirectoryImpl.create [⟨some (digestOf 1), [certificateFor 1]⟩]
  let doc := consensusOf [signer 1 0xB1]
  have htimed : Timed doc := ⟨0, 10, 20, rfl, rfl, rfl, by decide +kernel⟩
  have hacceptable : Acceptable Platform.checksum 5 directory doc := by
    refine ⟨rfl, by decide +kernel, ⟨rfl, ?_⟩⟩
    have hnone : doc.routerStatusEntries = [] := rfl
    simp [hnone]
  have hevents := oneFetch_accepts rfl rfl htimed hacceptable
  obtain ⟨s, hrun, hsome, hidle⟩ : ∃ s, Runs.run (step Platform.checksum) (create directory)
      (oneFetch doc ++ [.handOver 5]) = some s ∧
      s.currentConsensus.isSome = true ∧ s.isDownloadingConsensus = false := by decide +kernel
  obtain ⟨kept, hkept⟩ := Option.isSome_iff_exists.mp hsome
  have hsteered := steered_run Platform.checksum directory _ hevents s hrun
  rcases hsteered kept hkept with haccepted | ⟨hbusy, -⟩
  · exact ⟨s, kept, hrun, hidle, hkept, haccepted⟩
  · cases hidle.symm.trans hbusy

/-- A document nobody has signed. It is rejected, but the next one is not fetched before it would
be time to. -/
theorem rejected_consensus_delays :
    ∃ s, Runs.run (step Platform.checksum) (create (DirectoryImpl.create (authorities [1])))
        (oneFetch { consensusOf [] with
          freshUntil := some 1000000000000, validUntil := some 4000000000000 } ++
          [.handOver 5]) = some s ∧
      ¬ s.Steered ∧ s.directory.currentConsensus = none ∧
      s.directory.hasPendingConsensus = false ∧
      s.needConsensusDownload 999999999999 = .ok false := by
  let directory := DirectoryImpl.create (authorities [1])
  let doc := { consensusOf [] with
    freshUntil := some 1000000000000, validUntil := some 4000000000000 }
  obtain ⟨s, hrun, hsome, hidle, hnothing, hcurrent, hrest⟩ : ∃ s,
      Runs.run (step Platform.checksum) (create directory) (oneFetch doc ++ [.handOver 5]) =
        some s ∧ s.currentConsensus.isSome = true ∧ s.isDownloadingConsensus = false ∧
      s.accepted.isEmpty = true ∧ s.directory.currentConsensus.isNone = true ∧
      s.directory.hasPendingConsensus = false ∧
      s.needConsensusDownload 999999999999 = .ok false := by
    decide +kernel
  refine ⟨s, hrun, fun hsteered => ?_, Option.isNone_iff_eq_none.mp hcurrent, hrest⟩
  obtain ⟨kept, hkept⟩ := Option.isSome_iff_exists.mp hsome
  rcases hsteered kept hkept with ⟨d, hd, -⟩ | ⟨hbusy, -⟩
  · rw [List.isEmpty_iff.mp hnothing] at hd
    cases hd
  · cases hidle.symm.trans hbusy

end DirectoryDownloadTask

end Orchid
