import Orchid.Directory.DownloadTask

/-!
# Orchid — is there enough to build circuits

`haveMinimumRouterInfo` answers from a field, which is calculated again while a flag is up. The flag
goes up when descriptors are added. It stays down when a consensus is installed and when time
passes, which change the answer too.

* **`answers_current`**: every answer is right if documents and certificates come while the flag is
  up, and if with the flag down no consensus expires and no descriptor falls due.
* **`answer_outlives_consensus`**: otherwise the answer for a consensus that has expired is still
  yes.
-/

namespace Orchid

open Prog Sample

/-- `RouterImpl.isDescriptorDownloadable`: a router without a descriptor has ten minutes from the
publication. -/
def RouterImpl.isDescriptorDownloadable (directory : DirectoryImpl) (now : Int) (r : RouterImpl) :
    Except JavaException Bool :=
  match r.descriptor.or (directory.refreshDescriptor r.status) with
  | some _ => return false
  | none =>
    match r.status.publicationTime with
    | none => throw .nullPointer
    | some published => return javaLong (now - published) > 1000 * 60 * 10

/-- The directory with the two fields of the answer, and the time. -/
structure RouterInfo where
  directory : DirectoryImpl
  now : Int
  haveMinimumRouterInfo : Bool := false
  needRecalculateMinimumRouterInfo : Bool := false

/-- What happens to a directory; descriptors come with the digests they are found by. -/
inductive RouterInfoEvent where
  | call (call : DirectoryCall)
  | addRouterDescriptors (descriptors : List (HexDigest × Descriptor))
  | addRouterMicrodescriptors (microdescriptors : List (HexDigest × Descriptor))
  | passes (time : Nat)
  | asked

namespace RouterInfo

/-- The loop of `checkMinimumRouterInfo`. -/
def descriptorCount (s : RouterInfo) : List RouterObject → Except JavaException Nat
  | [] => return 0
  | r :: rest => do
    let downloadable ← r.impl.isDescriptorDownloadable s.directory s.now
    let count ← s.descriptorCount rest
    return if downloadable then count else count + 1

def checkMinimumRouterInfo (s : RouterInfo) : Except JavaException RouterInfo :=
  if s.directory.currentConsensus.any (·.isLive s.now) then do
    let routers := s.directory.routers.getAllRouters
    let count ← s.descriptorCount routers
    return { s with
      needRecalculateMinimumRouterInfo := false
      haveMinimumRouterInfo := count * 4 > routers.length }
  else
    return { s with needRecalculateMinimumRouterInfo := true, haveMinimumRouterInfo := false }

/-- A call of `haveMinimumRouterInfo`, which answers with the field as it leaves it. -/
def ask (s : RouterInfo) : Except JavaException RouterInfo :=
  if s.needRecalculateMinimumRouterInfo then s.checkMinimumRouterInfo else return s

/-- A descriptor that is there already is not replaced. -/
def addDescriptors (cache : HexDigest → Option Descriptor)
    (descriptors : List (HexDigest × Descriptor)) (digest : HexDigest) : Option Descriptor :=
  (cache digest).or (descriptors.lookup digest)

/-- An exception leaves the two fields as they are. -/
def step (P : Platform) (s : RouterInfo) : RouterInfoEvent → Option RouterInfo
  | .call call => some { s with directory := s.directory.afterCall P (s.now, call) }
  | .addRouterDescriptors descriptors => some { s with
      directory.basicDescriptorCache :=
        addDescriptors s.directory.basicDescriptorCache descriptors
      needRecalculateMinimumRouterInfo := true }
  | .addRouterMicrodescriptors microdescriptors => some { s with
      directory.microdescriptorCache :=
        addDescriptors s.directory.microdescriptorCache microdescriptors
      needRecalculateMinimumRouterInfo := true }
  | .passes time => some { s with now := s.now + time }
  | .asked => some (s.ask.toOption.getD s)

def start (directoryServers : List DirectoryServer) (now : Int) : RouterInfo :=
  { directory := .create directoryServers, now }

/-! ## What the answer should be -/

/-- There is a live consensus, and more than a quarter of its routers need no descriptor. -/
def Minimum (s : RouterInfo) : Prop :=
  s.directory.currentConsensus.any (·.isLive s.now) = true ∧
    s.directory.routers.getAllRouters.length <
      4 * s.directory.routers.getAllRouters.countP fun r =>
        r.impl.isDescriptorDownloadable s.directory s.now = .ok false

instance (s : RouterInfo) : Decidable s.Minimum := inferInstanceAs (Decidable (_ ∧ _))

/-- An answer is right, and there is one if every router has a time of publication. -/
structure Answers (s : RouterInfo) : Prop where
  right : ∀ s', s.ask = .ok s' → (s'.haveMinimumRouterInfo = true ↔ s.Minimum)
  returns : (∀ r ∈ s.directory.routers.getAllRouters, r.impl.status.publicationTime.isSome) →
    ∃ s', s.ask = .ok s'

variable {P : Platform} {s s' : RouterInfo}

theorem descriptorCount_eq {l : List RouterObject} {count : Nat}
    (h : s.descriptorCount l = .ok count) :
    count = l.countP fun r => r.impl.isDescriptorDownloadable s.directory s.now = .ok false := by
  induction l generalizing count with
  | nil =>
    cases h
    rfl
  | cons r rest ih =>
    obtain ⟨downloadable, hfirst, h⟩ := except_bind_eq_ok.mp h
    obtain ⟨count', hrest, h⟩ := except_bind_eq_ok.mp h
    cases h
    rw [List.countP_cons, ih hrest, hfirst]
    cases downloadable <;> simp

theorem descriptorCount_returns {l : List RouterObject}
    (hl : ∀ r ∈ l, r.impl.status.publicationTime.isSome) :
    ∃ count, s.descriptorCount l = .ok count := by
  induction l with
  | nil => exact ⟨0, rfl⟩
  | cons r rest ih =>
    obtain ⟨published, hpublished⟩ := Option.isSome_iff_exists.mp (hl r List.mem_cons_self)
    obtain ⟨count, hrest⟩ := ih fun r' hr' => hl r' (List.mem_cons_of_mem _ hr')
    have hfirst : ∃ b, r.impl.isDescriptorDownloadable s.directory s.now = .ok b := by
      unfold RouterImpl.isDescriptorDownloadable
      rw [hpublished]
      split
      · exact ⟨_, rfl⟩
      · exact ⟨_, rfl⟩
    obtain ⟨b, hfirst⟩ := hfirst
    refine ⟨if b then count else count + 1, ?_⟩
    unfold descriptorCount
    rw [hfirst, hrest]
    rfl

/-- The flag is up, or the answer in the field is right. -/
def Settled (s : RouterInfo) : Prop :=
  s.needRecalculateMinimumRouterInfo = true ∨ (s.haveMinimumRouterInfo = true ↔ s.Minimum)

/-- What a call leaves is the answer, and the directory as it was. -/
theorem Settled.asked (hs : s.Settled) (h : s.ask = .ok s') :
    s'.Settled ∧ (s'.haveMinimumRouterInfo = true ↔ s.Minimum) := by
  unfold ask at h
  by_cases hneed : s.needRecalculateMinimumRouterInfo = true
  · rw [if_pos hneed] at h
    unfold checkMinimumRouterInfo at h
    split at h
    · rename_i hlive
      obtain ⟨count, hcount, h⟩ := except_bind_eq_ok.mp h
      cases h
      have hanswer : decide (count * 4 > s.directory.routers.getAllRouters.length) = true ↔
          s.Minimum := by
        rw [decide_eq_true_iff, descriptorCount_eq hcount, Nat.mul_comm]
        exact (and_iff_right hlive).symm
      exact ⟨Or.inr hanswer, hanswer⟩
    · rename_i hdead
      cases h
      exact ⟨Or.inl rfl, iff_of_false Bool.false_ne_true fun h => hdead h.1⟩
  · rw [if_neg hneed] at h
    cases h
    exact ⟨hs, hs.resolve_left hneed⟩

theorem Settled.answers (hs : s.Settled) : s.Answers where
  right _ h := (hs.asked h).2
  returns hdated := by
    obtain ⟨count, hcount⟩ := descriptorCount_returns (s := s) hdated
    unfold ask checkMinimumRouterInfo
    dsimp only
    rw [hcount]
    split
    · split
      · exact ⟨_, rfl⟩
      · exact ⟨_, rfl⟩
    · exact ⟨_, rfl⟩

/-! ## Runs -/

/-- While the flag is down, nothing comes that may be installed, and time passes only as long as the
consensus stays live and no descriptor falls due. -/
def Timely (s : RouterInfo) (e : RouterInfoEvent) : Prop :=
  s.needRecalculateMinimumRouterInfo = true ∨ match e with
    | .call _ => False
    | .passes time =>
      s.directory.currentConsensus.any (·.isLive (s.now + time)) =
          s.directory.currentConsensus.any (·.isLive s.now) ∧
        ∀ r ∈ s.directory.routers.getAllRouters,
          r.impl.isDescriptorDownloadable s.directory (s.now + time) =
            r.impl.isDescriptorDownloadable s.directory s.now
    | _ => True

theorem settled_step {e : RouterInfoEvent} (hs : s.Settled) (htimely : s.Timely e)
    (hstep : s.step P e = some s') : s'.Settled := by
  cases e with
  | call call =>
    cases hstep
    exact Or.inl (htimely.resolve_right id)
  | addRouterDescriptors | addRouterMicrodescriptors =>
    cases hstep
    exact Or.inl rfl
  | passes time =>
    cases hstep
    rcases htimely with hneed | ⟨hlive, hdue⟩
    · exact Or.inl hneed
    · refine hs.imp_right fun hanswer => hanswer.trans (and_congr (by rw [← hlive]) ?_)
      rw [List.countP_congr fun r hr => by rw [← hdue r hr]]
  | asked =>
    cases hstep
    cases h : s.ask with
    | error e => exact hs
    | ok s' => exact (hs.asked h).1

/-- **Every answer is right** in a timely run. -/
theorem answers_current (P : Platform) (directoryServers : List DirectoryServer) (now : Int)
    (events : List RouterInfoEvent) (s : RouterInfo)
    (htimely : Runs.Meets (step P) Timely (start directoryServers now) events)
    (hrun : Runs.run (step P) (start directoryServers now) events = some s) : s.Answers := by
  have hstart : (start directoryServers now).Settled :=
    Or.inr (iff_of_false Bool.false_ne_true fun h => Bool.false_ne_true h.1)
  exact (Runs.invariant (fun _ _ _ hs htimely hstep => settled_step hs htimely hstep) hstart htimely
    hrun).answers

/-- A verified consensus that lists one router. -/
def oneRouter : ConsensusDocument :=
  { consensusOf [signer 1 0xB1] with
    routerStatusEntries := [{
      nickname := some (lit "relay"), identity := some (digestOf 9), address := some ⟨1⟩
      publicationTime := some 0, flags := [lit "Running", lit "Valid"] }] }

/-- It is installed and asked about while it is live. -/
def installedAndAsked : List RouterInfoEvent :=
  [.addRouterDescriptors [], .call (.addConsensusDocument oneRouter false), .asked]

theorem installed_and_answered :
    ∃ s, Runs.run (step Platform.checksum) (start [⟨some (digestOf 1), [certificateFor 1]⟩] 5)
        installedAndAsked = some s ∧ s.haveMinimumRouterInfo = true ∧ s.Answers := by
  have htimely : Runs.Meets (step Platform.checksum) Timely
      (start [⟨some (digestOf 1), [certificateFor 1]⟩] 5) installedAndAsked :=
    ⟨Or.inr trivial, fun _ h => by
      cases h
      exact ⟨Or.inl rfl, fun _ h => by
        cases h
        exact ⟨Or.inr trivial, fun _ _ => trivial⟩⟩⟩
  obtain ⟨s, hrun, hanswer⟩ : ∃ s, Runs.run (step Platform.checksum)
      (start [⟨some (digestOf 1), [certificateFor 1]⟩] 5) installedAndAsked = some s ∧
      s.haveMinimumRouterInfo = true := by decide +kernel
  exact ⟨s, hrun, hanswer, answers_current _ _ _ _ s htimely hrun⟩

/-- Then it expires, and the answer is the same. -/
theorem answer_outlives_consensus :
    ∃ s, Runs.run (step Platform.checksum) (start [⟨some (digestOf 1), [certificateFor 1]⟩] 5)
        (installedAndAsked ++ [.passes 16]) = some s ∧ s.directory.currentConsensus.isSome = true ∧
      s.directory.currentConsensus.any (·.isLive s.now) = false ∧
      s.ask.toOption.map haveMinimumRouterInfo = some true ∧ ¬ s.Minimum := by
  decide +kernel

end RouterInfo

end Orchid
