import Orchid.Paths.Independence

/-!
# Orchid — what becomes of configured restrictions

`ExcludeNodes` should keep a relay out of every path, `EntryNodes` and `ExitNodes` name the relays
a path may begin and end with. `TorConfigNodeFilter` is asked in one place only, when an exit is
chosen. Middle routers, entries and directories are chosen without it.

* `Honoured`: what the four lists ask of a path.
* **`exit_honoured`**: an exit that is chosen obeys the lists, but if no entry of `ExitNodes` is
  understood, it is as if the list were empty.
* **`restrictions_honoured_iff`**: the paths obey a configuration in every directory only if there
  is nothing to obey: `ExcludeNodes` matches no relay and `EntryNodes` all or is empty.

The directories that show this are made of three routers that have nothing in common
(`Directory.Scattered`), so that only flags decide who can be chosen.
-/

namespace Orchid

open Prog CircuitNodeChooser ConfigNodeFilter CircuitPathChooser Sample TorConfigNodeFilter

/-! ## Paths and what is asked of them -/

inductive PathKind where
  | directory
  | internal
  | exit
  deriving DecidableEq

/-- The paths that the chooser can return, for any draws. -/
def CircuitPathChooser.Returns {D : Type} (c : CircuitPathChooser D) :
    PathKind → List Relay → Prop
  | .directory, path => ∃ draw authorityDraw, c.chooseDirectoryPath draw authorityDraw = .ok path
  | .internal, path => ∃ finalDraw middleDraw entryDraw,
      c.chooseInternalPath finalDraw middleDraw entryDraw = .ok path
  | .exit, path => ∃ targets exitDraw middleDraw entryDraw,
      c.chooseExitPath targets exitDraw middleDraw entryDraw = .ok (some path)

/-- A path obeys the configuration. A directory circuit has one hop, which is not an entry. -/
structure Honoured (countryCodes : IPv4Address → JString) (config : NodeLists) (kind : PathKind)
    (path : List Relay) : Prop where
  excluded : ∀ r ∈ path, ¬ Matches countryCodes config.excludeNodes r
  entry : kind ≠ .directory → config.entryNodes ≠ [] →
    ∀ r ∈ path.head?, Matches countryCodes config.entryNodes r
  exit : kind = .exit → ∀ r ∈ path.getLast?,
    ¬ Matches countryCodes config.excludeExitNodes r ∧
      (config.exitNodes ≠ [] → Matches countryCodes config.exitNodes r)

/-- The chooser that is made for a configuration, in any directory. -/
structure Configured {D : Type} (F : Doubles D) (countryCodes : IPv4Address → JString)
    (config : NodeLists) (c : CircuitPathChooser D) : Prop where
  doubles : c.doubles = F
  countryCodes : c.countryCodes = countryCodes
  filter : TorConfigNodeFilter.create config = .ok c.configNodeFilter

variable {countryCodes : IPv4Address → JString} {entries : List JString}

/-- Only address, identity and nickname count. -/
theorem Matches.congr {r r' : Relay} (haddress : r'.getAddress = r.getAddress)
    (hidentity : r'.getIdentityHash = r.getIdentityHash) (hnickname : r'.getNickname = r.getNickname) :
    Matches countryCodes entries r' ↔ Matches countryCodes entries r := by
  have hfilter : ∀ f : RouterFilter, f.filter countryCodes r' = f.filter countryCodes r := by
    intro f
    cases f <;> simp [RouterFilter.filter, haddress, hidentity, hnickname]
  unfold Matches
  simp only [hfilter]

namespace CircuitPathChooser

variable {D : Type} {c : CircuitPathChooser D} {F : Doubles D}
  {countryCodes : IPv4Address → JString} {config : NodeLists}

variable {targets : List ExitTarget} {r : RouterObject}

/-- **What the choice of an exit obeys.** -/
theorem exit_honoured (hc : Configured F countryCodes config c)
    {draw : Nat} (hexit : c.chooseExitNodeForTargets targets draw = .ok (some r)) :
    (¬ Understood config.exitNodes ∨ Matches countryCodes config.exitNodes (.router r)) ∧
      ¬ Matches countryCodes config.excludeExitNodes (.router r) ∧
      ¬ Matches countryCodes config.excludeNodes (.router r) := by
  obtain ⟨f, hcreate, hspec⟩ := create_spec countryCodes config
  have hfilter : c.configNodeFilter = f := by
    have hsame := hc.filter
    rw [hcreate] at hsame
    exact (Except.ok.inj hsame).symm
  have hmem := chooseByBandwidth_mem _ _ hexit
  unfold filterExitCandidates at hmem
  rw [List.mem_filter, hfilter, hc.countryCodes, hspec r] at hmem
  exact hmem.2

theorem chooseExitPath_ok {exitDraw middleDraw entryDraw : Nat} {path : List Relay} :
    c.chooseExitPath targets exitDraw middleDraw entryDraw = .ok (some path) ↔
      ∃ x, c.chooseExitNodeForTargets targets exitDraw = .ok (some x) ∧
        c.choosePathWithFinal (some x) middleDraw entryDraw = .ok path := by
  unfold chooseExitPath
  rw [except_bind_eq_ok]
  constructor
  · rintro ⟨exit, hexit, hpath⟩
    cases exit with
    | none => cases hpath
    | some x =>
      obtain ⟨path', hpath', hsome⟩ := except_map_eq_ok.mp hpath
      cases hsome
      exact ⟨x, hexit, hpath'⟩
  · rintro ⟨x, hexit, hpath⟩
    exact ⟨some x, hexit, except_map_eq_ok.mpr ⟨path, hpath, rfl⟩⟩

end CircuitPathChooser

/-! ## Routers with nothing in common -/

/-- The routers stand in networks of their own and have no families, and there is no consensus
with weights. -/
structure Directory.Scattered (directory : Directory) : Prop where
  networks : ∀ r ∈ directory.routers.getAllRouters, ∀ r' ∈ directory.routers.getAllRouters,
    Relay.slash16 (.router r) = Relay.slash16 (.router r') → r = r'
  families : ∀ r ∈ directory.routers.getAllRouters, r.impl.getFamilyMembers = []
  unweighted : directory.currentConsensus = none

namespace CircuitPathChooser

variable {D : Type} {c : CircuitPathChooser D} {r : RouterObject} {chosen : List RouterObject}

/-- A choice finds someone if there is someone to find. -/
theorem chooseRandomNode_finds (hdirectory : c.directory.currentConsensus = none)
    (rule : WeightRule) (rf : RouterObject → Bool) (draw : Nat)
    (hr : r ∈ c.directory.routers.getAllRouters) (husable : isUsable true r.impl = true)
    (hrf : rf r = true) :
    ∃ r', chooseRandomNode c.doubles c.directory rule rf draw = .ok (some r') ∧
      r' ∈ c.directory.routers.getAllRouters ∧ isUsable true r'.impl = true ∧ rf r' = true := by
  have hmem : r ∈ getFilteredRouters c.directory rf true :=
    mem_getFilteredRouters.mpr ⟨hr, husable, hrf⟩
  obtain ⟨r', hr', hchoose⟩ := chooseByBandwidth_finds c.doubles c.directory hdirectory hmem rule draw
  exact ⟨r', hchoose, mem_getFilteredRouters.mp hr'⟩

/-- The only candidate is chosen. -/
theorem chooseByBandwidth_singleton (F : Doubles D) {directory : Directory}
    (hdirectory : directory.currentConsensus = none) (rule : WeightRule) (draw : Nat) :
    chooseByBandwidth F directory [r] rule draw = .ok (some r) := by
  obtain ⟨r', hr', hchoose⟩ :=
    chooseByBandwidth_finds F directory hdirectory (List.mem_singleton_self r) rule draw
  rwa [List.mem_singleton.mp hr'] at hchoose

/-- Among scattered routers only those chosen are excluded. -/
theorem isIn_excludedFor_of_scattered (h : c.directory.Scattered)
    (hchosen : ∀ x ∈ chosen, x ∈ c.directory.routers.getAllRouters)
    (hr : r ∈ c.directory.routers.getAllRouters) (hnot : r ∉ chosen) :
    Relay.isIn (.router r) (c.excludedFor chosen) = false := by
  have hother : ∀ x ∈ c.directory.routers.getAllRouters, r ≠ x →
      Relay.equals (.router r) (.router x) = false := by
    intro x hx hne
    apply decide_eq_false
    intro href
    exact hne ((RouterTables.holds_of_mem hr).eq_of_ref (RouterTables.holds_of_mem hx) href)
  induction chosen with
  | nil => rfl
  | cons x chosen ih =>
    have hx : x ∈ c.directory.routers.getAllRouters := hchosen x (List.mem_cons_self ..)
    have hne : r ≠ x := fun heq => hnot (heq ▸ List.mem_cons_self ..)
    have hrest : Relay.isIn (.router r) (c.excludedFor chosen) = false := by
      apply ih
      · intro y hy
        exact hchosen y (List.mem_cons_of_mem _ hy)
      · intro hmem
        exact hnot (List.mem_cons_of_mem _ hmem)
    have hfamily : c.mutualFamily (.router x) = [] := by
      show List.filter _ (x.impl.getFamilyMembers.filterMap _) = []
      rw [h.families x hx]
      rfl
    unfold excludedFor excludeChosenRouterAndRelated
    rw [isIn_append, isIn_append, isIn_append, hfamily]
    refine ⟨⟨⟨hrest, ?_⟩, ?_⟩, rfl⟩
    · unfold Relay.isIn
      simp [hother x hx hne]
    · -- the network of `x` has `x` alone
      unfold Relay.isIn
      rw [List.any_eq_false]
      intro y hy
      obtain ⟨z, hz, rfl⟩ := List.mem_map.mp hy
      rw [List.mem_filter, areInSameSlash16_iff] at hz
      rw [← h.networks x hx z hz.1 hz.2, hother x hx hne]
      exact Bool.false_ne_true

theorem isIn_excludedFor_self (hr : r ∈ chosen) :
    Relay.isIn (.router r) (c.excludedFor chosen) = true := by
  induction chosen with
  | nil => cases hr
  | cons x chosen ih =>
    unfold excludedFor excludeChosenRouterAndRelated Relay.isIn
    rw [List.any_append, List.any_append, List.any_append, Bool.or_eq_true, Bool.or_eq_true,
      Bool.or_eq_true]
    rcases List.mem_cons.mp hr with rfl | hr
    · exact Or.inl (Or.inl (Or.inr (by simp [Relay.equals_self])))
    · exact Or.inl (Or.inl (Or.inl (ih hr)))

/-- There is a middle router if a fast one is left. -/
theorem middle_exists (h : c.directory.Scattered)
    (hchosen : ∀ x ∈ chosen, x ∈ c.directory.routers.getAllRouters) {m₀ : RouterObject}
    (hm₀ : m₀ ∈ c.directory.routers.getAllRouters) (husable : isUsable true m₀.impl = true)
    (hfast : m₀.impl.isFast = true) (hnot : m₀ ∉ chosen) :
    ∃ m, c.chooseMiddleNode (c.excludedFor chosen) 0 = .ok (some m) ∧
      m ∈ c.directory.routers.getAllRouters ∧ m.impl.isFast = true ∧ m ∉ chosen := by
  have hfree := isIn_excludedFor_of_scattered h hchosen hm₀ hnot
  obtain ⟨m, hmiddle, hm, _, hrf⟩ := chooseRandomNode_finds h.unweighted .WEIGHT_FOR_MID
    (fun router => router.impl.isFast && !Relay.isIn (.router router) (c.excludedFor chosen)) 0
    hm₀ husable (by simp [hfast, hfree])
  rw [Bool.and_eq_true, Bool.not_eq_true'] at hrf
  refine ⟨m, hmiddle, hm, hrf.1, ?_⟩
  intro hmem
  rw [isIn_excludedFor_self hmem] at hrf
  cases hrf.2

/-- There is an entry if a guard is left. -/
theorem entry_exists (h : c.directory.Scattered) (hguards : c.useEntryGuards = false)
    (hchosen : ∀ x ∈ chosen, x ∈ c.directory.routers.getAllRouters) {e₀ : RouterObject}
    (he₀ : e₀ ∈ c.directory.routers.getAllRouters) (husable : isUsable true e₀.impl = true)
    (hguard : e₀.impl.isPossibleGuard = true) (hnot : e₀ ∉ chosen) :
    ∃ e, c.chooseEntryNode (c.excludedFor chosen) 0 = .ok (some (.router e)) ∧
      e ∈ c.directory.routers.getAllRouters ∧ e.impl.isPossibleGuard = true := by
  have hfree := isIn_excludedFor_of_scattered h hchosen he₀ hnot
  obtain ⟨e, hentry, he, _, hrf⟩ := chooseRandomNode_finds h.unweighted .WEIGHT_FOR_GUARD
    (fun router => router.impl.isPossibleGuard &&
      !Relay.isIn (.router router) (c.excludedFor chosen)) 0 he₀ husable (by simp [hguard, hfree])
  rw [Bool.and_eq_true] at hrf
  refine ⟨e, ?_, he, hrf.1⟩
  unfold chooseEntryNode
  rw [hguards, if_neg Bool.false_ne_true, hentry]
  rfl

end CircuitPathChooser

/-! ## A directory around a given router -/

/-- The router with other flags, a directory port and a descriptor without a family. -/
def RouterImpl.posing (x : RouterImpl) (flags : List JString) : RouterImpl :=
  { x with
    status := { x.status with flags := flags, directoryPort := 80 }
    descriptor := some { }
    complete := ⟨x.complete.nickname, x.complete.identity, x.complete.address⟩ }

theorem Matches.posing (x : RouterImpl) (flags : List JString) (ref ref' : Nat) :
    Matches countryCodes entries (.router ⟨ref, x.posing flags⟩) ↔
      Matches countryCodes entries (.router ⟨ref', x⟩) :=
  Matches.congr rfl rfl rfl

namespace Sample

/-- Two identities other than the given one. -/
def otherIdentities (d : HexDigest) : HexDigest × HexDigest :=
  if d = identity 1 then (identity 2, identity 3)
  else if d = identity 2 then (identity 1, identity 3)
  else (identity 1, identity 2)

theorem otherIdentities_nodup (d : HexDigest) :
    [d, (otherIdentities d).1, (otherIdentities d).2].Nodup := by
  unfold otherIdentities
  split
  · rename_i h
    rw [h]
    decide
  · rename_i h
    split
    · rename_i h'
      rw [h']
      decide
    · rename_i h'
      have hdecide : identity 1 ≠ identity 2 := by decide
      simp [h, h', hdecide]

/-- A router with the given flags, and two others in networks beside its own. -/
def around (x : RouterImpl) (flags others : List JString) : Directory where
  routers := RouterTables.listed
    [x.posing flags,
      relay (otherIdentities x.identityHash).1 (x.getAddress.addressData ^^^ 0x10000) others,
      relay (otherIdentities x.identityHash).2 (x.getAddress.addressData ^^^ 0x20000) others]
    (otherIdentities_nodup x.identityHash)

def around₀ (x : RouterImpl) (flags : List JString) : RouterObject := ⟨0, x.posing flags⟩

def around₁ (x : RouterImpl) (others : List JString) : RouterObject :=
  ⟨1, relay (otherIdentities x.identityHash).1 (x.getAddress.addressData ^^^ 0x10000) others⟩

def around₂ (x : RouterImpl) (others : List JString) : RouterObject :=
  ⟨2, relay (otherIdentities x.identityHash).2 (x.getAddress.addressData ^^^ 0x20000) others⟩

theorem mem_around {x : RouterImpl} {flags others : List JString} :
    r ∈ (around x flags others).routers.getAllRouters ↔
      r = around₀ x flags ∨ r = around₁ x others ∨ r = around₂ x others := by
  have hall : (around x flags others).routers.getAllRouters =
      [around₀ x flags, around₁ x others, around₂ x others] := rfl
  rw [hall]
  simp

variable (x : RouterImpl)

theorem around_scattered (flags others : List JString) : (around x flags others).Scattered := by
  -- the first sixteen bits differ as what is added to them
  have hapart : ∀ k k' : BitVec 32, k >>> 16 ≠ k' >>> 16 →
      (x.getAddress.addressData ^^^ k) >>> 16 ≠ (x.getAddress.addressData ^^^ k') >>> 16 := by
    intro k k' hne heq
    rw [BitVec.ushiftRight_xor_distrib, BitVec.ushiftRight_xor_distrib] at heq
    exact hne ((BitVec.xor_right_inj _).mp heq)
  have hfirst : Relay.slash16 (.router (around₀ x flags)) =
      (x.getAddress.addressData ^^^ 0#32) >>> 16 := by
    rw [BitVec.xor_zero]
    rfl
  constructor
  case networks =>
    intro r hr r' hr' hsame
    rcases mem_around.mp hr with rfl | rfl | rfl <;> rcases mem_around.mp hr' with rfl | rfl | rfl
    -- unless they are the same, their addresses were made with different numbers
    all_goals
      try simp only [hfirst] at hsame
      first
      | rfl
      | exact absurd hsame (hapart _ _ (by decide))
  case families =>
    intro r hr
    rcases mem_around.mp hr with rfl | rfl | rfl <;> rfl
  case unweighted => rfl

theorem ne_of_ref {o o' : RouterObject} (h : o.ref ≠ o'.ref) : o ≠ o' :=
  fun heq => h (congrArg RouterObject.ref heq)

/-! ## Paths through it -/

def listedFlags : List JString := [lit "Running", lit "Valid"]

def guardFlags : List JString := [lit "Running", lit "Valid", lit "Guard"]

def fastFlags : List JString := [lit "Running", lit "Valid", lit "Fast"]

def exitFlags : List JString := [lit "Running", lit "Valid", lit "Exit"]

def innerFlags : List JString := [lit "Running", lit "Valid", lit "Fast", lit "Guard"]

section Choosers

variable {D : Type} (F : Doubles D) (countryCodes : IPv4Address → JString)
  (filter : TorConfigNodeFilter)

def chooserIn (directory : Directory) : CircuitPathChooser D where
  doubles := F
  directory := directory
  configNodeFilter := filter
  countryCodes := countryCodes

/-- The chooser with one bridge. -/
def chooserWith (b : BridgeRouterImpl) (directory : Directory) : CircuitPathChooser D :=
  { chooserIn F countryCodes filter directory with
    useEntryGuards := true
    useBridges := true
    bridgeRounds := [{ bridgeRouters := [b], bridgesInitialized := true }] }

/-- Any router can be the hop of a directory circuit. -/
theorem directory_router (x : RouterImpl) :
    (chooserIn F countryCodes filter (around x listedFlags [])).Returns .directory
      [.router (around₀ x listedFlags)] := by
  have hcandidates : getFilteredRouters (around x listedFlags [])
      (fun r => r.impl.getDirectoryPort ≠ 0) false = [around₀ x listedFlags] := rfl
  have hchoose : chooseDirectoryRouter F (around x listedFlags []) 0 =
      .ok (some (around₀ x listedFlags)) := by
    unfold chooseDirectoryRouter
    rw [hcandidates]
    exact chooseByBandwidth_singleton F rfl _ _
  refine ⟨0, 0, ?_⟩
  unfold chooseDirectoryPath
  rw [if_neg (by simp [chooserIn])]
  refine except_bind_eq_ok.mpr ⟨.router (around₀ x listedFlags), ?_, rfl⟩
  exact except_bind_eq_ok.mpr ⟨some _, hchoose, rfl⟩

/-- Any bridge can be. -/
theorem directory_bridge (b : BridgeRouterImpl) (directory : Directory) :
    (chooserWith F countryCodes filter b directory).Returns .directory [.bridge b] :=
  ⟨0, 0, rfl⟩

/-- Where the other two routers are the fast ones, they are the end of an internal path. -/
theorem inner_exists (c : CircuitPathChooser D) (x : RouterImpl)
    (hdirectory : c.directory = around x guardFlags fastFlags) :
    ∃ f m, c.chooseMiddleNode [] 0 = .ok (some f) ∧
      c.chooseMiddleNode (c.excludedFor [f]) 0 = .ok (some m) ∧
      (∀ y ∈ [m, f], y ∈ c.directory.routers.getAllRouters) ∧ around₀ x guardFlags ∉ [m, f] := by
  have hscattered : c.directory.Scattered := by
    rw [hdirectory]
    exact around_scattered x guardFlags fastFlags
  have hmem : ∀ r, r ∈ c.directory.routers.getAllRouters ↔
      r = around₀ x guardFlags ∨ r = around₁ x fastFlags ∨ r = around₂ x fastFlags := by
    intro r
    rw [hdirectory]
    exact mem_around
  have hnot : ∀ r, r.impl.isFast = true → around₀ x guardFlags ≠ r := by
    rintro r hfast rfl
    cases hfast
  have hfirst := (hmem (around₁ x fastFlags)).mpr (Or.inr (Or.inl rfl))
  have hsecond := (hmem (around₂ x fastFlags)).mpr (Or.inr (Or.inr rfl))
  obtain ⟨f, hfinal, hf, hfast, _⟩ := middle_exists hscattered
    (by simp) hfirst rfl rfl List.not_mem_nil
  have hone : ∀ y ∈ [f], y ∈ c.directory.routers.getAllRouters := List.forall_mem_singleton.mpr hf
  -- of the two fast routers one is left
  have hmiddle : ∃ m, c.chooseMiddleNode (c.excludedFor [f]) 0 = .ok (some m) ∧
      m ∈ c.directory.routers.getAllRouters ∧ m.impl.isFast = true ∧ m ∉ [f] := by
    by_cases hcase : around₁ x fastFlags ∈ [f]
    · apply middle_exists hscattered hone hsecond rfl rfl
      intro hcase'
      rw [List.mem_singleton] at hcase hcase'
      have hne : around₁ x fastFlags ≠ around₂ x fastFlags := ne_of_ref nofun
      exact hne (hcase.trans hcase'.symm)
    · exact middle_exists hscattered hone hfirst rfl rfl hcase
  obtain ⟨m, hmiddle, hm, hmfast, _⟩ := hmiddle
  refine ⟨f, m, hfinal, hmiddle, List.forall_mem_cons.mpr ⟨hm, hone⟩, ?_⟩
  simp [hnot m hmfast, hnot f hfast]

/-- Any router can be the entry of an internal circuit: in a directory where it is the only
guard. -/
theorem entry_router (x : RouterImpl) :
    ∃ m f, (chooserIn F countryCodes filter (around x guardFlags fastFlags)).Returns .internal
      [.router (around₀ x guardFlags), .router m, .router f] := by
  set c := chooserIn F countryCodes filter (around x guardFlags fastFlags) with hc
  obtain ⟨f, m, hfinal, hmiddle, hboth, hfree⟩ := inner_exists c x rfl
  obtain ⟨e, hentry, he, hguard⟩ := entry_exists
    (around_scattered x guardFlags fastFlags) rfl hboth (mem_around.mpr (Or.inl rfl)) rfl rfl hfree
  have honly : e = around₀ x guardFlags := by
    rcases mem_around.mp he with rfl | rfl | rfl
    · rfl
    · cases hguard
    · cases hguard
  subst honly
  refine ⟨m, f, 0, 0, 0, except_bind_eq_ok.mpr ⟨some f, hfinal, ?_⟩⟩
  exact choosePathWithFinal_ok.mpr ⟨m, _, hmiddle, hentry, rfl⟩

/-- Any bridge can be. -/
theorem entry_bridge (b : BridgeRouterImpl) :
    ∃ m f, (chooserWith F countryCodes filter b (around (router 1) guardFlags fastFlags)).Returns
      .internal [.bridge b, .router m, .router f] := by
  set c := chooserWith F countryCodes filter b (around (router 1) guardFlags fastFlags) with hc
  obtain ⟨f, m, hfinal, hmiddle, _, _⟩ := inner_exists c (router 1) rfl
  obtain ⟨draw, hentry⟩ := (chooseEntryNode_bridge (c := c) rfl rfl [m, f]
    (.bridge b)).mpr ⟨b, List.mem_singleton_self b, rfl⟩
  refine ⟨m, f, 0, 0, draw, except_bind_eq_ok.mpr ⟨some f, hfinal, ?_⟩⟩
  exact choosePathWithFinal_ok.mpr ⟨m, _, hmiddle, hentry, rfl⟩

/-- Any router that the filter admits can be an exit: in a directory where it is the only one. -/
theorem exit_router (x : RouterImpl)
    (hincluded : filter.isExitNodeIncluded countryCodes (around₀ x exitFlags) = true) :
    ∃ e m, (chooserIn F countryCodes filter (around x exitFlags innerFlags)).Returns .exit
      [.router e, .router m, .router (around₀ x exitFlags)] := by
  set c := chooserIn F countryCodes filter (around x exitFlags innerFlags) with hc
  have hscattered : c.directory.Scattered := around_scattered x exitFlags innerFlags
  have hexits : c.getUsableExitRouters = [around₀ x exitFlags] := rfl
  have hexit : c.chooseExitNodeForTargets [] 0 = .ok (some (around₀ x exitFlags)) := by
    have hcandidates : c.configNodeFilter.filterExitCandidates c.countryCodes
        (filterForExitTargets c.getUsableExitRouters []) =
        [around₀ x exitFlags] := by
      rw [hexits]
      show List.filter (filter.isExitNodeIncluded countryCodes) [around₀ x exitFlags] = _
      rw [List.filter_singleton, hincluded]
      rfl
    unfold chooseExitNodeForTargets
    rw [hcandidates]
    exact chooseByBandwidth_singleton F rfl _ _
  have hone : ∀ y ∈ [around₀ x exitFlags], y ∈ c.directory.routers.getAllRouters :=
    List.forall_mem_singleton.mpr (mem_around.mpr (Or.inl rfl))
  have hfirst : around₁ x innerFlags ∈ c.directory.routers.getAllRouters :=
    mem_around.mpr (Or.inr (Or.inl rfl))
  have hsecond : around₂ x innerFlags ∈ c.directory.routers.getAllRouters :=
    mem_around.mpr (Or.inr (Or.inr rfl))
  have hne : around₁ x innerFlags ≠ around₀ x exitFlags := ne_of_ref nofun
  obtain ⟨m, hmiddle, hm, _, hmx⟩ := middle_exists hscattered hone hfirst
    rfl rfl (by simpa using hne)
  have hboth : ∀ y ∈ [m, around₀ x exitFlags], y ∈ c.directory.routers.getAllRouters :=
    List.forall_mem_cons.mpr ⟨hm, hone⟩
  have hentry : ∃ e, c.chooseEntryNode (c.excludedFor [m, around₀ x exitFlags]) 0 =
      .ok (some (.router e)) ∧ e ∈ c.directory.routers.getAllRouters ∧
      e.impl.isPossibleGuard = true := by
    by_cases hcase : around₁ x innerFlags = m
    · apply entry_exists hscattered rfl hboth hsecond rfl rfl
      have hne₁ : around₂ x innerFlags ≠ around₁ x innerFlags := ne_of_ref nofun
      have hne₀ : around₂ x innerFlags ≠ around₀ x exitFlags := ne_of_ref nofun
      simp [← hcase, hne₁, hne₀]
    · apply entry_exists hscattered rfl hboth hfirst rfl rfl
      simp [hcase, hne]
  obtain ⟨e, hentry, _, _⟩ := hentry
  refine ⟨e, m, [], 0, 0, 0, chooseExitPath_ok.mpr ⟨_, hexit, ?_⟩⟩
  exact choosePathWithFinal_ok.mpr ⟨m, _, hmiddle, hentry, rfl⟩

end Choosers

end Sample

/-! ## When a configuration is obeyed -/

section Configuration

variable {D : Type} (F : Doubles D) (countryCodes : IPv4Address → JString) (config : NodeLists)

/-- Every path that a chooser for the configuration returns obeys it. -/
def AlwaysHonoured : Prop :=
  ∀ c : CircuitPathChooser D, Configured F countryCodes config c → ∀ kind path,
    c.Returns kind path → Honoured countryCodes config kind path

variable {F countryCodes config}

theorem AlwaysHonoured.excludes_none (h : AlwaysHonoured F countryCodes config) (r : Relay) :
    ¬ Matches countryCodes config.excludeNodes r := by
  obtain ⟨filter, hfilter, _⟩ := create_spec countryCodes config
  have hrouter : ∀ o : RouterObject, ¬ Matches countryCodes config.excludeNodes (.router o) := by
    intro o hmatches
    have hhonoured := h _ ⟨rfl, rfl, hfilter⟩ _ _ (directory_router F countryCodes filter o.impl)
    apply hhonoured.excluded _ (List.mem_singleton_self _)
    exact (Matches.posing o.impl listedFlags 0 o.ref).mpr hmatches
  cases r with
  | router o => exact hrouter o
  | authority o =>
    intro hmatches
    exact hrouter o ((Matches.congr rfl rfl rfl).mpr hmatches)
  | bridge b =>
    have hhonoured := h _ ⟨rfl, rfl, hfilter⟩ _ _
      (directory_bridge F countryCodes filter b (around (router 1) [] []))
    exact hhonoured.excluded _ (List.mem_singleton_self _)

theorem AlwaysHonoured.entry_all (h : AlwaysHonoured F countryCodes config)
    (hne : config.entryNodes ≠ []) (r : Relay) :
    Matches countryCodes config.entryNodes r := by
  obtain ⟨filter, hfilter, _⟩ := create_spec countryCodes config
  have hrouter : ∀ o : RouterObject, Matches countryCodes config.entryNodes (.router o) := by
    intro o
    obtain ⟨m, f, hpath⟩ := entry_router F countryCodes filter o.impl
    have hhonoured := h _ ⟨rfl, rfl, hfilter⟩ _ _ hpath
    exact (Matches.posing o.impl guardFlags 0 o.ref).mp (hhonoured.entry (by decide) hne _ rfl)
  cases r with
  | router o => exact hrouter o
  | authority o => exact (Matches.congr rfl rfl rfl).mp (hrouter o)
  | bridge b =>
    obtain ⟨m, f, hpath⟩ := entry_bridge F countryCodes filter b
    exact (h _ ⟨rfl, rfl, hfilter⟩ _ _ hpath).entry (by decide) hne _ rfl

theorem AlwaysHonoured.exits_understood (h : AlwaysHonoured F countryCodes config)
    (hne : config.exitNodes ≠ []) (hnot : ¬ Understood config.exitNodes) (o : RouterObject) :
    Matches countryCodes config.excludeExitNodes (.router o) := by
  obtain ⟨filter, hfilter, hspec⟩ := create_spec countryCodes config
  by_contra hadmitted
  -- nothing keeps the router from being an exit, since the list of exits asks nothing
  have hincluded : filter.isExitNodeIncluded countryCodes (around₀ o.impl exitFlags) = true := by
    rw [hspec]
    refine ⟨Or.inl hnot, ?_, h.excludes_none _⟩
    intro hmatches
    exact hadmitted ((Matches.posing o.impl exitFlags 0 o.ref).mp hmatches)
  obtain ⟨e, m, hpath⟩ := exit_router F countryCodes filter o.impl hincluded
  obtain ⟨s, hs, f, hf, _⟩ :=
    ((h _ ⟨rfl, rfl, hfilter⟩ _ _ hpath).exit rfl _ rfl).2 hne
  exact hnot ⟨s, hs, f, hf⟩

end Configuration

/-- **When configured restrictions are honoured.** The paths obey the lists in every directory and
for every draw if and only if `ExcludeNodes` matches no relay, `EntryNodes` is empty or matches
every relay, and `ExitNodes` is empty or has an entry that is understood (or every router is ruled
out as an exit anyway). -/
theorem restrictions_honoured_iff {D : Type} (F : Doubles D) (countryCodes : IPv4Address → JString)
    (config : NodeLists) :
    AlwaysHonoured F countryCodes config ↔
      (∀ r, ¬ Matches countryCodes config.excludeNodes r) ∧
      (config.entryNodes = [] ∨ ∀ r, Matches countryCodes config.entryNodes r) ∧
      (config.exitNodes = [] ∨ Understood config.exitNodes ∨
        ∀ o, Matches countryCodes config.excludeExitNodes (.router o)) := by
  constructor
  · intro h
    refine ⟨h.excludes_none, ?_, ?_⟩
    · by_cases hne : config.entryNodes = []
      · exact Or.inl hne
      · exact Or.inr (h.entry_all hne)
    · by_cases hne : config.exitNodes = []
      · exact Or.inl hne
      · by_cases hunderstood : Understood config.exitNodes
        · exact Or.inr (Or.inl hunderstood)
        · exact Or.inr (Or.inr (h.exits_understood hne hunderstood))
  · rintro ⟨hexcluded, hentry, hexit⟩ c hc kind path hpath
    constructor
    case excluded =>
      intro r _
      exact hexcluded r
    case entry =>
      intro _ hne r _
      rcases hentry with hempty | hall
      · exact absurd hempty hne
      · exact hall r
    case exit =>
      rintro rfl r hr
      obtain ⟨targets, exitDraw, middleDraw, entryDraw, hpath⟩ := hpath
      obtain ⟨x, hx, hpath⟩ := chooseExitPath_ok.mp hpath
      obtain ⟨m, e, _, _, rfl⟩ := choosePathWithFinal_ok.mp hpath
      cases hr
      obtain ⟨hincluded, hnot, _⟩ := exit_honoured hc hx
      refine ⟨hnot, fun hne => ?_⟩
      rcases hexit with hempty | hunderstood | hall
      · exact absurd hempty hne
      · exact hincluded.resolve_left (fun h => h hunderstood)
      · exact absurd (hall x) hnot

namespace Sample

/-- `ExcludeNodes 10.0.0.0/8`: every router of the sample directory. -/
def excludeAll : NodeLists where
  excludeNodes := [lit "10.0.0.0/8"]

def excludeFilter : TorConfigNodeFilter := ⟨some [.mask 0x0A000000 8], none, none, none⟩

def excludeChooser : CircuitPathChooser ℚ :=
  chooserIn Doubles.rational (fun _ => lit "--") excludeFilter directory

end Sample

/-- With every router excluded, paths are made of them all the same. -/
theorem excluded_routers_used :
    Configured Doubles.rational (fun _ => lit "--") excludeAll excludeChooser ∧
      ∃ path, excludeChooser.Returns .internal path ∧ path ≠ [] ∧
        ∀ r ∈ path, Matches (fun _ => lit "--") excludeAll.excludeNodes r := by
  have hcreate : create excludeAll = .ok excludeFilter := by
    decide +kernel
  have hentry : createFilterFor (lit "10.0.0.0/8") = .ok (some (.mask 0x0A000000 8)) := by
    decide +kernel
  have hreturned : (excludeChooser.chooseInternalPath 0 0 0).toOption.any (fun path =>
      !path.isEmpty && path.all fun r =>
        (RouterFilter.mask 0x0A000000 8).filter (fun _ => lit "--") r) = true := by
    decide +kernel
  refine ⟨⟨rfl, rfl, hcreate⟩, ?_⟩
  cases hpath : excludeChooser.chooseInternalPath 0 0 0 with rw [hpath] at hreturned
  | error e =>
    cases hreturned
  | ok path =>
    simp only [Except.toOption, Option.any_some, Bool.and_eq_true, Bool.not_eq_true',
      List.isEmpty_eq_false_iff, List.all_eq_true] at hreturned
    refine ⟨path, ⟨0, 0, 0, hpath⟩, hreturned.1, ?_⟩
    intro r hr
    exact ⟨_, List.mem_singleton_self _, _, hentry, hreturned.2 r hr⟩

end Orchid
