import Orchid.Lib.Prog
import Orchid.Paths.NodeFilter

/-!
# Orchid — choosing a path

`CircuitPathChooser` picks the routers of a circuit back to front: a final router, a middle router
and an entry. With each choice the set of excluded routers grows by the router chosen, the routers
of the directory in its /16 network and those of its family. The entry comes from the directory,
from the list of guards or from the bridges.

What is waited for shows in an argument: `guardRounds` are the guard lists that the rounds of
`getMinimumUsableGuards` find, `bridgeRounds` the bridges found after each wait. A selection that
waits on after the last round is `blocked`.

* **`choosePathWithFinal_ok`**: what a path that is returned has gone through.
-/

namespace Orchid

open Prog CircuitNodeChooser

/-- `excluded.contains(router)`. -/
def Relay.isIn (router : Relay) (excluded : List Relay) : Bool := excluded.any router.equals

/-! ## Guards -/

/-- What is read of a `GuardEntryImpl`. -/
structure GuardEntry where
  identity : JString
  downSince : Option Int := none

namespace GuardEntry

variable (directory : Directory)

def getRouterForEntry (entry : GuardEntry) : Except JavaException (Option RouterObject) := do
  return directory.routers.getRouterByIdentity (← HexDigest.createFromString entry.identity)

/-- `testCurrentlyUsable`, apart from the note it takes of the time. -/
def testCurrentlyUsable (entry : GuardEntry) : Except JavaException Bool := do
  match ← entry.getRouterForEntry directory with
  | none => return false
  | some router =>
    return router.impl.isValid && router.impl.isPossibleGuard && router.impl.isRunning

end GuardEntry

namespace EntryGuards

def MIN_USABLE_GUARDS : Nat := 2

def NUM_ENTRY_GUARDS : Nat := 3

variable (directory : Directory) (excluded : List Relay)

def addRouterIfUsableAndNotExcluded (routers : List RouterObject) (entry : GuardEntry) :
    Except JavaException (List RouterObject) := do
  if (← entry.testCurrentlyUsable directory) && entry.downSince.isNone then
    match ← entry.getRouterForEntry directory with
    | none => return routers
    | some r => return if Relay.isIn (.router r) excluded then routers else routers ++ [r]
  else return routers

def getUsableGuardRouters (entries : List GuardEntry) : Except JavaException (List RouterObject) :=
  entries.foldlM (addRouterIfUsableAndNotExcluded directory excluded) []

/-- `getMinimumUsableGuards`. The probes that a round starts show in the lists of later rounds. -/
def getMinimumUsableGuards (minSize : Nat) :
    List (List GuardEntry) → Except JavaException (List RouterObject)
  | [] => .error .blocked
  | entries :: rounds => do
    let usableGuards ← getUsableGuardRouters directory excluded entries
    if usableGuards.length ≥ minSize then return usableGuards
    else getMinimumUsableGuards minSize rounds

/-- `chooseRandomGuard` without bridges. -/
def chooseRandomGuard (guardRounds : List (List GuardEntry)) (draw : Nat) :
    Except JavaException (Option RouterObject) := do
  let usableGuards ← getMinimumUsableGuards directory excluded MIN_USABLE_GUARDS guardRounds
  let n := min usableGuards.length NUM_ENTRY_GUARDS
  return usableGuards[TorRandom.nextInt n draw]?

end EntryGuards

/-- What is read of `Bridges` by a thread that holds its lock. -/
structure Bridges where
  bridgeRouters : List BridgeRouterImpl := []
  bridgesInitialized : Bool := false

namespace Bridges

def getCandidates (bridges : Bridges) (excluded : List Relay) : List BridgeRouterImpl :=
  bridges.bridgeRouters.filter fun br => !Relay.isIn (.bridge br) excluded

/-- `chooseRandomBridge`. -/
def chooseRandomBridge (excluded : List Relay) (draw : Nat) :
    List Bridges → Except JavaException (Option BridgeRouterImpl)
  | [] => .error .blocked
  | bridges :: rounds =>
    let candidates := bridges.getCandidates excluded
    if !bridges.bridgesInitialized && candidates.isEmpty then
      chooseRandomBridge excluded draw rounds
    else .ok candidates[TorRandom.nextInt candidates.length draw]?

end Bridges

/-! ## Paths -/

/-- An `ExitTarget`; without an address only the port counts. -/
structure ExitTarget where
  address : Option IPv4Address := none
  port : Int

/-- `CircuitPathChooser` with what one selection finds in its objects. -/
structure CircuitPathChooser (D : Type) where
  doubles : Doubles D
  directory : Directory
  configNodeFilter : TorConfigNodeFilter
  countryCodes : IPv4Address → JString
  useEntryGuards : Bool := false
  useBridges : Bool := false
  guardRounds : List (List GuardEntry) := []
  bridgeRounds : List Bridges := []

namespace CircuitPathChooser

variable {D : Type} (c : CircuitPathChooser D)

/-- `areInSameSlash16`. -/
def areInSameSlash16 (r1 r2 : Relay) : Bool :=
  r1.getAddress.addressData &&& 0xFFFF0000#32 = r2.getAddress.addressData &&& 0xFFFF0000#32

def isFamilyMember (familyMemberNames : List JString) (r : Relay) : Bool :=
  familyMemberNames.any fun s =>
    match c.directory.routers.getRouterByName s with
    | some member => Relay.equals (.router member) r
    | none => false

/-- The routers that the names of a family lead to, if they name the router too. -/
def mutualFamily (router : Relay) : List RouterObject :=
  (router.getFamilyMembers.filterMap c.directory.routers.getRouterByName).filter fun r =>
    c.isFamilyMember r.impl.getFamilyMembers router

/-- `excludeChosenRouterAndRelated`: the router, its network and its family. -/
def excludeChosenRouterAndRelated (router : Relay) (excludedRouters : List Relay) : List Relay :=
  excludedRouters ++ [router] ++
    (c.directory.routers.getAllRouters.filter fun r => areInSameSlash16 router (.router r)).map
      Relay.router ++
    (c.mutualFamily router).map Relay.router

def chooseMiddleNode (excludedRouters : List Relay) (draw : Nat) :
    Except JavaException (Option RouterObject) :=
  chooseRandomNode c.doubles c.directory .WEIGHT_FOR_MID
    (fun router => router.impl.isFast && !Relay.isIn (.router router) excludedRouters) draw

def chooseEntryNode (excludedRouters : List Relay) (draw : Nat) :
    Except JavaException (Option Relay) :=
  if c.useEntryGuards then
    if c.useBridges then
      Option.map .bridge <$> Bridges.chooseRandomBridge excludedRouters draw c.bridgeRounds
    else Option.map .router <$>
      EntryGuards.chooseRandomGuard c.directory excludedRouters c.guardRounds draw
  else Option.map .router <$> chooseRandomNode c.doubles c.directory .WEIGHT_FOR_GUARD
    (fun router => router.impl.isPossibleGuard && !Relay.isIn (.router router) excludedRouters)
    draw

/-- `choosePathWithFinal` and `choosePathWithExit`. -/
def choosePathWithFinal (finalRouter : Option RouterObject) (middleDraw entryDraw : Nat) :
    Except JavaException (List Relay) :=
  match finalRouter with
  | none => .error .nullPointer
  | some finalRouter => do
    let excluded := c.excludeChosenRouterAndRelated (.router finalRouter) []
    match ← c.chooseMiddleNode excluded middleDraw with
    | none => throw (.pathSelectionFailed (lit "Failed to select suitable middle node"))
    | some middleRouter =>
      let excluded := c.excludeChosenRouterAndRelated (.router middleRouter) excluded
      match ← c.chooseEntryNode excluded entryDraw with
      | none => throw (.pathSelectionFailed (lit "Failed to select suitable entry node"))
      | some entryRouter => return [entryRouter, .router middleRouter, .router finalRouter]

def chooseInternalPath (finalDraw middleDraw entryDraw : Nat) :
    Except JavaException (List Relay) := do
  c.choosePathWithFinal (← c.chooseMiddleNode [] finalDraw) middleDraw entryDraw

/-- `chooseDirectory`; without a choice it is one of the authorities. -/
def chooseDirectory (draw authorityDraw : Nat) : Except JavaException Relay := do
  match ← chooseDirectoryRouter c.doubles c.directory draw with
  | some choice => return .router choice
  | none =>
    let servers := c.directory.authorities
    match servers[TorRandom.nextInt servers.length authorityDraw]? with
    | some server => return .authority server
    | none => throw (.illegalArgument [])

def chooseDirectoryPath (draw authorityDraw : Nat) : Except JavaException (List Relay) := do
  if c.useEntryGuards && c.useBridges then
    match ← Bridges.chooseRandomBridge [] draw c.bridgeRounds with
    | none => throw (.illegalState (lit "Failed to choose bridge for directory request"))
    | some bridge => return [.bridge bridge]
  else return [← c.chooseDirectory draw authorityDraw]

/-! ### Exits -/

def getUsableExitRouters : List RouterObject :=
  (getUsableRouters c.directory true).filter fun r => r.impl.isExit && !r.impl.isBadExit

def countTargetSupport (router : RouterObject) (targets : List ExitTarget) : Nat :=
  targets.countP fun t => router.impl.exitPolicyAccepts t.address t.port

/-- `filterForExitTargets`: the routers that support most of the targets. -/
def filterForExitTargets (routers : List RouterObject) (exitTargets : List ExitTarget) :
    List RouterObject :=
  if exitTargets.isEmpty then routers
  else
    let bestSupport := routers.foldl (fun best r => max best (countTargetSupport r exitTargets)) 0
    if bestSupport = 0 then routers
    else routers.filter fun r => countTargetSupport r exitTargets = bestSupport

def chooseExitNodeForTargets (targets : List ExitTarget) (draw : Nat) :
    Except JavaException (Option RouterObject) :=
  chooseByBandwidth c.doubles c.directory
    (c.configNodeFilter.filterExitCandidates c.countryCodes
      (filterForExitTargets c.getUsableExitRouters targets))
    .WEIGHT_FOR_EXIT draw

/-- `launchBuildTaskForTargets` up to the path of the circuit; without an exit there is none. -/
def chooseExitPath (targets : List ExitTarget) (exitDraw middleDraw entryDraw : Nat) :
    Except JavaException (Option (List Relay)) := do
  match ← c.chooseExitNodeForTargets targets exitDraw with
  | none => return none
  | some exitRouter => some <$> c.choosePathWithFinal (some exitRouter) middleDraw entryDraw

/-! ## What is chosen -/

/-- The routers a selection may still use. -/
def Available (excluded : List Relay) (r : RouterObject) : Prop :=
  r ∈ c.directory.routers.getAllRouters ∧ Relay.isIn (.router r) excluded = false

variable {c} {r : RouterObject} {excluded : List Relay}

variable {needDescriptor : Bool} {directory : Directory}

theorem mem_getUsableRouters :
    r ∈ getUsableRouters directory needDescriptor ↔
      r ∈ directory.routers.getAllRouters ∧ isUsable needDescriptor r.impl = true := by
  unfold getUsableRouters
  rw [List.mem_filter]

theorem mem_getFilteredRouters {rf : RouterObject → Bool} :
    r ∈ getFilteredRouters directory rf needDescriptor ↔
      r ∈ directory.routers.getAllRouters ∧ isUsable needDescriptor r.impl = true ∧
        rf r = true := by
  unfold getFilteredRouters
  rw [List.mem_filter, mem_getUsableRouters, and_assoc]

theorem chooseMiddleNode_available {draw : Nat}
    (hchoose : c.chooseMiddleNode excluded draw = .ok (some r)) : c.Available excluded r := by
  have hmem := chooseByBandwidth_mem _ _ hchoose
  rw [mem_getFilteredRouters, Bool.and_eq_true, Bool.not_eq_true'] at hmem
  exact ⟨hmem.1, hmem.2.2.2⟩

/-- One guard entry adds a router that may be used, or none. -/
theorem addRouterIfUsable_available {routers routers' : List RouterObject} {entry : GuardEntry}
    (hadd : EntryGuards.addRouterIfUsableAndNotExcluded c.directory excluded routers entry =
      .ok routers') (hrouters : ∀ r ∈ routers, c.Available excluded r) :
    ∀ r ∈ routers', c.Available excluded r := by
  obtain ⟨usable, _, hadd⟩ := except_bind_eq_ok.mp hadd
  split at hadd
  · obtain ⟨found, hfound, hadd⟩ := except_bind_eq_ok.mp hadd
    obtain ⟨identity, _, hfound⟩ := except_bind_eq_ok.mp hfound
    cases found with
    | none =>
      cases hadd
      exact hrouters
    | some r =>
      dsimp only at hadd
      split at hadd
      · cases hadd
        exact hrouters
      · rename_i hexcluded
        cases hadd
        intro r' hr'
        rcases List.mem_append.mp hr' with hold | hnew
        · exact hrouters r' hold
        · rw [List.mem_singleton.mp hnew]
          refine ⟨?_, by simpa using hexcluded⟩
          exact RouterTables.getRouterByIdentity_mem (Except.ok.inj hfound)
  · cases hadd
    exact hrouters

variable {guards : List RouterObject}

theorem getUsableGuardRouters_available {entries : List GuardEntry}
    (hguards : EntryGuards.getUsableGuardRouters c.directory excluded entries = .ok guards) :
    ∀ r ∈ guards, c.Available excluded r := by
  have hloop : ∀ (entries : List GuardEntry) (routers : List RouterObject),
      entries.foldlM (EntryGuards.addRouterIfUsableAndNotExcluded c.directory excluded) routers =
        .ok guards →
      (∀ r ∈ routers, c.Available excluded r) → ∀ r ∈ guards, c.Available excluded r := by
    intro entries
    induction entries with
    | nil =>
      intro routers hfold hrouters
      cases hfold
      exact hrouters
    | cons entry rest ih =>
      intro routers hfold hrouters
      rw [List.foldlM_cons] at hfold
      obtain ⟨routers', hadd, hfold⟩ := except_bind_eq_ok.mp hfold
      exact ih routers' hfold (addRouterIfUsable_available hadd hrouters)
  exact hloop entries [] hguards (by simp)

theorem getMinimumUsableGuards_available {minSize : Nat} {rounds : List (List GuardEntry)}
    (hguards : EntryGuards.getMinimumUsableGuards c.directory excluded minSize rounds =
      .ok guards) :
    ∀ r ∈ guards, c.Available excluded r := by
  induction rounds with
  | nil => cases hguards
  | cons entries rounds ih =>
    obtain ⟨usable, husable, hguards⟩ := except_bind_eq_ok.mp hguards
    split at hguards
    · cases hguards
      exact getUsableGuardRouters_available husable
    · exact ih hguards

/-- An entry that is not a bridge is a router of the directory that is not excluded. -/
theorem chooseEntryNode_available {draw : Nat} {e : Relay}
    (hbridges : (c.useEntryGuards && c.useBridges) = false)
    (hchoose : c.chooseEntryNode excluded draw = .ok (some e)) :
    ∃ r, e = .router r ∧ c.Available excluded r := by
  unfold chooseEntryNode at hchoose
  split at hchoose
  · rename_i hguards
    rw [hguards, Bool.true_and] at hbridges
    rw [hbridges, if_neg Bool.false_ne_true] at hchoose
    obtain ⟨choice, hchoice, hmap⟩ := except_map_eq_ok.mp hchoose
    obtain ⟨r, rfl, rfl⟩ := Option.map_eq_some_iff.mp hmap
    obtain ⟨guards, hminimum, hchoice⟩ := except_bind_eq_ok.mp hchoice
    exact ⟨r, rfl, getMinimumUsableGuards_available hminimum r
      (List.mem_of_getElem? (Except.ok.inj hchoice))⟩
  · obtain ⟨choice, hchoice, hmap⟩ := except_map_eq_ok.mp hchoose
    obtain ⟨r, rfl, rfl⟩ := Option.map_eq_some_iff.mp hmap
    have hmem := chooseByBandwidth_mem _ _ hchoice
    rw [mem_getFilteredRouters, Bool.and_eq_true, Bool.not_eq_true'] at hmem
    exact ⟨r, rfl, hmem.1, hmem.2.2.2⟩

/-- The routers excluded once the final router is chosen, and once the middle router is too. -/
def excludedFor (c : CircuitPathChooser D) : List RouterObject → List Relay
  | [] => []
  | r :: chosen => c.excludeChosenRouterAndRelated (.router r) (c.excludedFor chosen)

variable {path : List Relay}

/-- **What a path that is returned has gone through.** -/
theorem choosePathWithFinal_ok {f : RouterObject} {middleDraw entryDraw : Nat} :
    c.choosePathWithFinal (some f) middleDraw entryDraw = .ok path ↔
      ∃ m e, c.chooseMiddleNode (c.excludedFor [f]) middleDraw = .ok (some m) ∧
        c.chooseEntryNode (c.excludedFor [m, f]) entryDraw = .ok (some e) ∧
        path = [e, .router m, .router f] := by
  constructor
  · intro hpath
    obtain ⟨middle, hmiddle, hpath⟩ := except_bind_eq_ok.mp hpath
    cases middle with
    | none => cases hpath
    | some m =>
      obtain ⟨entry, hentry, hpath⟩ := except_bind_eq_ok.mp hpath
      cases entry with
      | none => cases hpath
      | some e =>
        cases hpath
        exact ⟨m, e, hmiddle, hentry, rfl⟩
  · rintro ⟨m, e, hmiddle, hentry, rfl⟩
    refine except_bind_eq_ok.mpr ⟨some m, hmiddle, ?_⟩
    exact except_bind_eq_ok.mpr ⟨some e, hentry, rfl⟩

theorem chooseInternalPath_ok {finalDraw middleDraw entryDraw : Nat}
    (hpath : c.chooseInternalPath finalDraw middleDraw entryDraw = .ok path) :
    ∃ f ∈ c.directory.routers.getAllRouters,
      c.choosePathWithFinal (some f) middleDraw entryDraw = .ok path := by
  obtain ⟨final, hfinal, hpath⟩ := except_bind_eq_ok.mp hpath
  cases final with
  | none => cases hpath
  | some f => exact ⟨f, (chooseMiddleNode_available hfinal).1, hpath⟩

end CircuitPathChooser

end Orchid
