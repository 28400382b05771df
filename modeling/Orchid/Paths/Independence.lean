import Orchid.Lib.Lists
import Orchid.Paths.PathChooser

/-!
# Orchid — paths through independent relays

The relays of a path should not be under one control: they are different, stand in different /16
networks and are not of one family.

* **`separate_of_not_excluded`**: a router of the directory that is not excluded once another is
  chosen is separate from that one. Excluded routers stay excluded.
* **`path_independent`**: so without bridges every path of three hops is made of routers that are
  separate from each other, wherever the entry comes from.
* **`excludes_no_bridge`**: what is excluded are routers of the directory, and a bridge is equal to
  none of them. So with bridges nothing separates the entry from the routers behind it
  (`bridge_path_independent_iff`).
-/

namespace Orchid

open Prog CircuitNodeChooser ConfigNodeFilter Relay CircuitPathChooser

/-! ## Separate relays -/

/-- The first sixteen bits of the address. -/
def Relay.slash16 (r : Relay) : BitVec 32 := r.getAddress.addressData >>> 16

/-- `a` lists a name of `b` in its family. -/
def Relay.Lists (names : JString → Relay → Prop) (a b : Relay) : Prop :=
  ∃ s ∈ a.getFamilyMembers, names s b

/-- Two relays with nothing in common; `names` says which names mean a relay. -/
structure Separate (names : JString → Relay → Prop) (a b : Relay) : Prop where
  different : a.equals b = false
  identities : ∀ identity, a.getIdentityHash = some identity → b.getIdentityHash ≠ some identity
  networks : a.slash16 ≠ b.slash16
  families : ¬ (a.Lists names b ∧ b.Lists names a)

/-- The name leads `getRouterByName` to the relay. -/
def Directory.Resolves (directory : Directory) (s : JString) (r : Relay) : Prop :=
  ∃ member, directory.routers.getRouterByName s = some member ∧
    Relay.equals (.router member) r = true

theorem areInSameSlash16_iff (a b : Relay) :
    areInSameSlash16 a b = true ↔ a.slash16 = b.slash16 := by
  have hmask : (0xFFFF0000#32) = createMask 16 := by decide
  unfold areInSameSlash16 slash16
  rw [decide_eq_true_eq, hmask]
  exact and_createMask_eq_iff (by decide) (by decide) _ _

namespace CircuitPathChooser

variable {D : Type} {c : CircuitPathChooser D}

/-! ## What is excluded -/

variable {r : Relay}

theorem isIn_append {l l' : List Relay} :
    r.isIn (l ++ l') = false ↔ r.isIn l = false ∧ r.isIn l' = false := by
  unfold isIn
  rw [List.any_append, Bool.or_eq_false_iff]

theorem not_isIn {x : Relay} {l : List Relay} (hr : r.isIn l = false) (hx : x ∈ l) :
    r.equals x = false := by
  unfold isIn at hr
  rw [List.any_eq_false] at hr
  simpa using hr x hx

variable {excluded : List Relay}

/-- What is excluded stays excluded. -/
theorem isIn_excluded {x : Relay}
    (hr : r.isIn (c.excludeChosenRouterAndRelated x excluded) = false) :
    r.isIn excluded = false := by
  exact (isIn_append.mp (isIn_append.mp (isIn_append.mp hr).1).1).1

variable {r : RouterObject}

/-- **A router that is not excluded is separate from the router chosen.** -/
theorem separate_of_not_excluded {x : RouterObject} (hx : x ∈ c.directory.routers.getAllRouters)
    (hr : c.Available (c.excludeChosenRouterAndRelated (.router x) excluded) r) :
    Separate c.directory.Resolves (.router r) (.router x) := by
  obtain ⟨hmem, hnot⟩ := hr
  obtain ⟨hnot, hfamily⟩ := isIn_append.mp hnot
  obtain ⟨hnot, hnetwork⟩ := isIn_append.mp hnot
  have hdifferent : equals (.router r) (.router x) = false :=
    not_isIn (isIn_append.mp hnot).2 (List.mem_singleton_self _)
  have hself : equals (.router r) (.router r) = true := equals_self _
  constructor
  case different => exact hdifferent
  case identities =>
    -- a router of the directory is known by its identity
    intro identity hidentity hidentity'
    have hsame : r.impl.identityHash = x.impl.identityHash :=
      Option.some.inj (hidentity.trans hidentity'.symm)
    rw [RouterTables.eq_of_identityHash hmem hx hsame, equals_self] at hdifferent
    cases hdifferent
  case networks =>
    intro hsame
    have hlisted : router r ∈ (c.directory.routers.getAllRouters.filter fun r =>
        areInSameSlash16 (.router x) (.router r)).map router := by
      apply List.mem_map_of_mem
      rw [List.mem_filter, areInSameSlash16_iff]
      exact ⟨hmem, hsame.symm⟩
    rw [not_isIn hnetwork hlisted] at hself
    cases hself
  case families =>
    rintro ⟨⟨t, ht, member, hmember, hequals⟩, s, hs, found, hfound, hequals'⟩
    -- the name in the family of `x` leads to `r` itself, which names `x`
    have hsame : found = r := by
      apply (RouterTables.holds_of_name hfound).eq_of_ref (RouterTables.holds_of_mem hmem)
      simpa [equals] using hequals'
    subst hsame
    have hnames : c.isFamilyMember found.impl.getFamilyMembers (.router x) = true := by
      unfold isFamilyMember
      rw [List.any_eq_true]
      refine ⟨t, ht, ?_⟩
      rw [hmember]
      exact hequals
    have hlisted : router found ∈ (c.mutualFamily (.router x)).map router := by
      apply List.mem_map_of_mem
      unfold mutualFamily
      rw [List.mem_filter, List.mem_filterMap]
      exact ⟨⟨s, hs, hfound⟩, hnames⟩
    rw [not_isIn hfamily hlisted] at hself
    cases hself

/-! ## Paths -/

/-- A path of three hops that the chooser can return, to a final router of the directory. -/
def ThreeHop (c : CircuitPathChooser D) (path : List Relay) : Prop :=
  (∃ f ∈ c.directory.routers.getAllRouters, ∃ middleDraw entryDraw,
      c.choosePathWithFinal (some f) middleDraw entryDraw = .ok path) ∨
    ∃ finalDraw middleDraw entryDraw, c.chooseInternalPath finalDraw middleDraw entryDraw = .ok path

variable {path : List Relay}

/-- The draws behind a path of three hops. -/
theorem threeHop_iff :
    c.ThreeHop path ↔ ∃ f ∈ c.directory.routers.getAllRouters, ∃ middleDraw entryDraw,
      c.choosePathWithFinal (some f) middleDraw entryDraw = .ok path := by
  constructor
  · rintro (hpath | ⟨finalDraw, middleDraw, entryDraw, hpath⟩)
    · exact hpath
    · obtain ⟨f, hf, hpath⟩ := chooseInternalPath_ok hpath
      exact ⟨f, hf, middleDraw, entryDraw, hpath⟩
  · exact Or.inl

/-- The middle router is separate from the final one, with bridges or without. -/
theorem middle_separate {f m : RouterObject} {draw : Nat}
    (hf : f ∈ c.directory.routers.getAllRouters)
    (hmiddle : c.chooseMiddleNode (c.excludedFor [f]) draw = .ok (some m)) :
    Separate c.directory.Resolves (.router m) (.router f) :=
  separate_of_not_excluded hf (chooseMiddleNode_available hmiddle)

/-- **Path independence without bridges.** -/
theorem path_independent (c : CircuitPathChooser D)
    (hbridges : (c.useEntryGuards && c.useBridges) = false) {path : List Relay}
    (hpath : c.ThreeHop path) :
    path.length = 3 ∧ path.Pairwise (Separate c.directory.Resolves) := by
  obtain ⟨f, hf, middleDraw, entryDraw, hpath⟩ := threeHop_iff.mp hpath
  obtain ⟨m, e, hmiddle, hentry, rfl⟩ := choosePathWithFinal_ok.mp hpath
  obtain ⟨r, rfl, hr⟩ := chooseEntryNode_available hbridges hentry
  have hm : m ∈ c.directory.routers.getAllRouters := (chooseMiddleNode_available hmiddle).1
  -- the entry is not excluded by the middle router, nor by the final one before
  have hentryMiddle : Separate c.directory.Resolves (.router r) (.router m) :=
    separate_of_not_excluded hm hr
  have hentryFinal : Separate c.directory.Resolves (.router r) (.router f) :=
    separate_of_not_excluded hf ⟨hr.1, isIn_excluded hr.2⟩
  have hmiddleFinal := middle_separate hf hmiddle
  exact ⟨rfl, Lists.pairwise_three.mpr ⟨⟨hentryMiddle, hentryFinal⟩, hmiddleFinal⟩⟩

end CircuitPathChooser

/-! ### A directory of three routers -/

namespace Sample

def identity (n : Nat) : HexDigest := ⟨List.replicate 20 (UInt8.ofNat n), Or.inl rfl⟩

/-- A relay without a family. -/
def relay (identity : HexDigest) (address : BitVec 32) (flags : List JString) : RouterImpl where
  identityHash := identity
  status :=
    { nickname := some (lit "relay")
      identity := some identity
      address := some ⟨address⟩
      flags := flags }
  descriptor := some { }
  complete := ⟨rfl, rfl, rfl⟩
  identity_eq := rfl

/-- A relay at 10.n.0.1. -/
def router (n : Nat) : RouterImpl :=
  relay (identity n) (BitVec.ofNat 32 (0x0A000001 + 0x10000 * n))
    [lit "Running", lit "Valid", lit "Fast", lit "Guard"]

def directory : Directory where
  routers := RouterTables.listed [router 1, router 2, router 3] (by decide)

def chooser : CircuitPathChooser ℚ where
  doubles := Doubles.rational
  directory := directory
  configNodeFilter := ⟨none, none, none, none⟩
  countryCodes := fun _ => lit "--"

theorem mem_directory :
    r ∈ directory.routers.getAllRouters ↔
      r = ⟨0, router 1⟩ ∨ r = ⟨1, router 2⟩ ∨ r = ⟨2, router 3⟩ := by
  have hall : directory.routers.getAllRouters = [⟨0, router 1⟩, ⟨1, router 2⟩, ⟨2, router 3⟩] := rfl
  rw [hall]
  simp

end Sample

/-- A path without bridges. -/
theorem sample_path_independent :
    ∃ path, Sample.chooser.ThreeHop path ∧ path.length = 3 ∧
      path.Pairwise (Separate Sample.directory.Resolves) := by
  have hreturned :
      (Sample.chooser.choosePathWithFinal (some ⟨0, Sample.router 1⟩) 0 0).isOk = true := by
    decide +kernel
  cases hpath : Sample.chooser.choosePathWithFinal (some ⟨0, Sample.router 1⟩) 0 0 with
  | error e =>
    rw [hpath] at hreturned
    cases hreturned
  | ok path =>
    have hthree : Sample.chooser.ThreeHop path :=
      Or.inl ⟨_, Sample.mem_directory.mpr (Or.inl rfl), 0, 0, hpath⟩
    exact ⟨path, hthree, path_independent Sample.chooser rfl hthree⟩

namespace CircuitPathChooser

variable {D : Type} {c : CircuitPathChooser D}

/-! ## Bridges -/

/-- **What is excluded are routers of the directory**, and no bridge is equal to one. -/
theorem excludes_no_bridge (chosen : List RouterObject) (b : BridgeRouterImpl) :
    isIn (.bridge b) (c.excludedFor chosen) = false := by
  have hrouters : ∀ l : List RouterObject, isIn (.bridge b) (l.map router) = false := by
    intro l
    unfold isIn
    rw [List.any_map]
    exact List.any_eq_false.mpr fun _ _ => Bool.false_ne_true
  induction chosen with
  | nil => rfl
  | cons r chosen ih =>
    unfold excludedFor excludeChosenRouterAndRelated
    rw [isIn_append, isIn_append, isIn_append]
    exact ⟨⟨⟨ih, hrouters [r]⟩, hrouters _⟩, hrouters _⟩

end CircuitPathChooser

namespace Bridges

/-- The bridges that are there when the waiting ends. -/
def found : List Bridges → Option (List BridgeRouterImpl)
  | [] => none
  | bridges :: rounds =>
    if !bridges.bridgesInitialized && bridges.bridgeRouters.isEmpty then found rounds
    else some bridges.bridgeRouters

/-- If no bridge is excluded, the draw is from all that are there. -/
theorem chooseRandomBridge_eq
    (hexcluded : ∀ b, isIn (.bridge b) excluded = false) (draw : Nat) (rounds : List Bridges) :
    chooseRandomBridge excluded draw rounds =
      match found rounds with
      | none => .error .blocked
      | some bridges => .ok bridges[TorRandom.nextInt bridges.length draw]? := by
  induction rounds with
  | nil => rfl
  | cons bridges rounds ih =>
    have hcandidates : bridges.getCandidates excluded = bridges.bridgeRouters := by
      apply List.filter_eq_self.mpr
      intro b _
      rw [hexcluded b]
      rfl
    unfold chooseRandomBridge found
    dsimp only
    rw [hcandidates]
    split
    · exact ih
    · rfl

end Bridges

namespace CircuitPathChooser

variable {D : Type} {c : CircuitPathChooser D}

/-- The bridges one of which becomes the entry. -/
def usableBridges (c : CircuitPathChooser D) : List BridgeRouterImpl :=
  (Bridges.found c.bridgeRounds).getD []

/-- With bridges any usable bridge can become the entry, and nothing else. -/
theorem chooseEntryNode_bridge (hguards : c.useEntryGuards = true) (hbridges : c.useBridges = true)
    (chosen : List RouterObject) (e : Relay) :
    (∃ draw, c.chooseEntryNode (c.excludedFor chosen) draw = .ok (some e)) ↔
      ∃ b ∈ c.usableBridges, e = .bridge b := by
  have hchoose : ∀ draw, c.chooseEntryNode (c.excludedFor chosen) draw = .ok (some e) ↔
      ∃ b, c.usableBridges[TorRandom.nextInt c.usableBridges.length draw]? = some b ∧
        e = .bridge b := by
    intro draw
    unfold chooseEntryNode usableBridges
    rw [if_pos hguards, if_pos hbridges, Bridges.chooseRandomBridge_eq (excludes_no_bridge chosen),
      except_map_eq_ok]
    cases Bridges.found c.bridgeRounds with
    | none => simp
    | some bridges => simp [eq_comm]
  constructor
  · rintro ⟨draw, hdraw⟩
    obtain ⟨b, hb, rfl⟩ := (hchoose draw).mp hdraw
    exact ⟨b, List.mem_of_getElem? hb, rfl⟩
  · rintro ⟨b, hb, rfl⟩
    obtain ⟨i, hi, hget⟩ := List.mem_iff_getElem.mp hb
    refine ⟨i, (hchoose i).mpr ⟨b, ?_, rfl⟩⟩
    unfold TorRandom.nextInt
    rw [Nat.mod_eq_of_lt hi, List.getElem?_eq_getElem hi, hget]

end CircuitPathChooser

/-- The name means the relay: it leads to it, or it is the fingerprint of its identity. A bridge is
not in the directory, so no name leads to it. -/
def Directory.Names (directory : Directory) (s : JString) (r : Relay) : Prop :=
  directory.Resolves s r ∨ ∃ identity, RouterTables.dollarIdentity s = some (.ok identity) ∧
    r.getIdentityHash = some identity

variable {directory : Directory}

/-- For a router of the directory the two are the same. -/
theorem Directory.resolves_of_names {s : JString}
    (hr : r ∈ directory.routers.getAllRouters) (h : directory.Names s (.router r)) :
    directory.Resolves s (.router r) := by
  rcases h with hresolves | ⟨identity, hdollar, hidentity⟩
  · exact hresolves
  · cases hidentity
    refine ⟨r, ?_, equals_self _⟩
    rw [RouterTables.getRouterByName_dollar hdollar]
    exact RouterTables.getRouterByIdentity_identityHash hr

theorem Separate.names {a b : RouterObject}
    (ha : a ∈ directory.routers.getAllRouters) (hb : b ∈ directory.routers.getAllRouters)
    (h : Separate directory.Resolves (.router a) (.router b)) :
    Separate directory.Names (.router a) (.router b) where
  different := h.different
  identities := h.identities
  networks := h.networks
  families := by
    rintro ⟨⟨s, hs, hnames⟩, t, ht, hnames'⟩
    exact h.families ⟨⟨s, hs, Directory.resolves_of_names hb hnames⟩,
      t, ht, Directory.resolves_of_names ha hnames'⟩

namespace CircuitPathChooser

variable {D : Type} {c : CircuitPathChooser D}

/-- The middle routers that can be drawn for a final router. -/
def MayFollow (c : CircuitPathChooser D) (f m : RouterObject) : Prop :=
  ∃ draw, c.chooseMiddleNode (c.excludedFor [f]) draw = .ok (some m)

/-- With bridges a path is a usable bridge, a middle router that can be drawn for the final
router, and the final router. -/
theorem threeHop_bridge (hguards : c.useEntryGuards = true) (hbridges : c.useBridges = true) :
    c.ThreeHop path ↔ ∃ f ∈ c.directory.routers.getAllRouters, ∃ m, c.MayFollow f m ∧
      ∃ b ∈ c.usableBridges, path = [.bridge b, .router m, .router f] := by
  rw [threeHop_iff]
  constructor
  · rintro ⟨f, hf, middleDraw, entryDraw, hpath⟩
    obtain ⟨m, e, hmiddle, hentry, rfl⟩ := choosePathWithFinal_ok.mp hpath
    obtain ⟨b, hb, rfl⟩ := (chooseEntryNode_bridge hguards hbridges [m, f] e).mp ⟨_, hentry⟩
    exact ⟨f, hf, m, ⟨middleDraw, hmiddle⟩, b, hb, rfl⟩
  · rintro ⟨f, hf, m, ⟨middleDraw, hmiddle⟩, b, hb, rfl⟩
    obtain ⟨entryDraw, hentry⟩ :=
      (chooseEntryNode_bridge hguards hbridges [m, f] (.bridge b)).mpr ⟨b, hb, rfl⟩
    exact ⟨f, hf, middleDraw, entryDraw, choosePathWithFinal_ok.mpr ⟨m, _, hmiddle, hentry, rfl⟩⟩

/-- **Path independence with bridges.** The routers behind the bridge are separate from each
other. The bridge is separate from them if and only if it happens to be: every usable bridge has
to be separate from every router that can stand behind it. -/
theorem bridge_path_independent_iff (c : CircuitPathChooser D) (hguards : c.useEntryGuards = true)
    (hbridges : c.useBridges = true) :
    (∀ path, (c.ThreeHop path ∨
        ∃ draw authorityDraw, c.chooseDirectoryPath draw authorityDraw = .ok path) →
      path.Pairwise (Separate c.directory.Names)) ↔
      ∀ b ∈ c.usableBridges, ∀ f ∈ c.directory.routers.getAllRouters, ∀ m, c.MayFollow f m →
        Separate c.directory.Names (.bridge b) (.router m) ∧
          Separate c.directory.Names (.bridge b) (.router f) := by
  constructor
  · intro hpaths b hb f hf m hm
    have hpath := hpaths [.bridge b, .router m, .router f]
      (Or.inl ((threeHop_bridge hguards hbridges).mpr ⟨f, hf, m, hm, b, hb, rfl⟩))
    have hhead := (List.pairwise_cons.mp hpath).1
    exact ⟨hhead _ (by simp), hhead _ (by simp)⟩
  · rintro hseparate path (hpath | ⟨draw, authorityDraw, hpath⟩)
    · obtain ⟨f, hf, m, hm, b, hb, rfl⟩ := (threeHop_bridge hguards hbridges).mp hpath
      obtain ⟨hmiddle, hfinal⟩ := hseparate b hb f hf m hm
      obtain ⟨middleDraw, hdraw⟩ := hm
      have hmem : m ∈ c.directory.routers.getAllRouters := (chooseMiddleNode_available hdraw).1
      have hmiddleFinal := (middle_separate hf hdraw).names hmem hf
      exact Lists.pairwise_three.mpr ⟨⟨hmiddle, hfinal⟩, hmiddleFinal⟩
    · -- the path of a directory circuit has one hop
      unfold chooseDirectoryPath at hpath
      split at hpath
      · obtain ⟨bridge, _, hpath⟩ := except_bind_eq_ok.mp hpath
        cases bridge with
        | none => cases hpath
        | some bridge =>
          cases hpath
          exact List.pairwise_singleton ..
      · obtain ⟨relay, _, hpath⟩ := except_bind_eq_ok.mp hpath
        cases hpath
        exact List.pairwise_singleton ..

end CircuitPathChooser

namespace Sample

/-- The chooser with one bridge, at the given address. -/
def bridged (address : BitVec 32) : CircuitPathChooser ℚ :=
  { chooser with
    useEntryGuards := true
    useBridges := true
    bridgeRounds := [{ bridgeRouters := [⟨⟨address⟩, 443, none, some { }⟩]
                       bridgesInitialized := true }] }

/-- The middle router of a path to the second router. -/
theorem bridged_mayFollow (address : BitVec 32) :
    ∃ m, (bridged address).MayFollow ⟨1, router 2⟩ m := by
  have hsome : ((chooser.chooseMiddleNode (chooser.excludedFor [⟨1, router 2⟩]) 0).toOption.bind
      id).isSome = true := by
    decide +kernel
  obtain ⟨m, hm⟩ := Option.isSome_iff_exists.mp hsome
  obtain ⟨choice, hchoice, hid⟩ := Option.bind_eq_some_iff.mp hm
  cases hchoose : chooser.chooseMiddleNode (chooser.excludedFor [⟨1, router 2⟩]) 0 with
  | error e =>
    rw [hchoose] at hchoice
    cases hchoice
  | ok choice' =>
    rw [hchoose] at hchoice
    cases hchoice
    exact ⟨m, 0, hchoose.trans (congrArg Except.ok hid)⟩

theorem bridged_threeHop (address : BitVec 32) :
    ∃ m, (bridged address).ThreeHop
      [.bridge ⟨⟨address⟩, 443, none, some { }⟩, .router m, .router ⟨1, router 2⟩] := by
  obtain ⟨m, hm⟩ := bridged_mayFollow address
  refine ⟨m, (threeHop_bridge rfl rfl).mpr ?_⟩
  exact ⟨_, mem_directory.mpr (Or.inr (Or.inl rfl)), m, hm, _, List.mem_singleton_self _, rfl⟩

end Sample

/-- A bridge in a network of its own. -/
theorem sample_bridge_independent :
    ∃ path, (Sample.bridged 0x0B090001).ThreeHop path ∧
      path.Pairwise (Separate Sample.directory.Names) := by
  obtain ⟨m, hthree⟩ := Sample.bridged_threeHop 0x0B090001
  have hseparate : ∀ r ∈ Sample.directory.routers.getAllRouters,
      Separate Sample.directory.Names (.bridge ⟨⟨0x0B090001⟩, 443, none, some { }⟩)
        (.router r) := by
    intro r hr
    constructor
    case different => rfl
    case identities =>
      intro identity hidentity
      cases hidentity
    case networks =>
      rcases Sample.mem_directory.mp hr with rfl | rfl | rfl <;> decide
    case families =>
      rintro ⟨⟨s, hs, _⟩, _⟩
      cases hs
  refine ⟨_, hthree, ?_⟩
  apply (bridge_path_independent_iff (Sample.bridged 0x0B090001) rfl rfl).mpr
  · intro b hb f hf m' hm'
    obtain ⟨draw, hdraw⟩ := hm'
    rw [List.mem_singleton.mp hb]
    exact ⟨hseparate m' (chooseMiddleNode_available hdraw).1, hseparate f hf⟩
  · exact Or.inl hthree

/-- A bridge in the /16 network of the final router is not passed over. -/
theorem bridge_beside_final :
    ∃ path, (Sample.bridged 0x0A020909).ThreeHop path ∧
      ¬ path.Pairwise (Separate Sample.directory.Names) := by
  obtain ⟨m, hthree⟩ := Sample.bridged_threeHop 0x0A020909
  refine ⟨_, hthree, ?_⟩
  intro hpairwise
  have hfinal := (List.pairwise_cons.mp hpairwise).1 (.router ⟨1, Sample.router 2⟩) (by simp)
  exact hfinal.networks (by decide)

end Orchid
