import Orchid.Consensus.Document

/-!
# Orchid — the routers of a directory

`DirectoryImpl` keeps a `RouterImpl` object for each running relay of the current consensus, in
one table by identity and in another by nickname. The objects outlive a consensus: a relay that
is still listed keeps its object, which gets a new status. So the tables hold references here,
positions in the list of all objects made.

* `RouterTables` carries what the tables keep: the object found under an identity has that
  identity.
* **`RouterTables.eq_of_identityHash`**: so a relay of the directory is known by its identity.
* **`RouterTables.getRouterByIdentity_mem`**: and what a lookup finds is one of `getAllRouters`.
-/

namespace Orchid

/-! ## Routers -/

namespace RouterStatus

def hasFlag (status : RouterStatus) (flag : JString) : Bool := status.flags.contains flag

/-- The fields of the `r` line, which the parser sets before any other of an entry. -/
structure Complete (status : RouterStatus) : Prop where
  nickname : status.nickname.isSome
  identity : status.identity.isSome
  address : status.address.isSome

instance (status : RouterStatus) : Decidable status.Complete :=
  decidable_of_iff (status.nickname.isSome ∧ status.identity.isSome ∧ status.address.isSome)
    ⟨fun h => ⟨h.1, h.2.1, h.2.2⟩, fun h => ⟨h.nickname, h.identity, h.address⟩⟩

end RouterStatus

/-- What is read of a descriptor or microdescriptor. Its exit policy is asked for a port alone or
for an address and a port. -/
structure Descriptor where
  isRouterDescriptor : Bool := false
  isHibernating : Bool := false
  familyMembers : List JString := []
  exitPolicyAccepts : Option IPv4Address → Int → Bool := fun _ _ => false

/-- `RouterImpl`; `descriptor` is what `refreshDescriptor` leaves there. -/
structure RouterImpl where
  identityHash : HexDigest
  status : RouterStatus
  descriptor : Option Descriptor := none
  complete : status.Complete
  /-- `updateStatus` refuses the status of another identity. -/
  identity_eq : status.identity = some identityHash

namespace RouterImpl

variable (r : RouterImpl)

def getNickname : JString := r.status.nickname.get r.complete.nickname

def getAddress : IPv4Address := r.status.address.get r.complete.address

def isRunning : Bool := r.status.hasFlag (lit "Running")

def isValid : Bool := r.status.hasFlag (lit "Valid")

def isBadExit : Bool := r.status.hasFlag (lit "BadExit")

def isPossibleGuard : Bool := r.status.hasFlag (lit "Guard")

def isExit : Bool := r.status.hasFlag (lit "Exit")

def isFast : Bool := r.status.hasFlag (lit "Fast")

def getDirectoryPort : Int := r.status.directoryPort

def hasBandwidth : Bool := r.status.hasBandwidth

def getEstimatedBandwidth : Int := r.status.bandwidthEstimate

/-- A microdescriptor does not say whether the relay hibernates. -/
def isHibernating : Bool :=
  match r.descriptor with
  | some d => d.isRouterDescriptor && d.isHibernating
  | none => false

def getFamilyMembers : List JString :=
  match r.descriptor with
  | some d => d.familyMembers
  | none => []

def exitPolicyAccepts (address : Option IPv4Address) (port : Int) : Bool :=
  match r.descriptor with
  | some d => d.exitPolicyAccepts address port
  | none => false

end RouterImpl

/-- A reference to a router, with what the object holds. References are compared, since
`RouterImpl` does not define `equals`. -/
structure RouterObject where
  ref : Nat
  impl : RouterImpl

/-! ## The tables -/

/-- The tables of `DirectoryImpl`, over all router objects it has made. -/
structure RouterTables where
  objects : List RouterImpl := []
  routersByIdentity : JMap HexDigest Nat := ∅
  routersByNickname : JMap JString Nat := ∅
  /-- A router is filed under its own identity. -/
  keyed : ∀ identity ref, routersByIdentity.lookup identity = some ref →
    ∃ r, objects[ref]? = some r ∧ r.identityHash = identity

namespace RouterTables

variable (t : RouterTables)

def object (ref : Nat) : Option RouterObject := t.objects[ref]?.map (RouterObject.mk ref)

/-- `getAllRouters`, in the order the identity table delivers its values. -/
def getAllRouters : List RouterObject :=
  (t.routersByIdentity.entries.map (·.2)).filterMap t.object

def getRouterByIdentity (identity : HexDigest) : Option RouterObject :=
  (t.routersByIdentity.lookup identity).bind t.object

/-- The identity a name gives with a dollar sign, `none` for any other name. -/
def dollarIdentity (name : JString) : Option (Except JavaException HexDigest) :=
  if name.length = 41 ∧ name.head? = some '$' then
    some (HexDigest.createFromString (name.drop 1))
  else none

/-- `getRouterByName`; an identity that is not well formed is caught there. -/
def getRouterByName (name : JString) : Option RouterObject :=
  if name = lit "Unnamed" then none
  else
    match dollarIdentity name with
    | some (.ok identity) => t.getRouterByIdentity identity
    | some (.error _) => none
    | none => (t.routersByNickname.lookup name).bind t.object

variable {t} {r : RouterObject} {ref : Nat}

theorem object_eq_some : t.object ref = some r ↔ r.ref = ref ∧ t.objects[ref]? = some r.impl := by
  unfold object
  rw [Option.map_eq_some_iff]
  constructor
  · rintro ⟨impl, himpl, rfl⟩
    exact ⟨rfl, himpl⟩
  · rintro ⟨rfl, himpl⟩
    exact ⟨r.impl, himpl, rfl⟩

theorem mem_getAllRouters :
    r ∈ t.getAllRouters ↔
      ∃ identity, t.routersByIdentity.lookup identity = some r.ref ∧
        t.objects[r.ref]? = some r.impl := by
  unfold getAllRouters
  rw [List.mem_filterMap]
  constructor
  · rintro ⟨ref, href, hobject⟩
    rw [object_eq_some] at hobject
    obtain ⟨entry, hentry, rfl⟩ := List.mem_map.mp href
    refine ⟨entry.1, ?_, ?_⟩
    · rw [hobject.1]
      exact AList.mem_lookup_iff.mpr hentry
    · rw [hobject.1]
      exact hobject.2
  · rintro ⟨identity, hlookup, himpl⟩
    refine ⟨r.ref, ?_, object_eq_some.mpr ⟨rfl, himpl⟩⟩
    exact List.mem_map.mpr ⟨⟨identity, r.ref⟩, AList.mem_lookup_iff.mp hlookup, rfl⟩

variable {identity : HexDigest}

theorem getRouterByIdentity_mem
    (hr : t.getRouterByIdentity identity = some r) : r ∈ t.getAllRouters := by
  obtain ⟨ref, hlookup, hobject⟩ := Option.bind_eq_some_iff.mp hr
  rw [object_eq_some] at hobject
  apply mem_getAllRouters.mpr
  refine ⟨identity, ?_, ?_⟩
  · rw [hobject.1]
    exact hlookup
  · rw [hobject.1]
    exact hobject.2

/-- The directory files a router under its identity. -/
theorem lookup_identityHash (hr : r ∈ t.getAllRouters) :
    t.routersByIdentity.lookup r.impl.identityHash = some r.ref := by
  obtain ⟨identity, hlookup, himpl⟩ := mem_getAllRouters.mp hr
  obtain ⟨impl, himpl', hidentity⟩ := t.keyed identity r.ref hlookup
  cases himpl.symm.trans himpl'
  rw [hidentity]
  exact hlookup

theorem getRouterByIdentity_identityHash (hr : r ∈ t.getAllRouters) :
    t.getRouterByIdentity r.impl.identityHash = some r := by
  obtain ⟨_, _, himpl⟩ := mem_getAllRouters.mp hr
  unfold getRouterByIdentity
  rw [lookup_identityHash hr]
  exact object_eq_some.mpr ⟨rfl, himpl⟩

/-- What a reference refers to. -/
def Holds (t : RouterTables) (r : RouterObject) : Prop := t.objects[r.ref]? = some r.impl

theorem holds_of_mem (hr : r ∈ t.getAllRouters) : t.Holds r := by
  obtain ⟨_, _, himpl⟩ := mem_getAllRouters.mp hr
  exact himpl

theorem holds_of_object (hr : t.object ref = some r) : t.Holds r := by
  obtain ⟨rfl, himpl⟩ := object_eq_some.mp hr
  exact himpl

theorem holds_of_name {name : JString} (hr : t.getRouterByName name = some r) : t.Holds r := by
  unfold getRouterByName getRouterByIdentity at hr
  split at hr
  · cases hr
  · split at hr
    · obtain ⟨_, _, hobject⟩ := Option.bind_eq_some_iff.mp hr
      exact holds_of_object hobject
    · cases hr
    · obtain ⟨_, _, hobject⟩ := Option.bind_eq_some_iff.mp hr
      exact holds_of_object hobject

variable {r' : RouterObject}

theorem Holds.eq_of_ref (hr : t.Holds r) (hr' : t.Holds r') (href : r.ref = r'.ref) : r = r' := by
  unfold Holds at hr hr'
  rw [href, hr', Option.some.injEq] at hr
  cases r
  cases r'
  cases href
  cases hr
  rfl

/-- **A router of the directory is known by its identity.** -/
theorem eq_of_identityHash (hr : r ∈ t.getAllRouters)
    (hr' : r' ∈ t.getAllRouters) (hidentity : r.impl.identityHash = r'.impl.identityHash) :
    r = r' := by
  apply (holds_of_mem hr).eq_of_ref (holds_of_mem hr')
  have hlookup := lookup_identityHash hr
  rw [hidentity, lookup_identityHash hr'] at hlookup
  exact (Option.some.inj hlookup).symm

theorem getRouterByName_dollar {name : JString}
    (hname : dollarIdentity name = some (.ok identity)) :
    t.getRouterByName name = t.getRouterByIdentity identity := by
  have hlen : name.length = 41 := by
    unfold dollarIdentity at hname
    split at hname
    · rename_i hdollar
      exact hdollar.1
    · cases hname
  have hnamed : name ≠ lit "Unnamed" := by
    intro heq
    rw [heq] at hlen
    cases hlen
  unfold getRouterByName
  rw [if_neg hnamed, hname]

/-! ## Changing the tables -/

/-- `clearAll`, for the two tables. The objects stay, as somebody may refer to them. -/
def clearAll (t : RouterTables) : RouterTables where
  objects := t.objects
  keyed := by
    intro identity ref hlookup
    rw [AList.lookup_empty] at hlookup
    cases hlookup

/-- A new object, which has the next reference and is in no table yet. -/
def create (t : RouterTables) (r : RouterImpl) : RouterTables :=
  { t with
    objects := t.objects ++ [r]
    keyed := by
      intro identity ref hlookup
      obtain ⟨r', hr', hidentity⟩ := t.keyed identity ref hlookup
      have hlt : ref < t.objects.length := (List.getElem?_eq_some_iff.mp hr').1
      refine ⟨r', ?_, hidentity⟩
      rw [List.getElem?_append_left hlt]
      exact hr' }

/-- `updateStatus`, with the object as it then is: it must have the identity of the old one. -/
def updateStatus (t : RouterTables) (ref : Nat) (r : RouterImpl) :
    Except JavaException RouterTables :=
  match hold : t.objects[ref]? with
  | none => .error .nullPointer
  | some old =>
    if hr : old.identityHash = r.identityHash then
      .ok { t with
        objects := t.objects.set ref r
        keyed := by
          intro identity ref' hlookup
          obtain ⟨r', hr', hidentity⟩ := t.keyed identity ref' hlookup
          have hlt : ref' < t.objects.length := (List.getElem?_eq_some_iff.mp hr').1
          rw [List.getElem?_set]
          rcases eq_or_ne ref ref' with rfl | href
          · rw [hold, Option.some.injEq] at hr'
            subst hr'
            refine ⟨r, ?_, ?_⟩
            · rw [if_pos rfl, if_pos hlt]
            · rw [← hr]
              exact hidentity
          · rw [if_neg href]
            exact ⟨r', hr', hidentity⟩ }
    else .error (.tor (lit "Identity hash does not match status update"))

/-- `addRouterByNickname`: the first router of a name has it. -/
def addRouterByNickname (routersByNickname : JMap JString Nat) (name : JString) (ref : Nat) :
    JMap JString Nat :=
  if name = lit "Unnamed" then routersByNickname
  else if (routersByNickname.lookup name).isSome then routersByNickname
  else routersByNickname.insert name ref

/-- `addRouter`, for the router with a reference. -/
def addRouter (t : RouterTables) (ref : Nat) : RouterTables :=
  match hr : t.objects[ref]? with
  | none => t
  | some r =>
    { t with
      routersByIdentity := t.routersByIdentity.insert r.identityHash ref
      routersByNickname := addRouterByNickname t.routersByNickname r.getNickname ref
      keyed := by
        intro identity ref' hlookup
        rcases eq_or_ne identity r.identityHash with rfl | hidentity
        · rw [AList.lookup_insert] at hlookup
          cases hlookup
          exact ⟨r, hr, rfl⟩
        · rw [AList.lookup_insert_ne hidentity] at hlookup
          exact t.keyed identity ref' hlookup }

theorem updateStatus_ok {t : RouterTables} {old r : RouterImpl} (hold : t.objects[ref]? = some old)
    (hr : old.identityHash = r.identityHash) :
    ∃ t', t.updateStatus ref r = .ok t' ∧ t'.objects = t.objects.set ref r := by
  unfold updateStatus
  split
  · rename_i hnone
    cases hold.symm.trans hnone
  · rename_i old' hold'
    rw [hold, Option.some.injEq] at hold'
    subst hold'
    rw [dif_pos hr]
    exact ⟨_, rfl, rfl⟩

@[simp] theorem addRouter_objects (t : RouterTables) (ref : Nat) :
    (t.addRouter ref).objects = t.objects := by
  unfold addRouter
  split
  · rfl
  · rfl

/-! ## Tables for given routers -/

/-- The entries of the identity table for given routers, each with its position. -/
def listedEntries (l : List RouterImpl) : List (Sigma fun _ : HexDigest => Nat) :=
  l.zipIdx.map fun p => ⟨p.1.identityHash, p.2⟩

theorem keys_listedEntries (l : List RouterImpl) :
    (listedEntries l).keys = l.map RouterImpl.identityHash := by
  calc (listedEntries l).keys = (l.zipIdx.map Prod.fst).map RouterImpl.identityHash := by
        unfold listedEntries List.keys
        rw [List.map_map, List.map_map]
        rfl
    _ = l.map RouterImpl.identityHash := by rw [List.zipIdx_map_fst]

/-- The tables of a directory with the given routers, none of which goes by a nickname. -/
def listed (l : List RouterImpl) (hnodup : (l.map RouterImpl.identityHash).Nodup) :
    RouterTables where
  objects := l
  routersByIdentity := ⟨listedEntries l, by
    unfold List.NodupKeys
    rw [keys_listedEntries]
    exact hnodup⟩
  keyed := by
    intro identity ref hlookup
    obtain ⟨p, hp, hentry⟩ := List.mem_map.mp (AList.mem_lookup_iff.mp hlookup)
    cases hentry
    exact ⟨p.1, List.mem_zipIdx_iff_getElem?.mp hp, rfl⟩

end RouterTables

end Orchid
