import Mathlib
import Orchid.Directory.FieldEscapes
import Orchid.Paths.NodeChooser

/-!
# Orchid — configured restrictions on nodes

`ConfigNodeFilter` reads the entries of `ExcludeNodes`, `ExcludeExitNodes`, `ExitNodes` and
`EntryNodes`: an address with a mask, a country code, a fingerprint or a nickname. Entries it does
not understand are left out.

* **`createFilterFor_total`**: no entry raises an exception.
* **`filter_mask`**: an address with `n` bits matches the relays whose addresses begin with
  those bits.
* **`TorConfigNodeFilter.create_spec`**: what is asked of an exit.
-/

namespace Orchid

open IPv4Address

/-! ## Relays on a path -/

/-- `BridgeRouterImpl`. The identity is null if the bridge line has no fingerprint. -/
structure BridgeRouterImpl where
  address : IPv4Address
  port : Int
  identity : Option HexDigest := none
  descriptor : Option Descriptor := none

/-- A `Router` on a path: a router of the directory, a bridge, or a directory authority. -/
inductive Relay where
  | router (r : RouterObject)
  | bridge (b : BridgeRouterImpl)
  | authority (server : RouterObject)

namespace Relay

/-- `equals`: routers are compared as references, bridges by address and port. -/
def equals : Relay → Relay → Bool
  | .router a, .router b => a.ref = b.ref
  | .bridge a, .bridge b => a.address = b.address ∧ a.port = b.port
  | .authority a, .authority b => a.ref = b.ref
  | _, _ => false

def getAddress : Relay → IPv4Address
  | .router r | .authority r => r.impl.getAddress
  | .bridge b => b.address

def getIdentityHash : Relay → Option HexDigest
  | .router r | .authority r => some r.impl.identityHash
  | .bridge b => b.identity

def getNickname : Relay → JString
  | .router r | .authority r => r.impl.getNickname
  | .bridge b => lit "[Bridge " ++ IPv4Address.stringFormat b.address.addressData ++ lit ":" ++
      showInt b.port ++ lit "]"

def getFamilyMembers : Relay → List JString
  | .router r | .authority r => r.impl.getFamilyMembers
  | .bridge b =>
    match b.descriptor with
    | some d => d.familyMembers
    | none => []

theorem equals_self (r : Relay) : r.equals r = true := by
  cases r <;> simp [equals]

end Relay

/-! ## The text of an entry -/

/-- `\d+` and what follows it. -/
def takeDigits (s : JString) : Option (JString × JString) :=
  match s.takeWhile Char.isDigit with
  | [] => none
  | ds => some (ds, s.dropWhile Char.isDigit)

/-- A character and what follows it. -/
def takeChar (c : Char) : JString → Option JString
  | c' :: rest => if c' = c then some rest else none
  | [] => none

namespace ConfigNodeFilter

/-- The groups of `NETMASK_PATTERN`: four octets and the bits of the mask. -/
def netmaskGroups (s : JString) : Option (List JString × JString) := do
  let (a, s) ← takeDigits s
  let (b, s) ← takeDigits (← takeChar '.' s)
  let (c, s) ← takeDigits (← takeChar '.' s)
  let (d, s) ← takeDigits (← takeChar '.' s)
  let (bits, s) ← takeDigits (← takeChar '/' s)
  if s = [] then some ([a, b, c, d], bits) else none

def isValidOctetString (s : JString) : Bool :=
  match parseInt s with
  | some n => 0 ≤ n && n ≤ 255
  | none => false

def isValidMaskValue (s : JString) : Bool :=
  match parseInt s with
  | some n => 0 < n && n ≤ 32
  | none => false

/-- `isAddressString`; a number that is too long for `parseInt` is caught there. -/
def isAddressString (s : JString) : Bool :=
  match netmaskGroups s with
  | some (octets, bits) => octets.all isValidOctetString && isValidMaskValue bits
  | none => false

def isIdentityString (s : JString) : Bool :=
  s.length = 40 && s.all fun c => (Hex.decodingTable c).isSome

/-- The two letters of `COUNTRYCODE_PATTERN`. -/
def countryCodeGroup : JString → Option JString
  | ['\x7b', a, b, '\x7d'] => if a.isAlpha && b.isAlpha then some [a, b] else none
  | _ => none

def isNameString (s : JString) : Bool :=
  1 ≤ s.length && s.length ≤ 19 && s.all fun c => c.isAlphanum || c = '_'

/-! ## Filters -/

/-- `(1 << 31) >> (maskBitCount - 1)`, with the sign. -/
def createMask (maskBitCount : Nat) : BitVec 32 :=
  if maskBitCount = 0 then 0 else (1#32 <<< 31).sshiftRight (maskBitCount - 1)

/-- The four kinds of `RouterFilter`; the network of a `MaskFilter` is masked when it is made. -/
inductive RouterFilter where
  | mask (network : BitVec 32) (bits : Nat)
  | identity (identity : HexDigest)
  | name (name : JString)
  | countryCode (countryCode : JString)
  deriving DecidableEq

def equalsIgnoreCase (s s' : JString) : Bool :=
  s.length = s'.length &&
    (s.zip s').all fun (c, c') => c = c' || c.toUpper = c'.toUpper || c.toLower = c'.toLower

/-- `filter`, with the table of country codes as an argument. -/
def RouterFilter.filter (countryCodes : IPv4Address → JString) (r : Relay) : RouterFilter → Bool
  | .mask network bits => r.getAddress.addressData &&& createMask bits = network
  | .identity fingerprint => r.getIdentityHash = some fingerprint
  | .name nickname => nickname = r.getNickname
  | .countryCode code => equalsIgnoreCase code (countryCodes r.getAddress)

def createAddressFilter (s : JString) : Except JavaException RouterFilter :=
  match netmaskGroups s with
  | none => .error (.illegalArgument [])
  | some (octets, bits) => do
    let network ← IPv4Address.createFromString (List.intercalate ['.'] octets)
    match parseInt bits with
    | none => throw (.illegalArgument [])
    | some n => return .mask (network.addressData &&& createMask n.toNat) n.toNat

def createFilterFor (s : JString) : Except JavaException (Option RouterFilter) :=
  if isAddressString s then some <$> createAddressFilter s
  else
    match countryCodeGroup s with
    | some countryCode => .ok (some (.countryCode countryCode))
    | none =>
      if isIdentityString s then do
        return some (.identity (← HexDigest.createFromString s))
      else if isNameString s then .ok (some (.name s))
      else .ok none

/-! ### No entry raises an exception -/

theorem octetText_of_valid {o : JString} (h : isValidOctetString o = true) : OctetText o := by
  unfold isValidOctetString at h
  cases hparse : parseInt o with rw [hparse] at h
  | none => cases h
  | some n =>
    simp only [Bool.and_eq_true, decide_eq_true_eq] at h
    exact ⟨n, hparse, h⟩

variable {s : JString}

/-- What the groups of a netmask are made of. -/
theorem takeDigits_spec {ds rest : JString} (h : takeDigits s = some (ds, rest)) :
    ds ≠ [] ∧ ∀ c ∈ ds, c.isDigit = true := by
  unfold takeDigits at h
  split at h
  · cases h
  · rename_i hne
    cases h
    refine ⟨?_, ?_⟩
    · intro hnil
      exact hne hnil
    · intro c hc
      exact List.mem_takeWhile_imp hc

theorem netmaskGroups_spec {bits : JString} {octets : List JString}
    (h : netmaskGroups s = some (octets, bits)) :
    octets.length = 4 ∧ ∀ o ∈ octets, o ≠ [] ∧ ∀ c ∈ o, c.isDigit = true := by
  unfold netmaskGroups at h
  simp only [Option.bind_eq_bind, Option.bind_eq_some_iff] at h
  obtain ⟨⟨a, s₁⟩, ha, s₂, _, ⟨b, s₃⟩, hb, s₄, _, ⟨c, s₅⟩, hc, s₆, _, ⟨d, s₇⟩, hd, s₈, _,
    ⟨e, s₉⟩, _, hend⟩ := h
  split at hend
  · cases hend
    refine ⟨rfl, ?_⟩
    simp only [List.mem_cons, List.not_mem_nil, or_false]
    rintro o (rfl | rfl | rfl | rfl)
    · exact takeDigits_spec ha
    · exact takeDigits_spec hb
    · exact takeDigits_spec hc
    · exact takeDigits_spec hd
  · cases hend

/-- What is made of an address with a mask: the address of its octets and between one and
thirty-two bits. -/
theorem createAddressFilter_spec (h : isAddressString s = true) :
    ∃ octets bits network n, netmaskGroups s = some (octets, bits) ∧
      createFromString (List.intercalate ['.'] octets) = .ok network ∧
      parseInt bits = some n ∧ 1 ≤ n.toNat ∧ n.toNat ≤ 32 ∧
      createAddressFilter s = .ok (.mask (network.addressData &&& createMask n.toNat) n.toNat) := by
  unfold isAddressString at h
  unfold createAddressFilter
  cases hgroups : netmaskGroups s with
  | none =>
    rw [hgroups] at h
    cases h
  | some groups =>
    obtain ⟨octets, bits⟩ := groups
    rw [hgroups] at h
    simp only [Bool.and_eq_true, List.all_eq_true] at h
    obtain ⟨hoctets, hbits⟩ := h
    obtain ⟨hlen, hspec⟩ := netmaskGroups_spec hgroups
    have hsplit : split '.' (List.intercalate ['.'] octets) = octets := by
      apply split_intercalate (by omega)
      · intro o ho
        exact (hspec o ho).1
      · intro o ho hdot
        have hdigit := (hspec o ho).2 '.' hdot
        exact absurd hdigit (by decide)
    have haddress : AddressText (List.intercalate ['.'] octets) := by
      unfold AddressText
      rw [hsplit, hlen]
      exact ⟨le_rfl, fun o ho => octetText_of_valid (hoctets o ho)⟩
    obtain ⟨network, hcreate⟩ := (createFromString_address _).1.mpr haddress
    unfold isValidMaskValue at hbits
    cases hparse : parseInt bits with
    | none =>
      rw [hparse] at hbits
      cases hbits
    | some n =>
      simp only [hparse, Bool.and_eq_true, decide_eq_true_eq] at hbits
      refine ⟨octets, bits, network, n, rfl, hcreate, hparse, by omega, by omega, ?_⟩
      dsimp only
      rw [hcreate]
      simp only [hparse]
      rfl

theorem createFromString_total (h : isIdentityString s = true) :
    ∃ identity, HexDigest.createFromString s = .ok identity := by
  unfold isIdentityString at h
  simp only [Bool.and_eq_true, decide_eq_true_eq, List.all_eq_true] at h
  obtain ⟨hlen, hhex⟩ := h
  have hspace : ∀ c ∈ s, Hex.ignore c = false := by
    intro c hc
    have hsome := hhex c hc
    by_contra hignore
    unfold Hex.ignore at hignore
    simp only [Bool.not_eq_false, Bool.or_eq_true, beq_iff_eq] at hignore
    rcases hignore with ((rfl | rfl) | rfl) | rfl <;> exact absurd hsome (by decide)
  have hnospace : s.contains ' ' = false := by
    by_contra hcontains
    have hmem : ' ' ∈ s := by simpa using hcontains
    exact absurd (hspace ' ' hmem) (by decide)
  have hfilter : s.filter (!Hex.ignore ·) = s := by
    apply List.filter_eq_self.mpr
    intro c hc
    rw [hspace c hc]
    rfl
  have hdigits : digitsOf s = s := by
    unfold digitsOf split
    rw [hnospace]
    simp only [Bool.false_eq_true, if_false, List.length_singleton, gt_iff_lt, Nat.lt_irrefl]
    exact hfilter
  refine (createFromString_eq_ok s).mpr ⟨?_, Or.inl ?_⟩
  · rw [hdigits]
    exact hhex
  · rw [hdigits]
    exact hlen

/-- **No entry raises an exception**, whatever stands in it. -/
theorem createFilterFor_total (s : JString) : ∃ f, createFilterFor s = .ok f := by
  unfold createFilterFor
  split
  · rename_i haddress
    obtain ⟨_, _, _, _, _, _, _, _, _, hf⟩ := createAddressFilter_spec haddress
    exact ⟨_, by rw [hf]; rfl⟩
  · split
    · exact ⟨_, rfl⟩
    · split
      · rename_i hidentity
        obtain ⟨identity, hcreate⟩ := createFromString_total hidentity
        exact ⟨some (.identity identity), by rw [hcreate]; rfl⟩
      · split <;> exact ⟨_, rfl⟩

/-- `createFromStrings`: the entries that are understood. -/
def createFromStrings (stringList : List JString) : Except JavaException (List RouterFilter) := do
  return (← stringList.mapM createFilterFor).filterMap id

/-! ### What a list matches -/

/-- A relay is matched by a list of entries if it is matched by one that is understood. -/
def Matches (countryCodes : IPv4Address → JString) (entries : List JString) (r : Relay) : Prop :=
  ∃ s ∈ entries, ∃ f, createFilterFor s = .ok (some f) ∧ f.filter countryCodes r = true

/-- Some entry of a list is understood. -/
def Understood (entries : List JString) : Prop :=
  ∃ s ∈ entries, ∃ f, createFilterFor s = .ok (some f)

/-- The filters made from a list are those of its entries. -/
theorem createFromStrings_spec (entries : List JString) :
    ∃ filters, createFromStrings entries = .ok filters ∧
      ∀ f, f ∈ filters ↔ ∃ s ∈ entries, createFilterFor s = .ok (some f) := by
  induction entries with
  | nil => exact ⟨[], rfl, by simp⟩
  | cons s entries ih =>
    obtain ⟨filters, hfilters, hmem⟩ := ih
    obtain ⟨f, hf⟩ := createFilterFor_total s
    unfold createFromStrings at hfilters ⊢
    rw [List.mapM_cons, hf]
    cases hrest : entries.mapM createFilterFor with rw [hrest] at hfilters
    | error e =>
      cases hfilters
    | ok rest =>
      cases hfilters
      refine ⟨(f :: rest).filterMap id, rfl, ?_⟩
      intro g
      simp only [List.mem_filterMap, id_eq, exists_eq_right, List.mem_cons] at hmem ⊢
      rw [hmem g]
      constructor
      · rintro (hg | ⟨s', hs', hg⟩)
        · exact ⟨s, Or.inl rfl, by rw [hf, hg]⟩
        · exact ⟨s', Or.inr hs', hg⟩
      · rintro ⟨s', rfl | hs', hg⟩
        · rw [hf] at hg
          exact Or.inl (Except.ok.inj hg).symm
        · exact Or.inr ⟨s', hs', hg⟩

/-! ### Masks -/

theorem getLsbD_createMask {bits i : Nat} (hpos : 1 ≤ bits) (hle : bits ≤ 32) (hi : i < 32) :
    (createMask bits).getLsbD i = decide (32 - bits ≤ i) := by
  have htop : ∀ j, (1#32 <<< 31).getLsbD j = decide (j = 31) := by
    intro j
    rw [BitVec.getLsbD_shiftLeft, BitVec.getLsbD_one, Bool.eq_iff_iff]
    simp only [Bool.and_eq_true, Bool.not_eq_true', decide_eq_true_eq, decide_eq_false_iff_not]
    omega
  have hmsb : (1#32 <<< 31).msb = true := by decide
  unfold createMask
  rw [if_neg (by omega), BitVec.getLsbD_sshiftRight, htop, hmsb, Bool.eq_iff_iff]
  split
  · simp only [Bool.and_eq_true, Bool.not_eq_true', decide_eq_true_eq, decide_eq_false_iff_not]
    omega
  · simp only [Bool.and_true, Bool.not_eq_true', decide_eq_true_eq, decide_eq_false_iff_not]
    omega

/-- Two addresses agree under a mask if and only if they begin with the same bits. -/
theorem and_createMask_eq_iff {bits : Nat} (hpos : 1 ≤ bits) (hle : bits ≤ 32) (a b : BitVec 32) :
    a &&& createMask bits = b &&& createMask bits ↔ a >>> (32 - bits) = b >>> (32 - bits) := by
  have hmask : ∀ (x : BitVec 32) (i : Nat), i < 32 →
      (x &&& createMask bits).getLsbD i = (x.getLsbD i && decide (32 - bits ≤ i)) := by
    intro x i hi
    rw [BitVec.getLsbD_and, getLsbD_createMask hpos hle hi]
  constructor
  · intro heq
    apply BitVec.eq_of_getLsbD_eq
    intro i hi
    rw [BitVec.getLsbD_ushiftRight, BitVec.getLsbD_ushiftRight]
    by_cases hin : 32 - bits + i < 32
    · have hbit := congrArg (fun x => x.getLsbD (32 - bits + i)) heq
      rw [hmask a _ hin, hmask b _ hin, decide_eq_true (by omega), Bool.and_true,
        Bool.and_true] at hbit
      exact hbit
    · rw [BitVec.getLsbD_of_ge a _ (by omega), BitVec.getLsbD_of_ge b _ (by omega)]
  · intro heq
    apply BitVec.eq_of_getLsbD_eq
    intro i hi
    rw [hmask a i hi, hmask b i hi]
    by_cases hin : 32 - bits ≤ i
    · have hbit := congrArg (fun x => x.getLsbD (i - (32 - bits))) heq
      rw [BitVec.getLsbD_ushiftRight, BitVec.getLsbD_ushiftRight,
        show 32 - bits + (i - (32 - bits)) = i by omega] at hbit
      rw [hbit]
    · rw [decide_eq_false hin, Bool.and_false, Bool.and_false]

/-- **An address with `n` bits matches the relays whose addresses begin with its `n` bits.** -/
theorem filter_mask (countryCodes : IPv4Address → JString) (h : isAddressString s = true) :
    ∃ octets bits network n f, netmaskGroups s = some (octets, bits) ∧
      createFromString (List.intercalate ['.'] octets) = .ok network ∧
      parseInt bits = some n ∧ createFilterFor s = .ok (some f) ∧
      ∀ r, f.filter countryCodes r = true ↔
        r.getAddress.addressData >>> (32 - n.toNat) = network.addressData >>> (32 - n.toNat) := by
  obtain ⟨octets, bits, network, n, hgroups, hnetwork, hbits, hpos, hle, hcreate⟩ :=
    createAddressFilter_spec h
  refine ⟨octets, bits, network, n, .mask (network.addressData &&& createMask n.toNat) n.toNat,
    hgroups, hnetwork, hbits, ?_, ?_⟩
  · unfold createFilterFor
    rw [if_pos h, hcreate]
    rfl
  · intro r
    unfold RouterFilter.filter
    rw [decide_eq_true_eq]
    exact and_createMask_eq_iff hpos hle _ _

theorem filter_mask_slash_eight : ∃ f, createFilterFor (lit "10.0.0.0/8") = .ok (some f) := by
  obtain ⟨_, _, _, _, f, -, -, -, hcreate, -⟩ :=
    filter_mask (s := lit "10.0.0.0/8") (fun _ => []) (by decide +kernel)
  exact ⟨f, hcreate⟩

end ConfigNodeFilter

open ConfigNodeFilter

/-! ## The configuration -/

/-- The four lists of the configuration. -/
structure NodeLists where
  excludeNodes : List JString := []
  excludeExitNodes : List JString := []
  entryNodes : List JString := []
  exitNodes : List JString := []

/-- `TorConfigNodeFilter`: a filter for each list that is not empty. -/
structure TorConfigNodeFilter where
  excludeNodes : Option (List RouterFilter)
  excludeExitNodes : Option (List RouterFilter)
  entryNodes : Option (List RouterFilter)
  exitNodes : Option (List RouterFilter)
  deriving DecidableEq

namespace TorConfigNodeFilter

def addFilter (filterStrings : List JString) :
    Except JavaException (Option (List RouterFilter)) :=
  if filterStrings.isEmpty then .ok none else some <$> createFromStrings filterStrings

def create (config : NodeLists) : Except JavaException TorConfigNodeFilter := do
  return ⟨← addFilter config.excludeNodes, ← addFilter config.excludeExitNodes,
    ← addFilter config.entryNodes, ← addFilter config.exitNodes⟩

variable (countryCodes : IPv4Address → JString)

def isIncludedByFilter (r : Relay) : Option (List RouterFilter) → Bool
  | none => true
  | some filterList => filterList.isEmpty || filterList.any (·.filter countryCodes r)

def isExcludedByFilter (r : Relay) : Option (List RouterFilter) → Bool
  | none => false
  | some filterList => !filterList.isEmpty && filterList.any (·.filter countryCodes r)

def isExitNodeIncluded (f : TorConfigNodeFilter) (exitRouter : RouterObject) : Bool :=
  isIncludedByFilter countryCodes (.router exitRouter) f.exitNodes &&
    !(isExcludedByFilter countryCodes (.router exitRouter) f.excludeExitNodes ||
      isExcludedByFilter countryCodes (.router exitRouter) f.excludeNodes)

def filterExitCandidates (f : TorConfigNodeFilter) (candidates : List RouterObject) :
    List RouterObject :=
  candidates.filter (f.isExitNodeIncluded countryCodes)

/-! ### What is asked of an exit -/

/-- A filter made for a list of entries. -/
theorem addFilter_spec (entries : List JString) :
    ∃ filters, addFilter entries = .ok filters ∧
      ∀ r, (isIncludedByFilter countryCodes r filters = true ↔
          ¬ Understood entries ∨ Matches countryCodes entries r) ∧
        (isExcludedByFilter countryCodes r filters = true ↔ Matches countryCodes entries r) := by
  unfold addFilter
  by_cases hempty : entries.isEmpty = true
  · rw [if_pos hempty]
    rw [List.isEmpty_iff] at hempty
    subst hempty
    refine ⟨none, rfl, fun r => ⟨?_, ?_⟩⟩
    · simp [isIncludedByFilter, Understood]
    · simp [isExcludedByFilter, Matches]
  · rw [if_neg hempty]
    obtain ⟨filters, hfilters, hmem⟩ := createFromStrings_spec entries
    have hany : ∀ r, filters.any (·.filter countryCodes r) = true ↔
        Matches countryCodes entries r := by
      intro r
      rw [List.any_eq_true]
      constructor
      · rintro ⟨f, hf, hmatch⟩
        obtain ⟨s, hs, hcreate⟩ := (hmem f).mp hf
        exact ⟨s, hs, f, hcreate, hmatch⟩
      · rintro ⟨s, hs, f, hcreate, hmatch⟩
        exact ⟨f, (hmem f).mpr ⟨s, hs, hcreate⟩, hmatch⟩
    have hnil : filters.isEmpty = true ↔ ¬ Understood entries := by
      rw [List.isEmpty_iff, List.eq_nil_iff_forall_not_mem]
      constructor
      · rintro hnone ⟨s, hs, f, hcreate⟩
        exact hnone f ((hmem f).mpr ⟨s, hs, hcreate⟩)
      · intro hnone f hf
        obtain ⟨s, hs, hcreate⟩ := (hmem f).mp hf
        exact hnone ⟨s, hs, f, hcreate⟩
    refine ⟨some filters, by rw [hfilters]; rfl, fun r => ⟨?_, ?_⟩⟩
    · unfold isIncludedByFilter
      rw [Bool.or_eq_true, hnil, hany r]
    · unfold isExcludedByFilter
      rw [Bool.and_eq_true, hany r, Bool.not_eq_true', ← Bool.not_eq_true, hnil]
      constructor
      · exact And.right
      · intro hmatches
        refine ⟨?_, hmatches⟩
        intro hnone
        obtain ⟨s, hs, f, hcreate, _⟩ := hmatches
        exact hnone ⟨s, hs, f, hcreate⟩

/-- **What `isExitNodeIncluded` asks**: a list of exits nobody understands asks nothing. -/
theorem create_spec (config : NodeLists) :
    ∃ f, create config = .ok f ∧
      ∀ r, f.isExitNodeIncluded countryCodes r = true ↔
        (¬ Understood config.exitNodes ∨ Matches countryCodes config.exitNodes (.router r)) ∧
          ¬ Matches countryCodes config.excludeExitNodes (.router r) ∧
          ¬ Matches countryCodes config.excludeNodes (.router r) := by
  obtain ⟨excluded, hexcluded, hspec⟩ := addFilter_spec countryCodes config.excludeNodes
  obtain ⟨exits, hexits, hspec'⟩ := addFilter_spec countryCodes config.excludeExitNodes
  obtain ⟨entry, hentry, _⟩ := addFilter_spec countryCodes config.entryNodes
  obtain ⟨exit, hexit, hspec''⟩ := addFilter_spec countryCodes config.exitNodes
  refine ⟨⟨excluded, exits, entry, exit⟩, ?_, ?_⟩
  · unfold create
    rw [hexcluded, hexits, hentry, hexit]
    rfl
  · intro r
    unfold isExitNodeIncluded
    rw [Bool.and_eq_true, Bool.not_eq_true', Bool.or_eq_false_iff, ← Bool.not_eq_true,
      ← Bool.not_eq_true, (hspec'' _).1, (hspec' _).2, (hspec _).2]

end TorConfigNodeFilter

end Orchid
