import Mathlib
import Orchid.Directory.Routers

/-!
# Orchid — choosing a router by bandwidth

`CircuitNodeChooser` picks a router from a list of candidates with a probability that follows
its bandwidth: by the weights of the consensus if there is one, by the older method otherwise.
The weights are `double`s. Their arithmetic is a parameter, so that what is shown here holds for
any, and a random number is an argument, the draw.

* **`chooseByBandwidth_picks`**: the choice is one of the candidates, and there is one if there is
  a candidate, as long as the consensus does not lack a weight.
-/

namespace Orchid

/-- The `double`s of the platform: `literal` is the value of a literal, `round` is `Math.round`
and `toLong` the cast. -/
structure Doubles (D : Type) where
  literal : ℚ → D
  ofLong : Int → D
  add : D → D → D
  sub : D → D → D
  mul : D → D → D
  div : D → D → D
  lt : D → D → Bool
  le : D → D → Bool
  round : D → Int
  toLong : D → Int

/-- The rational numbers in the place of the `double`s. -/
def Doubles.rational : Doubles ℚ where
  literal := id
  ofLong n := n
  add := (· + ·)
  sub := (· - ·)
  mul := (· * ·)
  div := (· / ·)
  lt x y := x < y
  le x y := x ≤ y
  round x := (x + 1 / 2).floor
  toLong x := if x < 0 then -(-x).floor else x.floor

/-- Numbers that are not below zero are told from those that are. -/
structure Doubles.Signed {D : Type} (F : Doubles D) : Prop where
  ofLong : ∀ n, F.lt (F.ofLong n) (F.literal 0) = decide (n < 0)
  zero : F.lt (F.literal 0) (F.literal 0) = false
  one : F.lt (F.literal 1) (F.literal 0) = false

theorem Doubles.rational_signed : Doubles.rational.Signed where
  ofLong n := by simp [rational]
  zero := by simp [rational]
  one := by simp [rational]

/-- Java `long` arithmetic wraps around. -/
def javaLong (x : Int) : Int := x.bmod (2 ^ 64)

def LONG_MAX_VALUE : Int := 2 ^ 63 - 1

namespace TorRandom

/-- `nextInt(n)` for a positive `n`. -/
def nextInt (n draw : Nat) : Nat := draw % n

/-- `nextLong(n)` for an `n` other than zero. -/
def nextLong (n : Int) (draw : Nat) : Int := draw % n.natAbs

end TorRandom

/-! ## Weighted routers -/

structure WeightedRouter (D : Type) where
  router : RouterObject
  isUnknown : Bool := false
  weightedBandwidth : D
  scaledBandwidth : Int := 0

structure BandwidthWeightedRouters (D : Type) where
  weightedRouters : List (WeightedRouter D) := []
  totalExitBw : D
  totalNonExitBw : D
  totalGuardBw : D
  isScaled : Bool := false
  unknownCount : Nat := 0

namespace BandwidthWeightedRouters

variable {D : Type} (F : Doubles D)

def MAX_SCALE : Int := LONG_MAX_VALUE / 4

def EPSILON : D := F.literal (1 / 10)

def empty : BandwidthWeightedRouters D where
  totalExitBw := F.literal 0
  totalNonExitBw := F.literal 0
  totalGuardBw := F.literal 0

variable (bwr : BandwidthWeightedRouters D)

def adjustTotals (router : RouterObject) (bw : D) : BandwidthWeightedRouters D :=
  let bwr := if router.impl.isExit then { bwr with totalExitBw := F.add bwr.totalExitBw bw }
    else { bwr with totalNonExitBw := F.add bwr.totalNonExitBw bw }
  if router.impl.isPossibleGuard then { bwr with totalGuardBw := F.add bwr.totalGuardBw bw }
  else bwr

def addRouter (router : RouterObject) (weightedBandwidth : D) : BandwidthWeightedRouters D :=
  let bwr : BandwidthWeightedRouters D := { bwr with
    weightedRouters := bwr.weightedRouters ++ [⟨router, false, weightedBandwidth, 0⟩] }
  { bwr.adjustTotals F router weightedBandwidth with isScaled := false }

def addRouterUnknown (router : RouterObject) : BandwidthWeightedRouters D :=
  { bwr with
    weightedRouters := bwr.weightedRouters ++
      [⟨router, true, F.ofLong 0, 0⟩]
    unknownCount := bwr.unknownCount + 1 }

def getTotalBandwidth : D := F.add bwr.totalExitBw bwr.totalNonExitBw

def isTotalBandwidthZero : Bool := F.lt (bwr.getTotalBandwidth F) (EPSILON F)

/-- One round of `fixUnknownValues(fastBw, slowBw)`. -/
def fixUnknown (fastBw slowBw : Int) (bwr : BandwidthWeightedRouters D) (wr : WeightedRouter D) :
    BandwidthWeightedRouters D :=
  if wr.isUnknown then
    let bw := F.ofLong (if wr.router.impl.isFast then fastBw else slowBw)
    let wr := { wr with weightedBandwidth := bw, isUnknown := false }
    { bwr with weightedRouters := bwr.weightedRouters ++ [wr] }.adjustTotals F wr.router bw
  else { bwr with weightedRouters := bwr.weightedRouters ++ [wr] }

/-- `fixUnknownValues(fastBw, slowBw)`: the list is gone through and left in place. -/
def fixUnknownValuesWith (fastBw slowBw : Int) : BandwidthWeightedRouters D :=
  { bwr.weightedRouters.foldl (fixUnknown F fastBw slowBw) { bwr with weightedRouters := [] } with
    unknownCount := 0
    isScaled := false }

def fixUnknownValues : BandwidthWeightedRouters D :=
  if bwr.unknownCount = 0 then bwr
  else if bwr.isTotalBandwidthZero F then bwr.fixUnknownValuesWith F 40000 20000
  else
    let knownCount : Int := bwr.weightedRouters.length - bwr.unknownCount
    let average := F.toLong (F.div (bwr.getTotalBandwidth F) (F.ofLong knownCount))
    bwr.fixUnknownValuesWith F average average

def getWeightedTotal : D :=
  bwr.weightedRouters.foldl (fun total wr => F.add total wr.weightedBandwidth) (F.literal 0)

def scaleRouterWeights : BandwidthWeightedRouters D :=
  let scaleFactor := F.div (F.ofLong MAX_SCALE) (bwr.getWeightedTotal F)
  { bwr with
    weightedRouters := bwr.weightedRouters.map fun wr =>
      { wr with scaledBandwidth := F.round (F.mul wr.weightedBandwidth scaleFactor) }
    isScaled := true }

/-- `adjustWeights`, up to the scaling at its end. -/
def adjustWeight (exitWeight guardWeight : D) (wr : WeightedRouter D) : WeightedRouter D :=
  if wr.router.impl.isExit && wr.router.impl.isPossibleGuard then
    { wr with weightedBandwidth := F.mul wr.weightedBandwidth (F.mul exitWeight guardWeight) }
  else if wr.router.impl.isPossibleGuard then
    { wr with weightedBandwidth := F.mul wr.weightedBandwidth guardWeight }
  else if wr.router.impl.isExit then
    { wr with weightedBandwidth := F.mul wr.weightedBandwidth exitWeight }
  else wr

def adjustWeights (exitWeight guardWeight : D) : BandwidthWeightedRouters D :=
  { bwr with
    weightedRouters := bwr.weightedRouters.map (adjustWeight F exitWeight guardWeight) }
    |>.scaleRouterWeights F

/-- The routers as `getScaledTotal` leaves them. -/
def scaled : BandwidthWeightedRouters D :=
  if bwr.isScaled then bwr else bwr.scaleRouterWeights F

/-- The sum of `getScaledTotal`. -/
def scaledTotal : Int :=
  bwr.weightedRouters.foldl (fun total wr => javaLong (total + wr.scaledBandwidth)) 0

/-- One round of `chooseFirstElementAboveRandom`: the sum, the value it is compared with and the
choice. The loop goes on after the choice, with a value that no sum is above. -/
def chooseRound (s : Int × Int × Option RouterObject) (wr : WeightedRouter D) :
    Int × Int × Option RouterObject :=
  let sum := javaLong (s.1 + wr.scaledBandwidth)
  if sum > s.2.1 then (sum, LONG_MAX_VALUE, some wr.router) else (sum, s.2)

def chooseFirstElementAboveRandom (randomValue : Int) : Except JavaException RouterObject :=
  match (bwr.weightedRouters.foldl chooseRound (0, randomValue, none)).2.2 with
  | some chosen => .ok chosen
  | none =>
    match bwr.weightedRouters.getLast? with
    | some wr => .ok wr.router
    | none => .error .indexOutOfBounds

def chooseRandomRouterByWeight (draw : Nat) : Except JavaException (Option RouterObject) :=
  let bwr := bwr.scaled F
  let total := bwr.scaledTotal
  if total = 0 then
    .ok (bwr.weightedRouters[TorRandom.nextInt bwr.weightedRouters.length draw]?.map (·.router))
  else some <$> bwr.chooseFirstElementAboveRandom (TorRandom.nextLong total draw)

/-! ### What is chosen -/

/-- The routers themselves, in order. -/
def routers : List RouterObject := bwr.weightedRouters.map (·.router)

variable (router : RouterObject)

@[simp] theorem weightedRouters_adjustTotals (bw : D) :
    (bwr.adjustTotals F router bw).weightedRouters = bwr.weightedRouters := by
  unfold adjustTotals
  split <;> split <;> rfl

@[simp] theorem routers_empty : (empty F).routers = [] := rfl

@[simp] theorem routers_addRouter (bw : D) :
    (bwr.addRouter F router bw).routers = bwr.routers ++ [router] := by
  simp [routers, addRouter]

@[simp] theorem routers_addRouterUnknown :
    (bwr.addRouterUnknown F router).routers = bwr.routers ++ [router] := by
  simp [routers, addRouterUnknown]

theorem routers_fixUnknown (fastBw slowBw : Int) (wr : WeightedRouter D) :
    (fixUnknown F fastBw slowBw bwr wr).routers = bwr.routers ++ [wr.router] := by
  unfold fixUnknown
  split <;> simp [routers]

theorem routers_fixUnknown_foldl (fastBw slowBw : Int) (l : List (WeightedRouter D)) :
    (l.foldl (fixUnknown F fastBw slowBw) bwr).routers = bwr.routers ++ l.map (·.router) := by
  induction l generalizing bwr with
  | nil => simp
  | cons wr rest ih => simp [ih, routers_fixUnknown]

@[simp] theorem routers_fixUnknownValues : (bwr.fixUnknownValues F).routers = bwr.routers := by
  have hwith : ∀ fastBw slowBw,
      (bwr.fixUnknownValuesWith F fastBw slowBw).routers = bwr.routers := by
    intro fastBw slowBw
    exact routers_fixUnknown_foldl F _ fastBw slowBw bwr.weightedRouters
  unfold fixUnknownValues
  split
  · rfl
  · split
    · exact hwith _ _
    · exact hwith _ _

@[simp] theorem routers_scaleRouterWeights :
    (bwr.scaleRouterWeights F).routers = bwr.routers := by
  simp [routers, scaleRouterWeights]

@[simp] theorem routers_scaled : (bwr.scaled F).routers = bwr.routers := by
  unfold scaled
  split <;> simp

@[simp] theorem routers_adjustWeights (exitWeight guardWeight : D) :
    (bwr.adjustWeights F exitWeight guardWeight).routers = bwr.routers := by
  have hround : ∀ wr : WeightedRouter D,
      (adjustWeight F exitWeight guardWeight wr).router = wr.router := by
    intro wr
    unfold adjustWeight
    repeat' split
    all_goals rfl
  simp [adjustWeights, routers, scaleRouterWeights, hround]

/-- A choice that raises nothing and finds one of the candidates if there is one. -/
def Picks (candidates : List RouterObject) (x : Except JavaException (Option RouterObject)) :
    Prop :=
  ∃ choice, x = .ok choice ∧ (choice = none → candidates = []) ∧ ∀ r ∈ choice, r ∈ candidates

/-- A draw from a list. -/
theorem picks_nextInt (candidates : List RouterObject) (draw : Nat) :
    Picks candidates (.ok candidates[TorRandom.nextInt candidates.length draw]?) := by
  refine ⟨_, rfl, ?_, ?_⟩
  · intro hnone
    by_contra hne
    have hlt : draw % candidates.length < candidates.length :=
      Nat.mod_lt _ (List.length_pos_of_ne_nil hne)
    rw [List.getElem?_eq_none_iff] at hnone
    exact absurd hnone (Nat.not_le.mpr hlt)
  · intro r hr
    exact List.mem_of_getElem? hr

/-- What the loop has chosen was there before or is a router of the list. -/
theorem chooseRound_foldl (l : List (WeightedRouter D)) (s : Int × Int × Option RouterObject)
    (r : RouterObject) (hr : (l.foldl chooseRound s).2.2 = some r) :
    s.2.2 = some r ∨ r ∈ l.map (·.router) := by
  induction l generalizing s with
  | nil => exact Or.inl hr
  | cons wr rest ih =>
    rcases ih (chooseRound s wr) hr with hround | hrest
    · unfold chooseRound at hround
      dsimp only at hround
      split at hround
      · cases hround
        exact Or.inr (List.mem_cons_self ..)
      · exact Or.inl hround
    · exact Or.inr (List.mem_cons_of_mem _ hrest)

theorem chooseFirstElementAboveRandom_mem (randomValue : Int) (hne : bwr.weightedRouters ≠ []) :
    ∃ r, bwr.chooseFirstElementAboveRandom randomValue = .ok r ∧ r ∈ bwr.routers := by
  unfold chooseFirstElementAboveRandom
  cases hloop : (bwr.weightedRouters.foldl chooseRound (0, randomValue, none)).2.2 with
  | some chosen =>
    rcases chooseRound_foldl _ _ _ hloop with hstart | hmem
    · cases hstart
    · exact ⟨chosen, rfl, hmem⟩
  | none =>
    rw [List.getLast?_eq_some_getLast hne]
    exact ⟨_, rfl, List.mem_map_of_mem (List.getLast_mem hne)⟩

/-- **The weighted draw finds one of the routers.** -/
theorem chooseRandomRouterByWeight_picks (draw : Nat) :
    Picks bwr.routers (bwr.chooseRandomRouterByWeight F draw) := by
  unfold chooseRandomRouterByWeight
  dsimp only
  split
  · rw [← routers_scaled F bwr]
    have hpicks := picks_nextInt (bwr.scaled F).routers draw
    unfold routers at hpicks ⊢
    rw [List.getElem?_map, List.length_map] at hpicks
    exact hpicks
  · rename_i htotal
    -- a total other than zero is the sum of something
    have hne : (bwr.scaled F).weightedRouters ≠ [] := by
      intro hnil
      apply htotal
      unfold scaledTotal
      rw [hnil]
      rfl
    obtain ⟨r, hchoose, hr⟩ := (bwr.scaled F).chooseFirstElementAboveRandom_mem
      (TorRandom.nextLong (bwr.scaled F).scaledTotal draw) hne
    rw [hchoose]
    refine ⟨some r, rfl, fun hnone => (by cases hnone), ?_⟩
    intro r' hr'
    cases hr'
    rw [← routers_scaled F bwr]
    exact hr

end BandwidthWeightedRouters

/-! ## The weights of the consensus -/

inductive WeightRule where
  | WEIGHT_FOR_DIR
  | WEIGHT_FOR_EXIT
  | WEIGHT_FOR_MID
  | WEIGHT_FOR_GUARD
  | NO_WEIGHTING
  deriving DecidableEq

/-- The values at the indices `VAR_WG` to `VAR_WDB`. -/
structure WeightVars (α : Type) where
  wg : α
  wm : α
  we : α
  wd : α
  wgb : α
  wmb : α
  web : α
  wdb : α

namespace ConsensusDocument

def getParameterValue (doc : ConsensusDocument) (name : JString)
    (defaultValue minValue maxValue : Int) : Int :=
  match doc.parameters.lookup name with
  | none => defaultValue
  | some value =>
    if value < minValue then minValue else if value > maxValue then maxValue else value

def getWeightScaleParameter (doc : ConsensusDocument) : Int :=
  doc.getParameterValue (lit "bwweightscale") 10000 1 (2 ^ 31 - 1)

end ConsensusDocument

namespace WeightVars

variable {D : Type} (F : Doubles D)

def ZERO : JString := lit "zero"

def ONE : JString := lit "one"

def getTagsForWeightRule : WeightRule → WeightVars JString
  | .WEIGHT_FOR_GUARD =>
    ⟨lit "Wgg", lit "Wgm", ZERO, lit "Wgd", lit "Wgb", lit "Wmb", lit "Web", lit "Wdb"⟩
  | .WEIGHT_FOR_MID =>
    ⟨lit "Wmg", lit "Wmm", lit "Wme", lit "Wmd", lit "Wgb", lit "Wmb", lit "Web", lit "Wdb"⟩
  | .WEIGHT_FOR_EXIT =>
    ⟨lit "Wee", lit "Wem", lit "Wed", lit "Weg", lit "Wgb", lit "Wmb", lit "Web", lit "Wdb"⟩
  | .WEIGHT_FOR_DIR => ⟨lit "Wbe", lit "Wbm", lit "Wbd", lit "Wbg", ONE, ONE, ONE, ONE⟩
  | .NO_WEIGHTING => ⟨ONE, ONE, ONE, ONE, ONE, ONE, ONE, ONE⟩

def tagToVarValue (consensus : ConsensusDocument) (tag : JString) : D :=
  if tag = ZERO then F.literal 0
  else if tag = ONE then F.literal 1
  else F.ofLong (consensus.getBandwidthWeight tag)

/-- One round of `populateVars`; a weight below zero ends it. -/
def populateVar (consensus : ConsensusDocument) (tag : JString) : Option D :=
  let value := tagToVarValue F consensus tag
  if F.lt value (F.literal 0) then none
  else some (F.div value (F.ofLong consensus.getWeightScaleParameter))

/-- `create`: the weights for a rule, `none` if they are not valid. -/
def create (consensus : ConsensusDocument) (rule : WeightRule) : Option (WeightVars D) := do
  let tags := getTagsForWeightRule rule
  let value := populateVar F consensus
  return ⟨← value tags.wg, ← value tags.wm, ← value tags.we, ← value tags.wd,
    ← value tags.wgb, ← value tags.wmb, ← value tags.web, ← value tags.wdb⟩

/-- The tags in the order of their indices. -/
def toList {α : Type} (v : WeightVars α) : List α :=
  [v.wg, v.wm, v.we, v.wd, v.wgb, v.wmb, v.web, v.wdb]

end WeightVars

/-- The consensus has every weight the rule asks for. -/
def ConsensusDocument.DefinesWeights (doc : ConsensusDocument) (rule : WeightRule) : Prop :=
  ∀ tag ∈ (WeightVars.getTagsForWeightRule rule).toList,
    tag = WeightVars.ZERO ∨ tag = WeightVars.ONE ∨ 0 ≤ doc.getBandwidthWeight tag

instance (doc : ConsensusDocument) (rule : WeightRule) : Decidable (doc.DefinesWeights rule) :=
  inferInstanceAs (Decidable (∀ tag ∈ _, _))

namespace WeightVars

variable {D : Type} {F : Doubles D} {consensus : ConsensusDocument}

theorem populateVar_isSome (hF : F.Signed) {tag : JString} :
    (populateVar F consensus tag).isSome ↔
      tag = ZERO ∨ tag = ONE ∨ 0 ≤ consensus.getBandwidthWeight tag := by
  unfold populateVar tagToVarValue
  by_cases hzero : tag = ZERO
  · simp [hzero, hF.zero]
  · by_cases hone : tag = ONE
    · rw [if_neg hzero, if_pos hone]
      simp [hone, hF.one]
    · simp [hzero, hone, hF.ofLong]

variable {rule : WeightRule}

theorem create_isSome (hF : F.Signed) :
    (create F consensus rule).isSome ↔ consensus.DefinesWeights rule := by
  have hany : ∀ (o : Option D) (b : Bool), o.any (fun _ => b) = (o.isSome && b) := by
    intro o b
    cases o <;> rfl
  unfold ConsensusDocument.DefinesWeights create
  simp only [← populateVar_isSome hF]
  simp [toList, Option.isSome_bind, hany]

variable (F) (vars : WeightVars D)

def calculateWeight (isExit isGuard isDir : Bool) : D :=
  if isGuard && isExit then if isDir then F.mul vars.wdb vars.wd else vars.wd
  else if isGuard then if isDir then F.mul vars.wgb vars.wg else vars.wg
  else if isExit then if isDir then F.mul vars.web vars.we else vars.we
  else if isDir then F.mul vars.wmb vars.wm else vars.wm

def kbToBytes (kb : Int) : Int :=
  if kb > LONG_MAX_VALUE / 1000 then LONG_MAX_VALUE else javaLong (kb * 1000)

def calculateWeightedBandwidth (router : RouterImpl) : D :=
  let bw := F.ofLong (kbToBytes router.getEstimatedBandwidth)
  let w := vars.calculateWeight F (router.isExit && !router.isBadExit) router.isPossibleGuard
    (router.getDirectoryPort ≠ 0)
  F.add (F.mul w bw) (F.literal (1 / 2))

end WeightVars

/-! ## The node chooser -/

/-- What a selection reads of the directory. It does not change while the selection runs. -/
structure Directory where
  routers : RouterTables
  currentConsensus : Option ConsensusDocument := none
  /-- The servers of `TrustedAuthorities`. -/
  authorities : List RouterObject := []

namespace CircuitNodeChooser

variable {D : Type} (F : Doubles D) (directory : Directory)

def computeWeightedBandwidths (candidates : List RouterObject) (vars : WeightVars D) :
    BandwidthWeightedRouters D :=
  candidates.foldl
    (fun weighted r => weighted.addRouter F r (vars.calculateWeightedBandwidth F r.impl)) (.empty F)

/-- `chooseNodeByBandwidthWeights`. Weights that are not valid leave a null reference, which is
then asked for a router. -/
def chooseNodeByBandwidthWeights (candidates : List RouterObject) (rule : WeightRule)
    (draw : Nat) : Except JavaException (Option RouterObject) :=
  match directory.currentConsensus with
  | none => .ok none
  | some consensus =>
    match WeightVars.create F consensus rule with
    | none => .error .nullPointer
    | some vars =>
      (computeWeightedBandwidths F candidates vars).chooseRandomRouterByWeight F draw

/-- One round of the first loop of `chooseNodeByBandwidth`. -/
def addByBandwidth (bwr : BandwidthWeightedRouters D) (r : RouterObject) :
    BandwidthWeightedRouters D :=
  if r.impl.hasBandwidth then
    bwr.addRouter F r (F.ofLong (WeightVars.kbToBytes r.impl.getEstimatedBandwidth))
  else bwr.addRouterUnknown F r

def calculateWeight (matchesRule : Bool) (totalByType total : D) : D :=
  if matchesRule || F.lt totalByType (BandwidthWeightedRouters.EPSILON F) then F.literal 1
  else
    let result := F.sub (F.literal 1) (F.div total (F.mul (F.literal 3) totalByType))
    if F.le result (F.literal 0) then F.literal 0 else result

def computeFinalWeights (bwr : BandwidthWeightedRouters D) (rule : WeightRule) :
    BandwidthWeightedRouters D :=
  let exitWeight := calculateWeight F (rule = .WEIGHT_FOR_EXIT) bwr.totalExitBw
    (bwr.getTotalBandwidth F)
  let guardWeight := calculateWeight F (rule = .WEIGHT_FOR_GUARD) bwr.totalGuardBw
    (bwr.getTotalBandwidth F)
  bwr.adjustWeights F exitWeight guardWeight

def chooseNodeByBandwidth (routers : List RouterObject) (rule : WeightRule) (draw : Nat) :
    Except JavaException (Option RouterObject) :=
  let bwr := (routers.foldl (addByBandwidth F) (.empty F)).fixUnknownValues F
  if bwr.isTotalBandwidthZero F then .ok routers[TorRandom.nextInt routers.length draw]?
  else (computeFinalWeights F bwr rule).chooseRandomRouterByWeight F draw

/-- `chooseByBandwidth`. The second method is asked only if the first has chosen nothing, so that
one of them draws. -/
def chooseByBandwidth (candidates : List RouterObject) (rule : WeightRule) (draw : Nat) :
    Except JavaException (Option RouterObject) := do
  match ← chooseNodeByBandwidthWeights F directory candidates rule draw with
  | some choice => return some choice
  | none => chooseNodeByBandwidth F candidates rule draw

/-- The test of `getUsableRouters`. -/
def isUsable (needDescriptor : Bool) (r : RouterImpl) : Bool :=
  r.isRunning && r.isValid && !r.isHibernating && !(needDescriptor && r.descriptor.isNone)

def getUsableRouters (needDescriptor : Bool) : List RouterObject :=
  directory.routers.getAllRouters.filter fun r => isUsable needDescriptor r.impl

def getFilteredRouters (rf : RouterObject → Bool) (needDescriptor : Bool) : List RouterObject :=
  (getUsableRouters directory needDescriptor).filter rf

def chooseRandomNode (rule : WeightRule) (routerFilter : RouterObject → Bool) (draw : Nat) :
    Except JavaException (Option RouterObject) :=
  chooseByBandwidth F directory (getFilteredRouters directory routerFilter true) rule draw

/-- The first part of `chooseDirectory`. -/
def chooseDirectoryRouter (draw : Nat) : Except JavaException (Option RouterObject) :=
  chooseByBandwidth F directory
    (getFilteredRouters directory (fun r => r.impl.getDirectoryPort ≠ 0) false)
    .WEIGHT_FOR_DIR draw

/-! ### What is chosen -/

open BandwidthWeightedRouters

theorem routers_computeWeightedBandwidths (candidates : List RouterObject) (vars : WeightVars D) :
    (computeWeightedBandwidths F candidates vars).routers = candidates := by
  have hfold : ∀ (l : List RouterObject) (bwr : BandwidthWeightedRouters D),
      (l.foldl (fun weighted r =>
        weighted.addRouter F r (vars.calculateWeightedBandwidth F r.impl)) bwr).routers =
        bwr.routers ++ l := by
    intro l
    induction l with
    | nil => simp
    | cons r rest ih => simp [ih]
  exact hfold candidates _

theorem routers_addByBandwidth (routers : List RouterObject) :
    (routers.foldl (addByBandwidth F) (.empty F)).routers = routers := by
  have hround : ∀ (bwr : BandwidthWeightedRouters D) (r : RouterObject),
      (addByBandwidth F bwr r).routers = bwr.routers ++ [r] := by
    intro bwr r
    unfold addByBandwidth
    split <;> simp
  have hfold : ∀ (l : List RouterObject) (bwr : BandwidthWeightedRouters D),
      (l.foldl (addByBandwidth F) bwr).routers = bwr.routers ++ l := by
    intro l
    induction l with
    | nil => simp
    | cons r rest ih => simp [ih, hround]
  exact hfold routers _

theorem chooseNodeByBandwidth_picks (routers : List RouterObject) (rule : WeightRule)
    (draw : Nat) : Picks routers (chooseNodeByBandwidth F routers rule draw) := by
  unfold chooseNodeByBandwidth
  dsimp only
  split
  · exact picks_nextInt routers draw
  · have hpicks := (computeFinalWeights F
      ((routers.foldl (addByBandwidth F) (.empty F)).fixUnknownValues F)
      rule).chooseRandomRouterByWeight_picks F draw
    unfold computeFinalWeights at hpicks ⊢
    rw [routers_adjustWeights, routers_fixUnknownValues, routers_addByBandwidth] at hpicks
    exact hpicks

theorem chooseByBandwidth_noConsensus (hconsensus : directory.currentConsensus = none)
    (candidates : List RouterObject) (rule : WeightRule) (draw : Nat) :
    chooseByBandwidth F directory candidates rule draw =
      chooseNodeByBandwidth F candidates rule draw := by
  unfold chooseByBandwidth chooseNodeByBandwidthWeights
  rw [hconsensus]
  rfl

section Consensus

variable {consensus : ConsensusDocument} {rule : WeightRule}
  (hconsensus : directory.currentConsensus = some consensus)

include hconsensus

theorem chooseByBandwidth_invalid (hvars : WeightVars.create F consensus rule = none)
    (candidates : List RouterObject) (draw : Nat) :
    chooseByBandwidth F directory candidates rule draw = .error .nullPointer := by
  unfold chooseByBandwidth chooseNodeByBandwidthWeights
  rw [hconsensus]
  dsimp only
  rw [hvars]
  rfl

theorem chooseByBandwidth_valid {vars : WeightVars D}
    (hvars : WeightVars.create F consensus rule = some vars) (candidates : List RouterObject)
    (draw : Nat) : Picks candidates (chooseByBandwidth F directory candidates rule draw) := by
  obtain ⟨choice, hchoice, hnone, hsome⟩ :=
    (computeWeightedBandwidths F candidates vars).chooseRandomRouterByWeight_picks F draw
  rw [routers_computeWeightedBandwidths] at hnone hsome
  unfold chooseByBandwidth chooseNodeByBandwidthWeights
  rw [hconsensus]
  dsimp only
  rw [hvars]
  dsimp only
  rw [hchoice]
  cases choice with
  | none => exact chooseNodeByBandwidth_picks F candidates rule draw
  | some r => exact ⟨some r, rfl, fun h => (by cases h), hsome⟩

end Consensus

/-- **A choice by bandwidth finds one of the candidates** if the weights are there, and raises
an exception otherwise. -/
theorem chooseByBandwidth_picks (candidates : List RouterObject) (rule : WeightRule) (draw : Nat) :
    chooseByBandwidth F directory candidates rule draw = .error .nullPointer ∨
      Picks candidates (chooseByBandwidth F directory candidates rule draw) := by
  cases hconsensus : directory.currentConsensus with
  | none =>
    rw [chooseByBandwidth_noConsensus F directory hconsensus]
    exact Or.inr (chooseNodeByBandwidth_picks F candidates rule draw)
  | some consensus =>
    cases hvars : WeightVars.create F consensus rule with
    | none => exact Or.inl (chooseByBandwidth_invalid F directory hconsensus hvars candidates draw)
    | some vars => exact Or.inr (chooseByBandwidth_valid F directory hconsensus hvars candidates draw)

variable {candidates : List RouterObject} {r : RouterObject}

theorem chooseByBandwidth_mem {draw : Nat}
    (hchoose : chooseByBandwidth F directory candidates rule draw = .ok (some r)) :
    r ∈ candidates := by
  rcases chooseByBandwidth_picks F directory candidates rule draw with herror | hpicks
  · cases herror.symm.trans hchoose
  · obtain ⟨choice, hchoice, _, hmem⟩ := hpicks
    cases hchoose.symm.trans hchoice
    exact hmem r rfl

/-- Without a consensus someone is chosen if there is someone to choose. -/
theorem chooseByBandwidth_finds
    (hconsensus : directory.currentConsensus = none) (hr : r ∈ candidates) (rule : WeightRule)
    (draw : Nat) :
    ∃ r' ∈ candidates, chooseByBandwidth F directory candidates rule draw = .ok (some r') := by
  rw [chooseByBandwidth_noConsensus F directory hconsensus]
  obtain ⟨choice, hchoice, hnone, hsome⟩ := chooseNodeByBandwidth_picks F candidates rule draw
  cases choice with
  | none =>
    rw [hnone rfl] at hr
    cases hr
  | some r' => exact ⟨r', hsome r' rfl, hchoice⟩

end CircuitNodeChooser

end Orchid
