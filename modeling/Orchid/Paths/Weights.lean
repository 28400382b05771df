import Orchid.Lib.Shares
import Orchid.Paths.Independence

/-!
# Orchid — the weights of a position and the draw by weight

The consensus has a weight for each position in a circuit and each class of routers. The tags of
the weights stand in arrays, and a router of a class reads the slot of its class.

* **`position_weights_iff`**: the weight applied to a router is the one of its position and class,
  or another one that happens to come to the same. The arrays for the exit and for directories
  have the tags of the classes in another order than the slots, and a weight of one is divided by
  the scale like the others.
* **`choice_proportional`**: a draw then selects each router exactly as often as its share.
-/

namespace Orchid

open WeightVars

/-! ## What a weight should be -/

/-- The classes of routers, after the letters of the tags: both guard and exit, guard, exit and
neither. -/
inductive RouterClass where
  | d
  | g
  | e
  | m
  deriving DecidableEq

namespace RouterClass

def letter : RouterClass → Char
  | .d => 'd'
  | .g => 'g'
  | .e => 'e'
  | .m => 'm'

/-- A bad exit is no exit. -/
def ofRouter (router : RouterImpl) : RouterClass :=
  if router.isPossibleGuard then if router.isExit && !router.isBadExit then .d else .g
  else if router.isExit && !router.isBadExit then .e else .m

end RouterClass

/-- The positions a router is chosen for. -/
inductive Position where
  | guard
  | middle
  | exit
  | directory
  deriving DecidableEq

namespace Position

def letter : Position → Char
  | .guard => 'g'
  | .middle => 'm'
  | .exit => 'e'
  | .directory => 'b'

def rule : Position → WeightRule
  | .guard => .WEIGHT_FOR_GUARD
  | .middle => .WEIGHT_FOR_MID
  | .exit => .WEIGHT_FOR_EXIT
  | .directory => .WEIGHT_FOR_DIR

/-- The weight the consensus has for a position and a class. -/
def weight (doc : ConsensusDocument) (p : Position) (c : RouterClass) : ℚ :=
  if p = .guard ∧ c = .e then 0 else doc.getBandwidthWeight ['W', p.letter, c.letter]

/-- The weight for a router of a class that has a directory port. -/
def directoryWeight (doc : ConsensusDocument) (c : RouterClass) : ℚ :=
  doc.getBandwidthWeight ['W', c.letter, 'b']

/-- The weight a router should have at a position. -/
def specified (doc : ConsensusDocument) (p : Position) (router : RouterImpl) : ℚ :=
  let c := RouterClass.ofRouter router
  let scale : ℚ := doc.getWeightScaleParameter
  p.weight doc c / scale *
    if router.getDirectoryPort ≠ 0 ∧ p ≠ .directory then directoryWeight doc c / scale else 1

/-- The class whose weight a router of a class gets. -/
def slotTag : Position → RouterClass → RouterClass
  | .exit, .g | .directory, .g => .e
  | .exit, .e | .directory, .e => .d
  | .exit, .d | .directory, .d => .g
  | _, c => c

/-- When the weight of the slot comes to the same. -/
def Agrees (doc : ConsensusDocument) (p : Position) (router : RouterImpl) : Prop :=
  let c := RouterClass.ofRouter router
  if router.getDirectoryPort = 0 then p.weight doc (p.slotTag c) = p.weight doc c
  else if p = .directory then
    p.weight doc (p.slotTag c) = p.weight doc c * doc.getWeightScaleParameter
  else p.weight doc (p.slotTag c) = p.weight doc c ∨ directoryWeight doc c = 0

end Position

/-! ## What it is -/

namespace WeightVars

variable {D : Type} {F : Doubles D}

/-- The weight by which `calculateWeightedBandwidth` multiplies the bandwidth. -/
def weightOf (F : Doubles D) (vars : WeightVars D) (router : RouterImpl) : D :=
  vars.calculateWeight F (router.isExit && !router.isBadExit) router.isPossibleGuard
    (router.getDirectoryPort ≠ 0)

theorem calculateWeightedBandwidth_eq (vars : WeightVars D) (router : RouterImpl) :
    vars.calculateWeightedBandwidth F router = F.add
      (F.mul (vars.weightOf F router) (F.ofLong (kbToBytes router.getEstimatedBandwidth)))
      (F.literal (1 / 2)) := rfl

/-- The value of a slot. -/
def scaledValue (F : Doubles D) (doc : ConsensusDocument) (tag : JString) : D :=
  F.div (tagToVarValue F doc tag) (F.ofLong doc.getWeightScaleParameter)

def map {α β : Type} (f : α → β) (v : WeightVars α) : WeightVars β :=
  ⟨f v.wg, f v.wm, f v.we, f v.wd, f v.wgb, f v.wmb, f v.web, f v.wdb⟩

theorem create_of_defines (hF : F.Signed) {doc : ConsensusDocument} {rule : WeightRule}
    (h : doc.DefinesWeights rule) :
    create F doc rule = some ((getTagsForWeightRule rule).map (scaledValue F doc)) := by
  have hvalue : ∀ tag ∈ (getTagsForWeightRule rule).toList,
      populateVar F doc tag = some (scaledValue F doc tag) := by
    intro tag htag
    have hsome := (populateVar_isSome hF).mpr (h tag htag)
    unfold populateVar at hsome ⊢
    dsimp only at hsome ⊢
    split at hsome
    · cases hsome
    · rename_i hlt
      rw [if_neg hlt]
      rfl
  simp only [toList, List.forall_mem_cons] at hvalue
  unfold create map
  simp [hvalue]

/-- The slots a router of a class reads. -/
def slot {α : Type} (v : WeightVars α) : RouterClass → α
  | .d => v.wd
  | .g => v.wg
  | .e => v.we
  | .m => v.wm

def directorySlot {α : Type} (v : WeightVars α) : RouterClass → α
  | .d => v.wdb
  | .g => v.wgb
  | .e => v.web
  | .m => v.wmb

theorem weightOf_eq (vars : WeightVars D) (router : RouterImpl) :
    vars.weightOf F router =
      let c := RouterClass.ofRouter router
      if router.getDirectoryPort ≠ 0 then F.mul (vars.directorySlot c) (vars.slot c)
      else vars.slot c := by
  unfold weightOf calculateWeight RouterClass.ofRouter
  cases router.isPossibleGuard <;> cases router.isExit && !router.isBadExit <;>
    simp [slot, directorySlot]

/-- The tags in the slots. -/
theorem slot_tag (doc : ConsensusDocument) (p : Position) (c : RouterClass) :
    tagToVarValue .rational doc ((getTagsForWeightRule p.rule).slot c) =
      p.weight doc (p.slotTag c) := by
  cases p <;> cases c <;> rfl

theorem directorySlot_tag (doc : ConsensusDocument) (p : Position) (c : RouterClass) :
    tagToVarValue .rational doc ((getTagsForWeightRule p.rule).directorySlot c) =
      if p = .directory then 1 else Position.directoryWeight doc c := by
  cases p <;> cases c <;> rfl

theorem slot_map {α β : Type} (f : α → β) (v : WeightVars α) (c : RouterClass) :
    (v.map f).slot c = f (v.slot c) := by
  cases c <;> rfl

theorem directorySlot_map {α β : Type} (f : α → β) (v : WeightVars α) (c : RouterClass) :
    (v.map f).directorySlot c = f (v.directorySlot c) := by
  cases c <;> rfl

end WeightVars

theorem ConsensusDocument.scale_pos (doc : ConsensusDocument) :
    (0 : ℚ) < doc.getWeightScaleParameter := by
  have hpos : 0 < doc.getWeightScaleParameter := by
    unfold getWeightScaleParameter getParameterValue
    split
    · omega
    · split_ifs <;> omega
  exact_mod_cast hpos

/-- **The weight of a router is the one of its position and class** if and only if the slot it is
read from agrees. -/
theorem position_weights_iff {doc : ConsensusDocument} {p : Position}
    (hdoc : doc.DefinesWeights p.rule) (router : RouterImpl) :
    (∃ vars, create .rational doc p.rule = some vars ∧
        vars.weightOf .rational router = p.specified doc router) ↔ p.Agrees doc router := by
  rw [create_of_defines Doubles.rational_signed hdoc]
  simp only [Option.some.injEq, exists_eq_left']
  rw [weightOf_eq]
  simp only [slot_map, directorySlot_map, scaledValue, slot_tag, directorySlot_tag]
  have hscale := doc.scale_pos
  unfold Position.specified Position.Agrees
  generalize RouterClass.ofRouter router = c
  show (if _ then _ * (_ / _) else _ / _) = _ ↔ _
  by_cases hport : router.getDirectoryPort = 0
  · simp [hport, div_left_inj' hscale.ne', Doubles.rational]
  · by_cases hp : p = .directory
    · simp only [hport, hp, ne_eq, not_false_eq_true, not_true_eq_false, and_false, if_true,
        if_false, mul_one, Doubles.rational]
      field_simp
    · simp only [hport, hp, ne_eq, not_false_eq_true, and_self, if_true, if_false, Doubles.rational]
      rw [mul_comm, mul_eq_mul_right_iff, div_left_inj' hscale.ne']
      simp [hscale.ne']

/-- A consensus with the weights for the exit position; only exits have one. -/
def sampleWeights : ConsensusDocument :=
  [(lit "Wee", 10000), (lit "Wem", 0), (lit "Wed", 0), (lit "Weg", 0), (lit "Wgb", 10000),
    (lit "Wmb", 10000), (lit "Web", 10000), (lit "Wdb", 10000)].foldl
    (fun doc w => doc.addBandwidthWeight w.1 w.2) {}

theorem sample_middle_weight :
    ∃ vars, create .rational sampleWeights .WEIGHT_FOR_EXIT = some vars ∧
      vars.weightOf .rational (Sample.relay (Sample.identity 1) 1 []) =
        Position.exit.specified sampleWeights (Sample.relay (Sample.identity 1) 1 []) :=
  (position_weights_iff (p := .exit) (by decide +kernel) _).mpr
    (by unfold Position.Agrees; decide +kernel)

/-- A guard that is no exit gets the whole weight of an exit at the exit position. -/
theorem guard_weighs_as_exit :
    ∃ vars, create .rational sampleWeights .WEIGHT_FOR_EXIT = some vars ∧
      RouterClass.ofRouter (Sample.router 1) = .g ∧
      vars.weightOf .rational (Sample.router 1) = 1 ∧
      Position.exit.specified sampleWeights (Sample.router 1) = 0 := by
  refine ⟨_, create_of_defines Doubles.rational_signed (by decide +kernel), ?_⟩
  decide +kernel

/-! ## The draw -/

theorem javaLong_of_range {x : Int} (hlow : 0 ≤ x) (hhigh : x < 2 ^ 63) : javaLong x = x := by
  unfold javaLong
  rw [Int.bmod_def]
  split <;> omega

theorem javaLong_nonneg {x : Int} (hlow : 0 ≤ x) (hhigh : x < 2 ^ 64) :
    0 ≤ javaLong x ↔ x < 2 ^ 63 := by
  unfold javaLong
  rw [Int.bmod_def]
  split <;> omega

namespace TorRandom

/-- The bits of `nextLong()` that the loop of `nextLong(n)` does not draw again. -/
def accepts (n : Int) (bits : Nat) : Bool :=
  0 ≤ javaLong (javaLong (bits - bits % n) + javaLong (n - 1))

/-- The bits of a last round that is not complete are drawn again: there the sum wraps around. -/
theorem accepts_iff {n bits : Nat} (hn : 0 < n) (hn' : n < 2 ^ 63) (hbits : bits < 2 ^ 63) :
    accepts n bits = true ↔ bits < n * (2 ^ 63 / n) := by
  have hdiv := Nat.div_add_mod bits n
  have hmod := Nat.mod_lt bits hn
  have hrounds : bits < n * (2 ^ 63 / n) ↔ n * (bits / n) + n ≤ 2 ^ 63 := by
    rw [Nat.mul_comm, ← Nat.div_lt_iff_lt_mul hn, ← Nat.succ_le_iff, Nat.le_div_iff_mul_le hn,
      Nat.succ_mul, Nat.mul_comm n]
  rw [hrounds]
  unfold accepts
  generalize n * (bits / n) = q at *
  have hround : javaLong (bits - bits % n) = q := by
    rw [javaLong_of_range] <;> omega
  have hlast : javaLong (n - 1) = n - 1 := by
    rw [javaLong_of_range] <;> omega
  rw [hround, hlast, decide_eq_true_iff, javaLong_nonneg (by omega) (by omega)]
  omega

/-- Of the accepted bits each position gets its share in every round. -/
theorem count_accepted {shares : List Nat} (hpos : 0 < shares.sum) (hlt : shares.sum < 2 ^ 63)
    {i share : Nat} (hi : shares[i]? = some share) :
    Nat.count (fun bits => accepts shares.sum bits = true ∧
      Shares.position shares (bits % shares.sum) = i) (2 ^ 63) =
      share * (2 ^ 63 / shares.sum) := by
  have haccepts : ∀ bits < 2 ^ 63, accepts shares.sum bits = true ↔
      bits < shares.sum * (2 ^ 63 / shares.sum) := fun bits hbits => accepts_iff hpos hlt hbits
  obtain ⟨rest, hrest⟩ := Nat.exists_eq_add_of_le (Nat.mul_div_le (2 ^ 63) shares.sum)
  have hrounds : Nat.count (fun bits => accepts shares.sum bits = true ∧
      Shares.position shares (bits % shares.sum) = i) (shares.sum * (2 ^ 63 / shares.sum)) =
      share * (2 ^ 63 / shares.sum) := by
    rw [← Shares.count_position hi, ← Shares.count_mod]
    simp only [Nat.count_eq_card_filter_range]
    congr 1
    apply Finset.filter_congr
    intro bits hbits
    have hbits := Finset.mem_range.mp hbits
    exact and_iff_right ((haccepts bits (by omega)).mpr hbits)
  rw [hrest, Nat.count_add, ← hrest, hrounds, Nat.count_iff_forall_not.mpr, Nat.add_zero]
  -- what is left over is drawn again
  rintro bits hbits ⟨haccepted, -⟩
  rw [haccepts _ (by omega)] at haccepted
  omega

end TorRandom

namespace BandwidthWeightedRouters

variable {D : Type} {l : List (WeightedRouter D)} {sum : Int}

/-- The scaled bandwidths, where none is negative. -/
def shares (l : List (WeightedRouter D)) : List Nat := l.map (·.scaledBandwidth.toNat)

/-- Every sum the loops come to is exact. -/
structure Exact (sum : Int) (l : List (WeightedRouter D)) : Prop where
  nonneg : ∀ wr ∈ l, 0 ≤ wr.scaledBandwidth
  low : 0 ≤ sum
  high : sum + (shares l).sum < 2 ^ 63

theorem Exact.javaLong_eq {wr : WeightedRouter D} (h : Exact sum (wr :: l)) :
    javaLong (sum + wr.scaledBandwidth) = sum + wr.scaledBandwidth := by
  obtain ⟨hnonneg, hlow, hhigh⟩ := h
  have hfirst := hnonneg wr List.mem_cons_self
  simp only [shares, List.map_cons, List.sum_cons] at hhigh
  exact javaLong_of_range (by omega) (by omega)

theorem Exact.rest {wr : WeightedRouter D} (h : Exact sum (wr :: l)) :
    Exact (sum + wr.scaledBandwidth) l := by
  obtain ⟨hnonneg, hlow, hhigh⟩ := h
  have hfirst := hnonneg wr List.mem_cons_self
  simp only [shares, List.map_cons, List.sum_cons] at hhigh
  refine ⟨fun w hw => hnonneg w (List.mem_cons_of_mem _ hw), by omega, ?_⟩
  simp only [shares]
  omega

theorem Exact.total (h : Exact sum l) :
    l.foldl (fun total wr => javaLong (total + wr.scaledBandwidth)) sum = sum + (shares l).sum := by
  induction l generalizing sum with
  | nil => simp [shares]
  | cons wr rest ih =>
    have hfirst := h.nonneg wr List.mem_cons_self
    rw [List.foldl_cons, h.javaLong_eq, ih h.rest]
    simp only [shares, List.map_cons, List.sum_cons]
    omega

/-- Once a router is chosen no sum is above the value compared with. -/
theorem Exact.chosen (h : Exact sum l) (r : RouterObject) :
    (l.foldl chooseRound (sum, LONG_MAX_VALUE, some r)).2.2 = some r := by
  induction l generalizing sum with
  | nil => rfl
  | cons wr rest ih =>
    have hhigh : ¬ sum + wr.scaledBandwidth > LONG_MAX_VALUE := by
      have hrest := h.rest.high
      unfold LONG_MAX_VALUE
      omega
    rw [List.foldl_cons, chooseRound, h.javaLong_eq, if_neg hhigh]
    exact ih h.rest

/-- The loop chooses the router on whose position the value falls. -/
theorem Exact.position (h : Exact sum l) {v : Nat} (hv : v < (shares l).sum) :
    (l.foldl chooseRound (sum, sum + v, none)).2.2 =
      l[Shares.position (shares l) v]?.map (·.router) := by
  induction l generalizing sum v with
  | nil => simp [shares] at hv
  | cons wr rest ih =>
    have hfirst := h.nonneg wr List.mem_cons_self
    rw [List.foldl_cons, chooseRound, h.javaLong_eq]
    simp only [shares, List.map_cons, List.sum_cons] at hv ⊢
    rw [Shares.position]
    by_cases hlt : v < wr.scaledBandwidth.toNat
    · rw [if_pos (by omega), if_pos hlt]
      exact h.rest.chosen wr.router
    · rw [if_neg (by omega), if_neg hlt]
      obtain ⟨w, rfl⟩ := Nat.exists_eq_add_of_le (Nat.le_of_not_lt hlt)
      have hvalue : sum + ((wr.scaledBandwidth.toNat + w : Nat) : Int) =
          sum + wr.scaledBandwidth + w := by omega
      rw [hvalue, Nat.add_sub_cancel_left, List.getElem?_cons_succ]
      exact ih h.rest (by simp only [shares]; omega)

/-- **A draw selects each router as often as its share**, where routers are told apart by their
positions in the list. -/
theorem choice_proportional (F : Doubles D) (bwr : BandwidthWeightedRouters D)
    (hl : (bwr.scaled F).weightedRouters = l) (hnonneg : ∀ wr ∈ l, 0 ≤ wr.scaledBandwidth)
    (hpos : 0 < (shares l).sum) (hlt : (shares l).sum < 2 ^ 63) :
    (∀ n, (l.take n).foldl (fun sum wr => javaLong (sum + wr.scaledBandwidth)) 0 =
        ((shares l).take n).sum) ∧
      (∀ bits < 2 ^ 63, TorRandom.accepts (shares l).sum bits = true →
        ∃ wr, l[Shares.position (shares l) (bits % (shares l).sum)]? = some wr ∧
          bwr.chooseRandomRouterByWeight F bits = .ok (some wr.router)) ∧
      ∀ i share, (shares l)[i]? = some share →
        Nat.count (fun bits => TorRandom.accepts (shares l).sum bits = true ∧
          Shares.position (shares l) (bits % (shares l).sum) = i) (2 ^ 63) =
          share * (2 ^ 63 / (shares l).sum) := by
  have hexact : Exact 0 l := ⟨hnonneg, le_rfl, by omega⟩
  refine ⟨?_, ?_, fun i share hi => TorRandom.count_accepted hpos hlt hi⟩
  · intro n
    have htake : shares (l.take n) = (shares l).take n := List.map_take
    have hsplit := (shares l).sum_take_add_sum_drop n
    rw [← htake] at hsplit ⊢
    have hfront : Exact 0 (l.take n) :=
      ⟨fun wr hwr => hnonneg wr (List.mem_of_mem_take hwr), le_rfl, by omega⟩
    rw [hfront.total, Int.zero_add]
  · intro bits _ _
    have hv : bits % (shares l).sum < (shares l).sum := Nat.mod_lt bits hpos
    have hposition : Shares.position (shares l) (bits % (shares l).sum) < l.length := by
      have hlength := Shares.position_lt hv
      rwa [shares, List.length_map] at hlength
    have hdrawn : TorRandom.nextLong (shares l).sum bits = 0 + (bits % (shares l).sum : Nat) := by
      rw [TorRandom.nextLong, Int.natAbs_natCast, Int.zero_add, Int.natCast_emod]
    have htotal : (bwr.scaled F).scaledTotal = (shares l).sum := by
      rw [scaledTotal, hl, hexact.total, Int.zero_add]
    refine ⟨_, List.getElem?_eq_getElem hposition, ?_⟩
    unfold chooseRandomRouterByWeight chooseFirstElementAboveRandom
    dsimp only
    rw [htotal, if_neg (by omega), hdrawn, hl, hexact.position hv,
      List.getElem?_eq_getElem hposition]
    rfl

/-- Two routers, the second with three times the share of the first. -/
def sampleScaled : BandwidthWeightedRouters ℚ where
  weightedRouters :=
    [⟨⟨0, Sample.router 1⟩, false, 1, 1⟩, ⟨⟨1, Sample.router 2⟩, false, 3, 3⟩]
  totalExitBw := 0
  totalNonExitBw := 4
  totalGuardBw := 4
  isScaled := true

theorem sample_draws :
    Nat.count (fun bits => TorRandom.accepts 4 bits = true ∧
      Shares.position [1, 3] (bits % 4) = 1) (2 ^ 63) = 3 * 2 ^ 61 :=
  (choice_proportional .rational sampleScaled rfl (by decide) (by decide) (by decide)).2.2 1 3 rfl

end BandwidthWeightedRouters

end Orchid
