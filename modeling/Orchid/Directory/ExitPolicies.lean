import Orchid.Directory.FieldEscapes

/-!
# Orchid — networks and exit policies

`Network.createFromString` makes its mask from any number, and an `ExitPolicy` is asked two ways:
for an address and a port, and for a port alone, where only rules written `*` count.

* **`networks_read`**: which texts are read as networks, with the prefix they say.
* **`policy_questions_agree`**: when the two questions agree.
-/

namespace Orchid

open Prog

/-! ## Networks -/

namespace Network

def contains (n : Network) (address : IPv4Address) : Bool :=
  address.addressData &&& n.maskValue = n.network.addressData &&& n.maskValue

/-- The number of bits behind the address. -/
def bitsOf : List JString → Option Int
  | [] => some 32
  | [bits] => parseInt bits
  | _ => none

theorem createMask_getMsbD : ∀ (bits : Fin 33) (i : Fin 32),
    (createMask bits.val).getMsbD i.val = decide (i.val < bits.val) := by
  decide +kernel

/-- A network contains the addresses with its first bits. -/
theorem contains_iff (network a : IPv4Address) (text : JString) {bits : Int} (hlow : 0 ≤ bits)
    (hhigh : bits ≤ 32) :
    contains ⟨network, createMask bits, text⟩ a = true ↔
      ∀ i : Nat, i < bits → a.addressData.getMsbD i = network.addressData.getMsbD i := by
  obtain ⟨bits, rfl⟩ := Int.eq_ofNat_of_zero_le hlow
  have hmask : ∀ i, i < 32 → (createMask bits).getMsbD i = decide (i < bits) :=
    fun i hi => createMask_getMsbD ⟨bits, by omega⟩ ⟨i, hi⟩
  unfold contains
  rw [decide_eq_true_iff]
  constructor
  · intro h i hi
    have hbit := congrArg (·.getMsbD i) h
    simpa [BitVec.getMsbD_and, hmask i (by omega), Int.ofNat_lt.mp hi] using hbit
  · intro h
    refine BitVec.eq_of_getMsbD_eq fun i hi => ?_
    rw [BitVec.getMsbD_and, BitVec.getMsbD_and, hmask i hi]
    by_cases hi' : i < bits
    · rw [h i (Int.ofNat_lt.mpr hi')]
    · simp [hi']

variable {parts : List JString}

/-- What becomes of a text behind its address. -/
theorem createFromString_cons {s address : JString} {network : IPv4Address}
    (hsplit : split '/' s = address :: parts)
    (haddress : IPv4Address.createFromString address = .ok network) :
    ∃ message, createFromString s = (bitsOf parts).elim (.error (.torParsing message)) fun bits =>
      .ok ⟨network, createMask bits, s⟩ := by
  unfold createFromString
  rw [hsplit]
  dsimp only
  rw [haddress]
  match parts with
  | [] => exact ⟨[], rfl⟩
  | [bits] =>
    refine ⟨lit "Invalid netblock mask bit value: " ++ bits, ?_⟩
    simp only [bind, Except.bind, bitsOf]
    cases parseInt bits <;> rfl
  | _ :: _ :: _ => exact ⟨_, rfl⟩

/-- The text is an address, perhaps with a number of bits behind a slash, and is read as such. -/
def Reads (s : JString) (n : Network) : Prop :=
  ∃ address parts network bits, s.splitOn '/' = address :: parts ∧
    IPv4Address.createFromString address = .ok network ∧ bitsOf parts = some bits ∧
    0 ≤ bits ∧ bits ≤ 32 ∧ ∀ a, n.contains a = true ↔
      ∀ i : Nat, i < bits → a.addressData.getMsbD i = network.addressData.getMsbD i

/-- There is something besides slashes, in front of them no five octets, and behind an address only
a number from 0 to 32 and no slash that is dropped. -/
def PlainNetwork (s : JString) : Prop :=
  match split '/' s with
  | [] => False
  | address :: parts => ¬ FiveOctets address ∧ (AddressText address → ∀ bits ∈ bitsOf parts,
      0 ≤ bits ∧ bits ≤ 32 ∧ s.splitOn '/' = address :: parts)

/-- Where the last part is not empty, `split` drops nothing. -/
theorem split_eq_splitOn {s : JString} {delimiter : Char} {last : JString}
    (hparts : s.splitOn delimiter = parts ++ [last]) (hlast : last ≠ []) :
    split delimiter s = s.splitOn delimiter := by
  unfold split
  split
  · rw [hparts]
    simp [hlast]
  · rename_i hnone
    have hfree : delimiter ∉ s := by simpa using hnone
    simpa using (List.splitOn_intercalate delimiter (fun l (hl : l ∈ [s]) => by
      rw [List.mem_singleton.mp hl]
      exact hfree) (by simp)).symm

theorem bitsOf_last {address : JString} {bits : Int}
    (haddress : address ≠ []) (hbits : bitsOf parts = some bits) :
    ∃ front last, address :: parts = front ++ [last] ∧ last ≠ [] := by
  match parts with
  | [] => exact ⟨[], address, rfl, haddress⟩
  | [text] =>
    refine ⟨[address], text, rfl, ?_⟩
    rintro rfl
    cases hbits

/-- **A text is read as a network, or reported as one that is none**, exactly if it is plain. -/
theorem networks_read (s : JString) :
    ((∃ message, createFromString s = .error (.torParsing message)) ∨
      ∃ n, createFromString s = .ok n ∧ Reads s n) ↔ PlainNetwork s := by
  unfold PlainNetwork
  cases hsplit : split '/' s with
  | nil =>
    refine iff_of_false ?_ id
    unfold createFromString
    rw [hsplit]
    rintro (⟨message, h⟩ | ⟨n, h, -⟩) <;> cases h
  | cons address parts =>
    obtain ⟨hreads, hraises⟩ := createFromString_address address
    simp only [← hreads, ← hraises]
    cases haddress : IPv4Address.createFromString address with
    | error e =>
      have hrun : createFromString s = .error e := by
        unfold createFromString
        rw [hsplit]
        dsimp only
        rw [haddress]
        rfl
      rw [hrun]
      cases e <;> simp [Reported]
    | ok network =>
      obtain ⟨message, hrun⟩ := createFromString_cons hsplit haddress
      rw [hrun]
      cases hbits : bitsOf parts with
      | none => simp
      | some bits =>
        constructor
        · rintro (⟨_, h⟩ | ⟨n, -, address', parts', _, _, hon, haddress', hbits', hlow, hhigh, -⟩)
          · cases h
          · -- the number behind the slash is not empty, so that nothing was dropped
            have hne : address' ≠ [] := by
              rintro rfl
              cases haddress'
            obtain ⟨front, last, hlast, hne⟩ := bitsOf_last hne hbits'
            have hsame := split_eq_splitOn (hon.trans hlast) hne
            rw [hsplit, hon] at hsame
            cases hsame
            cases hbits.symm.trans hbits'
            refine ⟨raises_ok _, fun _ _ h => ?_⟩
            cases h
            exact ⟨hlow, hhigh, hon⟩
        · rintro ⟨-, hplain⟩
          obtain ⟨hlow, hhigh, hon⟩ := hplain ⟨network, rfl⟩ bits rfl
          exact Or.inr ⟨_, rfl, address, parts, network, bits, hon, haddress, hbits, hlow, hhigh,
            fun a => contains_iff network a s hlow hhigh⟩

/-- 33 bits are read, and count as one; a slash at the end is dropped, and one alone is not
reported. -/
theorem bits_out_of_range :
    bitsOf [lit "33"] = some 33 ∧ createFromString (lit "10.0.0.0/33") =
        .ok ⟨⟨0x0A000000#32⟩, 0x80000000#32, lit "10.0.0.0/33"⟩ ∧
      (createFromString (lit "10.0.0.0/8/")).isOk = true ∧
      createFromString (lit "/") = .error .indexOutOfBounds := by
  decide

end Network

/-! ## Exit policies -/

def PortRange.rangeContains (r : PortRange) (port : Int) : Bool :=
  port ≥ r.portStart && port ≤ r.portEnd

namespace PolicyRule

/-- `matchesPort`; only the network that `*` stands for is equal to it. -/
def matchesPort (r : PolicyRule) (port : Int) : Bool :=
  r.network = Network.ALL_ADDRESSES && r.portRange.rangeContains port

def matchesDestination (r : PolicyRule) (address : IPv4Address) (port : Int) : Bool :=
  r.network.contains address && r.portRange.rangeContains port

end PolicyRule

namespace ExitPolicy

def acceptsPort (rules : List PolicyRule) (port : Int) : Bool :=
  match rules.find? (·.matchesPort port) with
  | some r => r.isAcceptRule
  | none => false

def acceptsDestination (rules : List PolicyRule) (address : Option IPv4Address) (port : Int) :
    Bool :=
  match address with
  | none => acceptsPort rules port
  | some address =>
    match rules.find? (·.matchesDestination address port) with
    | some r => r.isAcceptRule
    | none => true

/-- What holds for the port at all addresses holds for the port. -/
def Agrees (rules : List PolicyRule) (port : Int) : Prop :=
  ∀ answer, (∀ address, acceptsDestination rules (some address) port = answer) →
    acceptsPort rules port = answer

/-- If a rule for `*` has the port, the address is left to it by the rules in front, or the first of
them that has the address says the same; and otherwise the address is rejected by a rule. -/
def HeardAt (rules : List PolicyRule) (port : Int) (address : IPv4Address) : Prop :=
  match rules.find? (·.matchesPort port) with
  | some r => ∀ r' ∈ (rules.takeWhile (!·.matchesPort port)).find?
      (·.matchesDestination address port), r'.isAcceptRule = r.isAcceptRule
  | none => ∃ r ∈ rules.find? (·.matchesDestination address port), r.isAcceptRule = false

theorem acceptsDestination_eq_acceptsPort {rules : List PolicyRule} {port : Int}
    {address : IPv4Address} :
    acceptsDestination rules (some address) port = acceptsPort rules port ↔
      HeardAt rules port address := by
  unfold acceptsDestination acceptsPort HeardAt
  cases hport : rules.find? (·.matchesPort port) with
  | none =>
    dsimp only
    cases rules.find? (·.matchesDestination address port) <;> simp
  | some r =>
    obtain ⟨hr, front, back, rfl, hfront⟩ := List.find?_eq_some_iff_append.mp hport
    have hdestination : r.matchesDestination address port = true := by
      simp only [PolicyRule.matchesPort, Bool.and_eq_true, decide_eq_true_eq] at hr
      simp [PolicyRule.matchesDestination, hr, Network.contains, Network.ALL_ADDRESSES,
        Network.createMask]
    have htake : (front ++ r :: back).takeWhile (!·.matchesPort port) = front := by
      rw [List.takeWhile_append_of_pos hfront]
      simp [hr]
    have hfirst : (front ++ r :: back).find? (·.matchesDestination address port) =
        (front.find? (·.matchesDestination address port)).or (some r) := by
      rw [List.find?_append]
      simp [hdestination]
    simp only [htake, hfirst]
    cases front.find? (·.matchesDestination address port) <;> simp

/-- **The two questions agree** for a port exactly if some address is asked for as the port is. -/
theorem policy_questions_agree (rules : List PolicyRule) (port : Int) :
    Agrees rules port ↔ ∃ address, HeardAt rules port address := by
  simp only [← acceptsDestination_eq_acceptsPort]
  constructor
  · intro h
    by_contra hnone
    have hother := h (!acceptsPort rules port) fun address =>
      Bool.eq_not.mpr fun hsame => hnone ⟨address, hsame⟩
    simp at hother
  · rintro ⟨address, haddress⟩ answer hall
    rw [← haddress, hall]

/-- All addresses are accepted without any rule, and by one that writes them with numbers. -/
theorem accepted_everywhere_but_refused :
    ∃ r, PolicyRule.createRule (lit "0.0.0.0/0:*") true = .ok r ∧ ∀ rules ∈ [[], [r]],
      (∀ address, acceptsDestination rules (some address) 80 = true) ∧
        acceptsPort rules 80 = false := by
  refine ⟨⟨⟨⟨0⟩, 0, lit "0.0.0.0/0"⟩, PolicyRule.ALL_PORTS, true⟩, by decide, ?_⟩
  simp only [List.forall_mem_cons, List.not_mem_nil, false_implies, implies_true, and_true]
  refine ⟨⟨fun _ => rfl, rfl⟩, fun address => ?_, by decide⟩
  simp [acceptsDestination, PolicyRule.matchesDestination, Network.contains,
    PortRange.rangeContains, PolicyRule.ALL_PORTS, MAX_PORT]

end ExitPolicy

end Orchid
