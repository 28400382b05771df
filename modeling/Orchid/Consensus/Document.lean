import Mathlib
import Orchid.Crypto.Platform

/-!
# Orchid — consensus documents

The values a consensus document is built from, with the operations the section parsers use.
A `HashMap` of the source is an `AList`: finitely many entries with distinct keys. What
order `values()` delivers them in is left open wherever it is used.
-/

namespace Orchid

/-- A Java map. -/
abbrev JMap (K V : Type) := AList fun _ : K => V

inductive ConsensusFlavor where
  | NS
  | MICRODESC
  deriving DecidableEq, Repr

/-! ## Exit ports -/

def MAX_PORT : Int := 0xFFFF

structure PortRange where
  portStart : Int
  portEnd : Int
  deriving DecidableEq

namespace PortRange

def isValidPort (port : Int) : Bool := 0 ≤ port && port ≤ MAX_PORT

def stringToPort (port : JString) : Except JavaException Int :=
  match parseInt port with
  | none => .error (.torParsing (lit "Could not parse port value: " ++ port))
  | some portValue =>
    if isValidPort portValue then .ok portValue
    else .error (.torParsing (lit "Illegal port value: " ++ port))

def isValidRange (start stop : Int) : Bool :=
  isValidPort start && isValidPort stop && start ≤ stop

def create (start stop : Int) : Except JavaException PortRange :=
  if isValidRange start stop then .ok ⟨start, stop⟩
  else .error (.tor (lit "Invalid port range: " ++ showInt start ++ lit "-" ++ showInt stop))

def createFromString (ports : JString) : Except JavaException PortRange :=
  match split '-' ports with
  | [port] => do
    let portValue ← stringToPort port
    create portValue portValue
  | [first, last] => do
    let start ← stringToPort first
    let stop ← stringToPort last
    create start stop
  | _ => .error (.torParsing (lit "Could not parse port range from string: " ++ ports))

end PortRange

structure ExitPorts where
  areAcceptPorts : Bool
  ranges : List PortRange
  deriving DecidableEq

/-- `createAcceptExitPorts` and `createRejectExitPorts`. -/
def ExitPorts.create (acceptPorts : Bool) (ports : JString) : Except JavaException ExitPorts := do
  return ⟨acceptPorts, ← (split ',' ports).mapM PortRange.createFromString⟩

/-! ## Entries -/

structure RouterStatus where
  nickname : Option JString := none
  identity : Option HexDigest := none
  digest : Option HexDigest := none
  microdescriptorDigest : Option HexDigest := none
  publicationTime : Option Int := none
  address : Option IPv4Address := none
  routerPort : Int := 0
  directoryPort : Int := 0
  flags : List JString := []
  version : Option JString := none
  bandwidthEstimate : Int := 0
  bandwidthMeasured : Int := 0
  hasBandwidth : Bool := false
  exitPorts : Option ExitPorts := none
  deriving DecidableEq

structure DirectorySignature where
  identityDigest : HexDigest
  signingKeyDigest : HexDigest
  signature : TorSignature
  useSha256 : Bool
  deriving DecidableEq

structure VoteAuthorityEntry where
  nickname : Option JString := none
  identity : Option HexDigest := none
  hostname : Option JString := none
  address : Option IPv4Address := none
  dirport : Int := -1
  orport : Int := -1
  contact : Option JString := none
  voteDigest : Option HexDigest := none
  signatures : List DirectorySignature := []
  deriving DecidableEq

/-- An authority entry apart from its signatures. -/
def VoteAuthorityEntry.unsigned (entry : VoteAuthorityEntry) : VoteAuthorityEntry :=
  { entry with signatures := [] }

/-! ## Documents -/

/-- `ConsensusDocumentImpl`. The key of an authority entry is its identity, which is null for
an entry whose `dir-source` line is missing. -/
structure ConsensusDocument where
  consensusMethod : Int := 0
  flavor : Option ConsensusFlavor := none
  validAfter : Option Int := none
  freshUntil : Option Int := none
  validUntil : Option Int := none
  distDelaySeconds : Int := 0
  voteDelaySeconds : Int := 0
  clientVersions : List JString := []
  serverVersions : List JString := []
  knownFlags : List JString := []
  signingHash : Option HexDigest := none
  signingHash256 : Option HexDigest := none
  voteAuthorityEntries : JMap (Option HexDigest) VoteAuthorityEntry := ∅
  routerStatusEntries : List RouterStatus := []
  bandwidthWeights : JMap JString Int := ∅
  parameters : JMap JString Int := ∅
  signatureCount : Nat := 0
  rawDocumentData : Option JString := none

namespace ConsensusDocument

variable (doc : ConsensusDocument)

def addParameter (name : JString) (value : Int) : ConsensusDocument :=
  { doc with parameters := doc.parameters.insert name value }

def addBandwidthWeight (name : JString) (value : Int) : ConsensusDocument :=
  { doc with bandwidthWeights := doc.bandwidthWeights.insert name value }

def addVoteAuthorityEntry (entry : VoteAuthorityEntry) : ConsensusDocument :=
  { doc with voteAuthorityEntries := doc.voteAuthorityEntries.insert entry.identity entry }

def addRouterStatusEntry (entry : RouterStatus) : ConsensusDocument :=
  { doc with routerStatusEntries := doc.routerStatusEntries ++ [entry] }

/-- Whether the authority has a signature with the algorithm of the new one. The algorithm is
the one of the signature object, which is always SHA-1, not the one the line names. -/
def hasSignatureLike (authority : VoteAuthorityEntry) (signature : DirectorySignature) : Bool :=
  authority.signatures.any fun sig =>
    sig.signature.digestAlgorithm = signature.signature.digestAlgorithm

/-- `addSignature`: the signature is filed under its own identity; one of an authority that
was not declared, and a second one with the same algorithm, is dropped. -/
def addSignature (signature : DirectorySignature) : ConsensusDocument :=
  match doc.voteAuthorityEntries.lookup (some signature.identityDigest) with
  | none => doc
  | some voteAuthority =>
    if hasSignatureLike voteAuthority signature then doc
    else
      { doc with
        signatureCount := doc.signatureCount + 1
        voteAuthorityEntries := doc.voteAuthorityEntries.insert (some signature.identityDigest)
          { voteAuthority with signatures := voteAuthority.signatures ++ [signature] } }

/-- `addSignature` as an operation on the authority entries. -/
def fileSignature (entries : JMap (Option HexDigest) VoteAuthorityEntry)
    (signature : DirectorySignature) : JMap (Option HexDigest) VoteAuthorityEntry :=
  match entries.lookup (some signature.identityDigest) with
  | none => entries
  | some voteAuthority =>
    if hasSignatureLike voteAuthority signature then entries
    else entries.insert (some signature.identityDigest)
      { voteAuthority with signatures := voteAuthority.signatures ++ [signature] }

theorem addSignature_entries (signature : DirectorySignature) :
    (doc.addSignature signature).voteAuthorityEntries =
      fileSignature doc.voteAuthorityEntries signature := by
  unfold addSignature fileSignature
  cases doc.voteAuthorityEntries.lookup (some signature.identityDigest) with
  | none => rfl
  | some voteAuthority =>
    dsimp only
    split <;> rfl

/-- `getBandwidthWeight`; `-1` when there is none. -/
def getBandwidthWeight (tag : JString) : Int :=
  match doc.bandwidthWeights.lookup tag with
  | some weight => weight
  | none => -1

/-- Adding a signature changes an authority entry in its signatures only. -/
theorem addSignature_unsigned (signature : DirectorySignature) (key : Option HexDigest) :
    ((doc.addSignature signature).voteAuthorityEntries.lookup key).map VoteAuthorityEntry.unsigned =
      (doc.voteAuthorityEntries.lookup key).map VoteAuthorityEntry.unsigned := by
  unfold addSignature
  cases hlook : doc.voteAuthorityEntries.lookup (some signature.identityDigest) with
  | none => rfl
  | some voteAuthority =>
    dsimp only
    split
    · rfl
    · by_cases hkey : key = some signature.identityDigest
      · subst hkey
        rw [AList.lookup_insert, hlook]
        rfl
      · rw [AList.lookup_insert_ne hkey]

/-! ## How signatures are filed -/

/-- Every authority entry is filed under its identity and holds signatures made in that
name only. -/
def Filed : Prop :=
  ∀ key entry, doc.voteAuthorityEntries.lookup key = some entry →
    entry.identity = key ∧ ∀ signature ∈ entry.signatures, some signature.identityDigest = key

/-- No signature has been filed. -/
def Unsigned : Prop :=
  ∀ key entry, doc.voteAuthorityEntries.lookup key = some entry → entry.signatures = []

variable {doc} {entry : VoteAuthorityEntry}

/-- An authority entry is the one that was added last, or one that was there. -/
theorem addVoteAuthorityEntry_lookup {entry' : VoteAuthorityEntry} {key : Option HexDigest}
    (h : (doc.addVoteAuthorityEntry entry).voteAuthorityEntries.lookup key = some entry') :
    key = entry.identity ∧ entry' = entry ∨ doc.voteAuthorityEntries.lookup key = some entry' := by
  rcases eq_or_ne key entry.identity with rfl | hkey
  · exact .inl ⟨rfl, Option.some.inj (h.symm.trans (AList.lookup_insert _))⟩
  · exact .inr ((AList.lookup_insert_ne hkey).symm.trans h)

theorem Unsigned.addVoteAuthorityEntry (h : doc.Unsigned)
    (hentry : entry.signatures = []) : (doc.addVoteAuthorityEntry entry).Unsigned := by
  intro key entry' hlook
  rcases addVoteAuthorityEntry_lookup hlook with ⟨-, rfl⟩ | hold
  · exact hentry
  · exact h key entry' hold

theorem Filed.addVoteAuthorityEntry (h : doc.Filed)
    (hentry : entry.signatures = []) : (doc.addVoteAuthorityEntry entry).Filed := by
  intro key entry' hlook
  rcases addVoteAuthorityEntry_lookup hlook with ⟨rfl, rfl⟩ | hold
  · rw [hentry]
    exact ⟨rfl, List.forall_mem_nil _⟩
  · exact h key entry' hold

theorem Filed.addSignature (h : doc.Filed) (signature : DirectorySignature) :
    (doc.addSignature signature).Filed := by
  unfold ConsensusDocument.addSignature
  cases hauth : doc.voteAuthorityEntries.lookup (some signature.identityDigest) with
  | none => exact h
  | some authority =>
    dsimp only
    split
    · exact h
    · intro key entry' hlook
      by_cases hkey : key = some signature.identityDigest
      · subst hkey
        obtain ⟨hidentity, hsigs⟩ := h _ _ hauth
        rw [AList.lookup_insert, Option.some.injEq] at hlook
        subst hlook
        refine ⟨hidentity, fun s hmem => ?_⟩
        rcases List.mem_append.mp hmem with hold | hnew
        · exact hsigs s hold
        · rw [List.mem_singleton.mp hnew]
      · rw [AList.lookup_insert_ne hkey] at hlook
        exact h key entry' hlook

end ConsensusDocument

end Orchid
