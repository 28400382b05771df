import Orchid.Consensus.Signatures
import Orchid.Directory.Routers

/-!
# Orchid — the directory

`DirectoryImpl` keeps the consensus in force, the tables of the routers it lists, and a consensus
that waits for the certificates to check it with. Two calls change these: a document is offered
(`addConsensusDocument`), or a certificate arrives (`addCertificate`). The second may complete the
waiting document and then offers it once more.

* The calls are cut where the source changes what it locks: `supersedes` and `install` run under
  the monitor of the directory, `examine` and `receiveCertificate` under that of the trusted
  authorities.
* **`Offer`** and **`Receipt`** list all outcomes of the two calls, exceptions included.
-/

namespace Orchid

open Prog

/-! ## The state -/

/-- The fields of `DirectoryImpl` its updates use, with the authorities of the singleton
`TrustedAuthorities` and the two files of the store. -/
structure DirectoryImpl where
  routers : RouterTables
  directoryCaches : List Nat := []
  requiredCertificates : List RequiredCertificate := []
  currentConsensus : Option ConsensusDocument := none
  consensusWaitingForCertificates : Option ConsensusDocument := none
  microdescriptorCache : HexDigest → Option Descriptor := fun _ => none
  basicDescriptorCache : HexDigest → Option Descriptor := fun _ => none
  directoryServers : List DirectoryServer := []
  storedConsensus : Option ConsensusDocument := none
  storedCertificates : List KeyCertificate := []

/-- `equals`; the receiver of the inner comparison is the hash of the other document. -/
def ConsensusDocument.equals (doc other : ConsensusDocument) : Except JavaException Bool :=
  match other.signingHash with
  | none => .error .nullPointer
  | some signingHash => .ok (some signingHash = doc.signingHash)

/-- `getValidAfterTime().isBefore(..)`. -/
def ConsensusDocument.isBefore (doc other : ConsensusDocument) : Except JavaException Bool :=
  match doc.validAfter, other.validAfter with
  | some t, some t' => .ok (t < t')
  | _, _ => .error .nullPointer

namespace DirectoryImpl

abbrev DirectoryM := Prog JavaException DirectoryImpl

/-- The directory as its constructor leaves it. -/
def create (directoryServers : List DirectoryServer) : DirectoryImpl :=
  { routers := ⟨[], ∅, ∅, fun _ _ hlookup => by rw [AList.lookup_empty] at hlookup; cases hlookup⟩
    directoryServers }

def hasPendingConsensus (s : DirectoryImpl) : Bool := s.consensusWaitingForCertificates.isSome

/-! ## Listing the routers of a consensus -/

def getDescriptorForRouterStatus (s : DirectoryImpl) (status : RouterStatus)
    (isMicrodescriptor : Bool) : Option Descriptor :=
  if isMicrodescriptor then status.microdescriptorDigest.bind s.microdescriptorCache
  else status.digest.bind s.basicDescriptorCache

/-- What `refreshDescriptor` of a router finds. -/
def refreshDescriptor (s : DirectoryImpl) (status : RouterStatus) : Option Descriptor :=
  match status.microdescriptorDigest with
  | some digest => s.microdescriptorCache digest
  | none => status.digest.bind s.basicDescriptorCache

/-- The router with a given status, as `createFromRouterStatus` and `updateStatus` leave it. -/
def routerFromStatus (s : DirectoryImpl) (status : RouterStatus) (hstatus : status.Complete) :
    RouterImpl where
  identityHash := status.identity.get hstatus.identity
  status := status
  descriptor := s.refreshDescriptor status
  complete := hstatus
  identity_eq := (Option.some_get hstatus.identity).symm

/-- `updateOrCreateRouter`: the reference of the router. -/
def updateOrCreateRouter (knownRouters : JMap HexDigest Nat) (status : RouterStatus)
    (hstatus : status.Complete) : DirectoryM Nat := do
  let s ← get
  let router := s.routerFromStatus status hstatus
  match knownRouters.lookup router.identityHash with
  | none =>
    modify fun s => { s with routers := s.routers.create router }
    return s.routers.objects.length
  | some ref =>
    let routers ← fromExcept (s.routers.updateStatus ref router)
    modify fun s => { s with routers }
    return ref

def isValidDirectoryCache (router : RouterImpl) : Bool :=
  if router.getDirectoryPort = 0 then false
  else if router.status.hasFlag (lit "BadDirectory") then false
  else router.status.hasFlag (lit "V2Dir")

def classifyRouter (ref : Nat) (s : DirectoryImpl) : DirectoryImpl :=
  if s.routers.objects[ref]?.any isValidDirectoryCache then
    { s with directoryCaches := s.directoryCaches.insert ref }
  else { s with directoryCaches := s.directoryCaches.erase ref }

/-- The router of a running and valid entry is filed and classified. The parser makes no entry
without the fields of its `r` line, and a router for such an entry is outside this model. -/
def listRunningRouter (knownRouters : JMap HexDigest Nat) (status : RouterStatus) :
    DirectoryM Unit := do
  if hstatus : status.Complete then
    let ref ← updateOrCreateRouter knownRouters status hstatus
    modify fun s => { s with routers := s.routers.addRouter ref }
    modify (classifyRouter ref)
  else throw .stuck

/-- A descriptor at hand is told when it was listed, for which the document is asked. -/
def updateLastListed (consensus : ConsensusDocument) (status : RouterStatus) : DirectoryM Unit := do
  let isMicrodescriptor := decide (consensus.flavor = some .MICRODESC)
  if ((← get).getDescriptorForRouterStatus status isMicrodescriptor).isSome then
    if consensus.validAfter.isNone then throw .nullPointer

/-- One round of the loop over the entries. -/
def listRouter (consensus : ConsensusDocument) (knownRouters : JMap HexDigest Nat)
    (status : RouterStatus) : DirectoryM Unit := do
  if status.hasFlag (lit "Running") && status.hasFlag (lit "Valid") then
    listRunningRouter knownRouters status
  updateLastListed consensus status

def clearAll (s : DirectoryImpl) : DirectoryImpl :=
  { s with routers := s.routers.clearAll, directoryCaches := [] }

def storeCurrentConsensus (s : DirectoryImpl) : DirectoryImpl :=
  { s with storedConsensus := s.currentConsensus }

/-- The part of `addConsensusDocument` behind the check of the signatures. -/
def install (consensus : ConsensusDocument) (fromCache : Bool) : DirectoryM Unit := do
  let oldRouterByIdentity := (← get).routers.routersByIdentity
  modify clearAll
  consensus.routerStatusEntries.forM (listRouter consensus oldRouterByIdentity)
  modify fun s => { s with currentConsensus := some consensus }
  if !fromCache then modify storeCurrentConsensus

/-! ## Offering a document -/

variable (P : Platform) (now : Int)

/-- The first two tests of `addConsensusDocument`: the document is the one in force, or older. -/
def supersedes (s : DirectoryImpl) (consensus : ConsensusDocument) : Except JavaException Bool :=
  match s.currentConsensus with
  | none => return false
  | some current => do
    if ← consensus.equals current then return true
    consensus.isBefore current

/-- `verifySignatures` of a document, with the certificates it asks for. -/
def verifySignatures (consensus : ConsensusDocument) :
    DirectoryM (SignatureStatus × List RequiredCertificate) := fun s =>
  match consensus.verifySignatures P now consensus.authorityEntries ⟨s.directoryServers, []⟩ with
  | .ok status st =>
    .ok (status, st.requiredCertificates) { s with directoryServers := st.directoryServers }
  | .error e st => .error e { s with directoryServers := st.directoryServers }

def requireCertificates (required : List RequiredCertificate) (s : DirectoryImpl) :
    DirectoryImpl :=
  { s with requiredCertificates := s.requiredCertificates ∪ required }

/-- The part of `addConsensusDocument` that checks the signatures: whether to go on. -/
def examine (consensus : ConsensusDocument) : DirectoryM Bool := do
  let (status, required) ← verifySignatures P now consensus
  match status with
  | .STATUS_FAILED => return false
  | .STATUS_NEED_CERTS =>
    modify fun s => { s with consensusWaitingForCertificates := some consensus }
    modify (requireCertificates required)
    return false
  | .STATUS_VERIFIED =>
    modify (requireCertificates required)
    return true

def addConsensusDocument (consensus : ConsensusDocument) (fromCache : Bool) :
    DirectoryM Unit := do
  if ← fromExcept ((← get).supersedes consensus) then return ()
  if ← examine P now consensus then install consensus fromCache

/-! ## Receiving a certificate -/

/-- `removeRequiredCertificate`. The certificate is asked for its key only if there is a required
one to compare with. -/
def removeRequiredCertificate (certificate : KeyCertificate) : DirectoryM Bool := do
  if (← get).requiredCertificates.isEmpty then return false
  match certificate.signingKey with
  | none => throw .nullPointer
  | some signingKey =>
    let fingerprint ← fromExcept (signingKey.getFingerprint P)
    if (← get).requiredCertificates.any (·.signingKey = fingerprint) then
      modify fun s => { s with
        requiredCertificates := s.requiredCertificates.eraseP (·.signingKey = fingerprint) }
      return true
    else return false

/-- `getAuthorityServerByIdentity` for the name on a certificate. -/
def authorityOf (certificate : KeyCertificate) (directoryServers : List DirectoryServer) :
    Except JavaException (Option Nat) :=
  match certificate.getAuthorityFingerprint with
  | some identity =>
    return TrustedAuthorities.getAuthorityServerByIdentity identity directoryServers
  | none => if directoryServers.isEmpty then return none else throw .nullPointer

/-- `as.addCertificate(certificate)` for the server at a position. -/
def addCertificateTo (authority : Nat) (certificate : KeyCertificate) : DirectoryM Unit := do
  match (← get).directoryServers[authority]? with
  | none => throw .nullPointer
  | some server =>
    let server' ← fromExcept (server.addCertificate P certificate)
    modify fun s => { s with directoryServers := s.directoryServers.set authority server' }

/-- The `switch` of `addCertificate`: the waiting document, if it is verified now. -/
def reexamine (waiting : ConsensusDocument) : DirectoryM (Option ConsensusDocument) := do
  let (status, required) ← verifySignatures P now waiting
  match status with
  | .STATUS_FAILED =>
    modify fun s => { s with consensusWaitingForCertificates := none }
    return none
  | .STATUS_VERIFIED => return some waiting
  | .STATUS_NEED_CERTS =>
    modify (requireCertificates required)
    return none

/-- The test in front of the `switch`. -/
def considerWaiting (wasRequired : Bool) : DirectoryM (Option ConsensusDocument) := do
  match (← get).consensusWaitingForCertificates with
  | none => return none
  | some waiting => if wasRequired then reexamine P now waiting else return none

/-- `addCertificate` up to the nested call: the document to be offered again, if there is one. -/
def receiveCertificate (certificate : KeyCertificate) :
    DirectoryM (Option ConsensusDocument) := do
  let wasRequired ← removeRequiredCertificate P certificate
  match ← fromExcept (authorityOf certificate (← get).directoryServers) with
  | none => return none
  | some authority =>
    addCertificateTo P authority certificate
    considerWaiting P now wasRequired

def addCertificate (certificate : KeyCertificate) : DirectoryM Unit := do
  match ← receiveCertificate P now certificate with
  | none => return ()
  | some waiting =>
    addConsensusDocument P now waiting false
    modify fun s => { s with consensusWaitingForCertificates := none }

/-- The loop of `storeCertificates`, which drops expired certificates on its way. -/
def collectCertificates :
    List DirectoryServer → Except JavaException (List DirectoryServer × List KeyCertificate)
  | [] => return ([], [])
  | server :: rest => do
    let server' ← server.getCertificates now
    let (rest', certs) ← collectCertificates rest
    return (server' :: rest', server'.certificates ++ certs)

/-- `storeCertificates`; what it drops before it raises is not followed further. -/
def storeCertificates : DirectoryM Unit := do
  let (directoryServers, certs) ←
    fromExcept (collectCertificates now (← get).directoryServers)
  modify fun s => { s with directoryServers, storedCertificates := certs }

/-! ## All outcomes of an offer -/

/-- The verdict on a document with the certificates held. -/
def verdict (s : DirectoryImpl) (doc : ConsensusDocument) : Except JavaException SignatureStatus :=
  doc.documentVerdict P now s.directoryServers doc.authorityEntries

/-- The directory after lookups have dropped expired certificates. -/
def Looked (s : DirectoryImpl) (servers' : List DirectoryServer) : Prop :=
  List.Forall₂ (DirectoryServer.Purged now) s.directoryServers servers'

/-- What an offered document leads to. -/
inductive Offer (consensus : ConsensusDocument) (fromCache : Bool) (s : DirectoryImpl) :
    EStateM.Result JavaException DirectoryImpl Unit → Prop where
  | superseded (hold : s.supersedes consensus = .ok true) : Offer consensus fromCache s (.ok () s)
  | incomparable {e : JavaException} (hraise : s.supersedes consensus = .error e) :
      Offer consensus fromCache s (.error e s)
  | unverifiable {e : JavaException} {servers' : List DirectoryServer}
      (hnew : s.supersedes consensus = .ok false) (hlooked : s.Looked now servers')
      (hverdict : s.verdict P now consensus = .error e) :
      Offer consensus fromCache s (.error e { s with directoryServers := servers' })
  | failed {servers' : List DirectoryServer} (hnew : s.supersedes consensus = .ok false)
      (hlooked : s.Looked now servers')
      (hverdict : s.verdict P now consensus = .ok .STATUS_FAILED) :
      Offer consensus fromCache s (.ok () { s with directoryServers := servers' })
  | pending {servers' : List DirectoryServer} (required : List RequiredCertificate)
      (hnew : s.supersedes consensus = .ok false) (hlooked : s.Looked now servers')
      (hverdict : s.verdict P now consensus = .ok .STATUS_NEED_CERTS) :
      Offer consensus fromCache s (.ok () (requireCertificates required
        { s with
          directoryServers := servers'
          consensusWaitingForCertificates := some consensus }))
  | verified {servers' : List DirectoryServer} (required : List RequiredCertificate)
      (hnew : s.supersedes consensus = .ok false) (hlooked : s.Looked now servers')
      (hverdict : s.verdict P now consensus = .ok .STATUS_VERIFIED) :
      Offer consensus fromCache s (install consensus fromCache
        (requireCertificates required { s with directoryServers := servers' }))

theorem verifySignatures_run (consensus : ConsensusDocument) (s : DirectoryImpl) :
    ∃ servers' required, s.Looked now servers' ∧
      verifySignatures P now consensus s =
        answer ((·, required) <$> s.verdict P now consensus)
          { s with directoryServers := servers' } := by
  have hstart : ConsensusDocument.Looked now s.directoryServers ⟨s.directoryServers, []⟩ :=
    List.forall₂_same.mpr fun server _ => Or.inl rfl
  obtain ⟨st', hlooked, hrun⟩ := ConsensusDocument.verifySignatures_computes
    consensus.authorityEntries ⟨s.directoryServers, []⟩ hstart
  refine ⟨st'.directoryServers, st'.requiredCertificates, hlooked, ?_⟩
  unfold verifySignatures
  rw [hrun]
  show _ = answer ((·, st'.requiredCertificates) <$>
    consensus.documentVerdict P now s.directoryServers consensus.authorityEntries) _
  cases consensus.documentVerdict P now s.directoryServers consensus.authorityEntries with
  | error | ok => rfl

/-- A document that is not superseded is examined. -/
theorem addConsensusDocument_examined {consensus : ConsensusDocument} {s : DirectoryImpl}
    (fromCache : Bool) (hnew : s.supersedes consensus = .ok false) :
    addConsensusDocument P now consensus fromCache s =
      (examine P now consensus >>= fun verified =>
        if verified then install consensus fromCache else pure ()) s := by
  unfold addConsensusDocument
  rw [get_bind_run, hnew, bind_of_ok (fromExcept_ok false s)]
  rfl

theorem addConsensusDocument_offer (consensus : ConsensusDocument) (fromCache : Bool)
    (s : DirectoryImpl) :
    Offer P now consensus fromCache s (addConsensusDocument P now consensus fromCache s) := by
  cases hnew : s.supersedes consensus with
  | error e =>
    have hrun : addConsensusDocument P now consensus fromCache s = .error e s := by
      unfold addConsensusDocument
      rw [get_bind_run, hnew, bind_of_error (fromExcept_error e s)]
    rw [hrun]
    exact Offer.incomparable hnew
  | ok old =>
    cases old with
    | true =>
      have hrun : addConsensusDocument P now consensus fromCache s = .ok () s := by
        unfold addConsensusDocument
        rw [get_bind_run, hnew, bind_of_ok (fromExcept_ok true s)]
        rfl
      rw [hrun]
      exact Offer.superseded hnew
    | false =>
      rw [addConsensusDocument_examined P now fromCache hnew]
      obtain ⟨servers', required, hlooked, hverify⟩ := verifySignatures_run P now consensus s
      unfold examine
      cases hverdict : s.verdict P now consensus with rw [hverdict] at hverify
      | error e =>
        rw [bind_of_error (bind_of_error hverify)]
        exact Offer.unverifiable hnew hlooked hverdict
      | ok status =>
        rw [bind_run, bind_of_ok hverify]
        cases status with
        | STATUS_FAILED => exact Offer.failed hnew hlooked hverdict
        | STATUS_NEED_CERTS => exact Offer.pending required hnew hlooked hverdict
        | STATUS_VERIFIED => exact Offer.verified required hnew hlooked hverdict

/-! ## All outcomes of a certificate -/

/-- The fingerprint of the key that a certificate certifies. -/
def signingKeyFingerprint (certificate : KeyCertificate) : Option HexDigest :=
  certificate.signingKey.bind fun signingKey => (signingKey.getFingerprint P).toOption

/-- Whether a certificate is one that was asked for. Only its signing key is compared. -/
def requires (s : DirectoryImpl) (certificate : KeyCertificate) : Bool :=
  s.requiredCertificates.any fun r => signingKeyFingerprint P certificate = some r.signingKey

/-- The directory with the certificate in the store of the authority it names. -/
inductive Added (certificate : KeyCertificate) (s : DirectoryImpl) : DirectoryImpl → Prop where
  | mk {authority : Nat} {server server' : DirectoryServer}
      (required' : List RequiredCertificate)
      (hauthority : authorityOf certificate s.directoryServers = .ok (some authority))
      (hserver : s.directoryServers[authority]? = some server)
      (hadd : server.addCertificate P certificate = .ok server') :
      Added certificate s { s with
        requiredCertificates := required'
        directoryServers := s.directoryServers.set authority server' }

/-- What a certificate leads to, up to the document that it completes. -/
inductive Receipt (certificate : KeyCertificate) (s : DirectoryImpl) :
    EStateM.Result JavaException DirectoryImpl (Option ConsensusDocument) → Prop where
  | refused (e : JavaException) (required' : List RequiredCertificate) :
      Receipt certificate s (.error e { s with requiredCertificates := required' })
  | unknown (required' : List RequiredCertificate) :
      Receipt certificate s (.ok none { s with requiredCertificates := required' })
  | stored {s' : DirectoryImpl} (hadded : Added P certificate s s')
      (hidle : s.requires P certificate = false ∨ s.consensusWaitingForCertificates = none) :
      Receipt certificate s (.ok none s')
  | unverifiable {s' : DirectoryImpl} {waiting : ConsensusDocument} {e : JavaException}
      {servers' : List DirectoryServer} (hadded : Added P certificate s s')
      (hrequired : s.requires P certificate = true)
      (hwaiting : s.consensusWaitingForCertificates = some waiting)
      (hlooked : s'.Looked now servers') (hverdict : s'.verdict P now waiting = .error e) :
      Receipt certificate s (.error e { s' with directoryServers := servers' })
  | failed {s' : DirectoryImpl} {waiting : ConsensusDocument}
      {servers' : List DirectoryServer} (hadded : Added P certificate s s')
      (hrequired : s.requires P certificate = true)
      (hwaiting : s.consensusWaitingForCertificates = some waiting)
      (hlooked : s'.Looked now servers')
      (hverdict : s'.verdict P now waiting = .ok .STATUS_FAILED) :
      Receipt certificate s (.ok none
        { s' with directoryServers := servers', consensusWaitingForCertificates := none })
  | pending {s' : DirectoryImpl} {waiting : ConsensusDocument}
      {servers' : List DirectoryServer} (required : List RequiredCertificate)
      (hadded : Added P certificate s s') (hrequired : s.requires P certificate = true)
      (hwaiting : s.consensusWaitingForCertificates = some waiting)
      (hlooked : s'.Looked now servers')
      (hverdict : s'.verdict P now waiting = .ok .STATUS_NEED_CERTS) :
      Receipt certificate s (.ok none
        (requireCertificates required { s' with directoryServers := servers' }))
  | completed {s' : DirectoryImpl} {waiting : ConsensusDocument}
      {servers' : List DirectoryServer} (hadded : Added P certificate s s')
      (hrequired : s.requires P certificate = true)
      (hwaiting : s.consensusWaitingForCertificates = some waiting)
      (hlooked : s'.Looked now servers')
      (hverdict : s'.verdict P now waiting = .ok .STATUS_VERIFIED) :
      Receipt certificate s (.ok (some waiting) { s' with directoryServers := servers' })

theorem removeRequiredCertificate_run (certificate : KeyCertificate) (s : DirectoryImpl) :
    (∃ e, removeRequiredCertificate P certificate s = .error e s) ∨
      ∃ required', removeRequiredCertificate P certificate s =
        .ok (s.requires P certificate) { s with requiredCertificates := required' } := by
  unfold removeRequiredCertificate
  rw [get_bind_run]
  by_cases hempty : s.requiredCertificates.isEmpty = true
  · right
    refine ⟨s.requiredCertificates, ?_⟩
    have hfalse : s.requires P certificate = false := by
      unfold requires
      rw [List.isEmpty_iff.mp hempty]
      rfl
    rw [if_pos hempty, hfalse]
    rfl
  · rw [if_neg hempty]
    cases hkey : certificate.signingKey with
    | none => exact Or.inl ⟨.nullPointer, rfl⟩
    | some signingKey =>
      dsimp only
      cases hprint : signingKey.getFingerprint P with
      | error e => exact Or.inl ⟨e, rfl⟩
      | ok fingerprint =>
        right
        have hrequires : s.requires P certificate =
            s.requiredCertificates.any (·.signingKey = fingerprint) := by
          unfold requires signingKeyFingerprint
          rw [hkey]
          show (s.requiredCertificates.any fun r =>
            decide ((signingKey.getFingerprint P).toOption = some r.signingKey)) = _
          rw [hprint]
          congr 1
          funext r
          exact decide_eq_decide.mpr ⟨fun h => (Option.some.inj h).symm, fun h => h ▸ rfl⟩
        rw [bind_of_ok (fromExcept_ok fingerprint s), get_bind_run, hrequires]
        by_cases hany : s.requiredCertificates.any (·.signingKey = fingerprint) = true
        · rw [if_pos hany, hany]
          exact ⟨_, rfl⟩
        · rw [if_neg hany, Bool.eq_false_iff.mpr hany]
          exact ⟨_, rfl⟩

variable {certificate : KeyCertificate}

theorem reexamine_receipt {s s' : DirectoryImpl}
    {waiting : ConsensusDocument} (hadded : Added P certificate s s')
    (hrequired : s.requires P certificate = true)
    (hwaiting : s.consensusWaitingForCertificates = some waiting) :
    Receipt P now certificate s (reexamine P now waiting s') := by
  obtain ⟨servers', required, hlooked, hverify⟩ := verifySignatures_run P now waiting s'
  unfold reexamine
  cases hverdict : s'.verdict P now waiting with rw [hverdict] at hverify
  | error e =>
    rw [bind_of_error hverify]
    exact Receipt.unverifiable hadded hrequired hwaiting hlooked hverdict
  | ok status =>
    rw [bind_of_ok hverify]
    cases status with
    | STATUS_FAILED =>
      have hreceipt : Receipt P now certificate s (.ok none
          { s' with directoryServers := servers', consensusWaitingForCertificates := none }) :=
        Receipt.failed hadded hrequired hwaiting hlooked hverdict
      exact hreceipt
    | STATUS_NEED_CERTS =>
      exact Receipt.pending required hadded hrequired hwaiting hlooked hverdict
    | STATUS_VERIFIED => exact Receipt.completed hadded hrequired hwaiting hlooked hverdict

theorem considerWaiting_receipt {s s' : DirectoryImpl} (hadded : Added P certificate s s') :
    Receipt P now certificate s (considerWaiting P now (s.requires P certificate) s') := by
  have hsame : s'.consensusWaitingForCertificates = s.consensusWaitingForCertificates := by
    cases hadded
    rfl
  unfold considerWaiting
  rw [get_bind_run, hsame]
  cases hwaiting : s.consensusWaitingForCertificates with
  | none => exact Receipt.stored hadded (Or.inr hwaiting)
  | some waiting =>
    cases hrequired : s.requires P certificate with
    | false => exact Receipt.stored hadded (Or.inl hrequired)
    | true => exact reexamine_receipt P now hadded hrequired hwaiting

theorem receiveCertificate_receipt (certificate : KeyCertificate) (s : DirectoryImpl) :
    Receipt P now certificate s (receiveCertificate P now certificate s) := by
  unfold receiveCertificate
  rcases removeRequiredCertificate_run P certificate s with ⟨e, hremove⟩ | ⟨required', hremove⟩
  · rw [bind_of_error hremove]
    exact Receipt.refused e s.requiredCertificates
  · let s₁ : DirectoryImpl := { s with requiredCertificates := required' }
    rw [bind_of_ok hremove, get_bind_run]
    cases hauthority : authorityOf certificate s₁.directoryServers with
    | error e =>
      rw [bind_of_error (fromExcept_error e s₁)]
      exact Receipt.refused e required'
    | ok found =>
      rw [bind_of_ok (fromExcept_ok found s₁)]
      cases found with
      | none => exact Receipt.unknown required'
      | some authority =>
        unfold addCertificateTo
        dsimp only
        rw [bind_run, get_bind_run]
        cases hserver : s₁.directoryServers[authority]? with
        | none => exact Receipt.refused .nullPointer required'
        | some server =>
          dsimp only
          cases hadd : server.addCertificate P certificate with
          | error e => exact Receipt.refused e required'
          | ok server' =>
            exact considerWaiting_receipt P now (Added.mk required' hauthority hserver hadd)

end DirectoryImpl

end Orchid
