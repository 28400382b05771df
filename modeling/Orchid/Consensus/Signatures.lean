import Orchid.Consensus.SignedText
import Orchid.Directory.DirectoryServer

/-!
# Orchid — checking the signatures of a consensus

`verifySignatures` asks for each authority entry of a document whether one of its signatures
is good, and compares the number of good authorities with a majority of the trusted ones. On
the way lookups drop expired certificates, and missing ones are noted for download.

* **`verifySignatures_computes`**: none of this matters for the answer, which is a function
  of the document and the certificates held at the start (`documentVerdict`).
* **`verified_quorum`**: a verified document has good signatures of a majority of trusted
  authorities, each counted once.
-/

namespace Orchid

open Prog TrustedAuthorities DirectoryServer VoteAuthorityEntry

inductive SignatureStatus where
  | STATUS_VERIFIED
  | STATUS_FAILED
  | STATUS_NEED_CERTS
  deriving DecidableEq, Repr

/-- `RequiredCertificateImpl`. -/
structure RequiredCertificate where
  authorityIdentity : HexDigest
  signingKey : HexDigest
  deriving DecidableEq

/-- What `verifySignatures` writes: the certificate stores, and the certificates to fetch. -/
structure VerifierState where
  directoryServers : List DirectoryServer
  requiredCertificates : List RequiredCertificate := []

abbrev VerifyM := Prog JavaException VerifierState

/-! ## The loops

Both loops are written over any monad: the code runs them over `VerifyM`, the verdict below
over `Except` alone. -/

/-- The status of an authority for the two flags. -/
def authorityStatus (certsNeeded validSignature : Bool) : SignatureStatus :=
  if validSignature then .STATUS_VERIFIED
  else if certsNeeded then .STATUS_NEED_CERTS
  else .STATUS_FAILED

section Loops

variable {m : Type → Type} [Monad m]

/-- The loop of `verifySingleAuthority`; `verify` answers `none` for a signer that is not
trusted, which ends the loop. -/
def authorityLoop (verify : DirectorySignature → m (Option SignatureStatus)) :
    List DirectorySignature → Bool → Bool → m SignatureStatus
  | [], certsNeeded, validSignature => pure (authorityStatus certsNeeded validSignature)
  | s :: rest, certsNeeded, validSignature => do
    match ← verify s with
    | none => return .STATUS_FAILED
    | some .STATUS_NEED_CERTS => authorityLoop verify rest true validSignature
    | some .STATUS_VERIFIED => authorityLoop verify rest certsNeeded true
    | some .STATUS_FAILED => authorityLoop verify rest certsNeeded validSignature

/-- The loop of `verifySignatures`: verified authorities and authorities without certificate. -/
def countLoop (verify : VoteAuthorityEntry → m SignatureStatus) :
    List VoteAuthorityEntry → Nat → Nat → m (Nat × Nat)
  | [], verifiedCount, certsNeededCount => return (verifiedCount, certsNeededCount)
  | entry :: rest, verifiedCount, certsNeededCount => do
    match ← verify entry with
    | .STATUS_FAILED => countLoop verify rest verifiedCount certsNeededCount
    | .STATUS_NEED_CERTS => countLoop verify rest verifiedCount (certsNeededCount + 1)
    | .STATUS_VERIFIED => countLoop verify rest (verifiedCount + 1) certsNeededCount

end Loops

/-- The status for the two counts. -/
def overallStatus (required : Nat) (counts : Nat × Nat) : SignatureStatus :=
  if counts.1 ≥ required then .STATUS_VERIFIED
  else if counts.1 + counts.2 ≥ required then .STATUS_NEED_CERTS
  else .STATUS_FAILED

/-! ## The code -/

namespace ConsensusDocument

variable (P : Platform) (now : Int) (doc : ConsensusDocument)

/-- The hash a signature line asks for. -/
def hashFor (signature : DirectorySignature) : Option HexDigest :=
  if signature.useSha256 then doc.signingHash256 else doc.signingHash

/-- The part of `verifySignatureForTrustedAuthority` behind the lookup. A missing key or hash
is a null receiver. -/
def checkWithCertificate (certificate : KeyCertificate) (signature : DirectorySignature) :
    Except JavaException SignatureStatus := do
  if certificate.isExpired now then return .STATUS_FAILED
  match certificate.signingKey, doc.hashFor signature with
  | some signingKey, some d =>
    if ← signingKey.verifySignature P signature.signature d.digestBytes then
      return .STATUS_VERIFIED
    else return .STATUS_FAILED
  | _, _ => throw .nullPointer

/-- `trusted.getCertificateByAuthority(trusted.getV3Identity())` for the server at position
`trusted`. -/
def getCertificateOf (trusted : Nat) : VerifyM (Option KeyCertificate) := do
  match (← get).directoryServers[trusted]? with
  | none => return none
  | some server =>
    match server.v3Ident with
    | none => return none
    | some identity =>
      let (certificate, server') ←
        fromExcept (server.getCertificateByAuthority now identity)
      modify fun st => { st with directoryServers := st.directoryServers.set trusted server' }
      return certificate

def addRequiredCertificateForSignature (signature : DirectorySignature) : VerifyM Unit :=
  let required : RequiredCertificate := ⟨signature.identityDigest, signature.signingKeyDigest⟩
  modify fun st => { st with requiredCertificates := st.requiredCertificates.insert required }

/-- The certificate is chosen by the authority alone; the key the line names is not asked. -/
def verifySignatureForTrustedAuthority (trusted : Nat) (signature : DirectorySignature) :
    VerifyM SignatureStatus := do
  match ← getCertificateOf now trusted with
  | none =>
    addRequiredCertificateForSignature signature
    return .STATUS_NEED_CERTS
  | some certificate => fromExcept (doc.checkWithCertificate P now certificate signature)

def verifySingleAuthority (authority : VoteAuthorityEntry) : VerifyM SignatureStatus :=
  authorityLoop (fun s => do
    match TrustedAuthorities.getAuthorityServerByIdentity s.identityDigest
        (← get).directoryServers with
    | none => return none
    | some trusted =>
      return some (← doc.verifySignatureForTrustedAuthority P now trusted s))
    authority.signatures false false

/-- `verifySignatures`; `entries` are the values of the map in the order it delivers them. -/
def verifySignatures (entries : List VoteAuthorityEntry) : VerifyM SignatureStatus := do
  modify fun st => { st with requiredCertificates := [] }
  let v3Count := TrustedAuthorities.getV3AuthorityServerCount (← get).directoryServers
  let required := v3Count / 2 + 1
  let counts ← countLoop (doc.verifySingleAuthority P now) entries 0 0
  return overallStatus required counts

/-- The authority entries, in some order. -/
def authorityEntries : List VoteAuthorityEntry := doc.voteAuthorityEntries.entries.map (·.2)

/-! ## The verdict on a document

What the code answers, as a function of the servers it starts with. -/

variable (servers : List DirectoryServer)

/-- The certificate a lookup finds for the server at a position. -/
def certificateOf (trusted : Nat) : Except JavaException (Option KeyCertificate) :=
  match servers[trusted]? with
  | none => .ok none
  | some server =>
    match server.v3Ident with
    | none => .ok none
    | some identity => Prod.fst <$> server.getCertificateByAuthority now identity

/-- The verdict on a signature of the server at a position. -/
def trustedVerdict (trusted : Nat) (signature : DirectorySignature) :
    Except JavaException SignatureStatus := do
  match ← certificateOf now servers trusted with
  | none => return .STATUS_NEED_CERTS
  | some certificate => doc.checkWithCertificate P now certificate signature

/-- The verdict on one signature, `none` for a signer that is not trusted. -/
def signatureVerdict (signature : DirectorySignature) :
    Except JavaException (Option SignatureStatus) := do
  match TrustedAuthorities.getAuthorityServerByIdentity signature.identityDigest servers with
  | none => return none
  | some trusted => return some (← doc.trustedVerdict P now servers trusted signature)

def authorityVerdict (authority : VoteAuthorityEntry) : Except JavaException SignatureStatus :=
  authorityLoop (doc.signatureVerdict P now servers) authority.signatures false false

def documentVerdict (entries : List VoteAuthorityEntry) : Except JavaException SignatureStatus := do
  let counts ← countLoop (doc.authorityVerdict P now servers) entries 0 0
  return overallStatus (TrustedAuthorities.getV3AuthorityServerCount servers / 2 + 1) counts

/-! ## The code computes the verdict -/

/-- Since the start, lookups may have dropped expired certificates. -/
def Looked (st : VerifierState) : Prop :=
  List.Forall₂ (DirectoryServer.Purged now) servers st.directoryServers

variable {P now doc servers} {st : VerifierState} {i : Nat} {entry : VoteAuthorityEntry}

theorem Looked.identities (h : Looked now servers st) :
    st.directoryServers.map v3Ident = servers.map v3Ident := by
  unfold Looked at h
  generalize st.directoryServers = servers' at h
  induction h with
  | nil => rfl
  | cons hpurged _ ih =>
    rw [List.map_cons, List.map_cons, hpurged.v3Ident_eq, ih]

/-- Both answers of the trusted authorities depend on the identities alone. -/
theorem getAuthorityServerByIdentity_map (identity : HexDigest) (l : List DirectoryServer) :
    getAuthorityServerByIdentity identity l =
      (l.map v3Ident).findIdx? fun v => some identity = v := by
  rw [List.findIdx?_map]
  rfl

theorem getV3AuthorityServerCount_map (l : List DirectoryServer) :
    getV3AuthorityServerCount l = (l.map v3Ident).countP Option.isSome := by
  rw [List.countP_map]
  rfl

theorem Looked.getAuthorityServerByIdentity (h : Looked now servers st) (identity : HexDigest) :
    getAuthorityServerByIdentity identity st.directoryServers =
      getAuthorityServerByIdentity identity servers := by
  rw [getAuthorityServerByIdentity_map, getAuthorityServerByIdentity_map, h.identities]

theorem Looked.getV3AuthorityServerCount (h : Looked now servers st) :
    getV3AuthorityServerCount st.directoryServers = getV3AuthorityServerCount servers := by
  rw [getV3AuthorityServerCount_map, getV3AuthorityServerCount_map, h.identities]

theorem Looked.getElem? (h : Looked now servers st) (i : Nat) :
    (servers[i]? = none ∧ st.directoryServers[i]? = none) ∨
      ∃ server server', servers[i]? = some server ∧ st.directoryServers[i]? = some server' ∧
        Purged now server server' := by
  unfold Looked at h
  generalize st.directoryServers = servers' at h
  induction h generalizing i with
  | nil => exact Or.inl ⟨rfl, rfl⟩
  | cons hpurged _ ih =>
    cases i with
    | zero => exact Or.inr ⟨_, _, rfl, rfl, hpurged⟩
    | succ i => exact ih i

theorem Looked.set (h : Looked now servers st) {server server' : DirectoryServer}
    (hi : servers[i]? = some server) (hpurged : Purged now server server') :
    Looked now servers { st with directoryServers := st.directoryServers.set i server' } := by
  unfold Looked at h ⊢
  generalize st.directoryServers = servers' at h
  induction h generalizing i with
  | nil => cases hi
  | cons hp htail ih =>
    cases i with
    | zero =>
      cases hi
      exact List.Forall₂.cons hpurged htail
    | succ i => exact List.Forall₂.cons hp (ih hi)

/-- A lookup finds what it would have found at the start. -/
theorem getCertificateOf_computes (trusted : Nat) :
    Computes (Looked now servers) (getCertificateOf now trusted)
      (certificateOf now servers trusted) := by
  intro st hst
  unfold getCertificateOf certificateOf
  rw [bind_run]
  rcases hst.getElem? trusted with ⟨hnone, hnone'⟩ | ⟨server, server', hs, hs', hpurged⟩
  · refine ⟨st, hst, ?_⟩
    simp only [get_run, hnone, hnone']
    rfl
  · simp only [get_run, hs, hs', hpurged.v3Ident_eq]
    cases hident : server.v3Ident with
    | none => exact ⟨st, hst, rfl⟩
    | some identity =>
      dsimp only
      have hlookup : server'.getCertificateByAuthority now identity =
          server.getCertificateByAuthority now identity := by
        unfold getCertificateByAuthority
        rw [hpurged.getCertificates]
      rw [hlookup]
      cases hrun : server.getCertificateByAuthority now identity with
      | error e => exact ⟨st, hst, rfl⟩
      | ok found =>
        obtain ⟨certificate, kept⟩ := found
        refine ⟨_, hst.set hs (Or.inr ?_), rfl⟩
        exact (getCertificateByAuthority_ok hrun).1

theorem verifySignatureForTrustedAuthority_computes (trusted : Nat)
    (signature : DirectorySignature) :
    Computes (Looked now servers) (doc.verifySignatureForTrustedAuthority P now trusted signature)
      (doc.trustedVerdict P now servers trusted signature) := by
  refine (getCertificateOf_computes trusted).bind fun certificate => ?_
  cases certificate with
  | some certificate => exact Computes.fromExcept _
  | none =>
    -- the certificate to fetch is noted, which no lookup reads
    intro st hst
    let required : RequiredCertificate := ⟨signature.identityDigest, signature.signingKeyDigest⟩
    let noted : VerifierState :=
      { st with requiredCertificates := st.requiredCertificates.insert required }
    have hnoted : Looked now servers noted := hst
    exact ⟨noted, hnoted, rfl⟩

variable {verdict : DirectorySignature → Except JavaException (Option SignatureStatus)}
   {J : VerifierState → Prop}

theorem authorityLoop_computes {verify : DirectorySignature → VerifyM (Option SignatureStatus)}
    (h : ∀ s, Computes J (verify s) (verdict s)) (signatures : List DirectorySignature)
    (certsNeeded validSignature : Bool) :
    Computes J (authorityLoop verify signatures certsNeeded validSignature)
      (authorityLoop verdict signatures certsNeeded validSignature) := by
  induction signatures generalizing certsNeeded validSignature with
  | nil => exact Computes.pure _
  | cons s rest ih =>
    refine (h s).bind fun status => ?_
    rcases status with _ | status
    · exact Computes.pure _
    · cases status with
      | STATUS_VERIFIED => exact ih certsNeeded true
      | STATUS_FAILED => exact ih certsNeeded validSignature
      | STATUS_NEED_CERTS => exact ih true validSignature

theorem countLoop_computes {verify : VoteAuthorityEntry → VerifyM SignatureStatus}
    {verdict : VoteAuthorityEntry → Except JavaException SignatureStatus}
    (h : ∀ entry, Computes J (verify entry) (verdict entry)) (entries : List VoteAuthorityEntry)
    (verifiedCount certsNeededCount : Nat) :
    Computes J (countLoop verify entries verifiedCount certsNeededCount)
      (countLoop verdict entries verifiedCount certsNeededCount) := by
  induction entries generalizing verifiedCount certsNeededCount with
  | nil => exact Computes.pure _
  | cons entry rest ih =>
    refine (h entry).bind fun status => ?_
    cases status with
    | STATUS_VERIFIED => exact ih (verifiedCount + 1) certsNeededCount
    | STATUS_FAILED => exact ih verifiedCount certsNeededCount
    | STATUS_NEED_CERTS => exact ih verifiedCount (certsNeededCount + 1)

theorem verifySingleAuthority_computes (authority : VoteAuthorityEntry) :
    Computes (Looked now servers) (doc.verifySingleAuthority P now authority)
      (doc.authorityVerdict P now servers authority) := by
  refine authorityLoop_computes (fun s => ?_) authority.signatures false false
  intro st hst
  unfold signatureVerdict
  rw [bind_run]
  simp only [get_run, hst.getAuthorityServerByIdentity]
  cases getAuthorityServerByIdentity s.identityDigest servers with
  | none => exact ⟨st, hst, rfl⟩
  | some trusted =>
    exact (verifySignatureForTrustedAuthority_computes trusted s).bind
      (fun status => Computes.pure (some status)) st hst

/-- The answer of `verifySignatures` is the verdict on the document. -/
theorem verifySignatures_computes (entries : List VoteAuthorityEntry) :
    Computes (Looked now servers) (doc.verifySignatures P now entries)
      (doc.documentVerdict P now servers entries) := by
  intro st hst
  let cleared : VerifierState := { st with requiredCertificates := [] }
  have hcleared : Looked now servers cleared := hst
  have hcount := hcleared.getV3AuthorityServerCount
  have hloop : Computes (Looked now servers) (countLoop (doc.verifySingleAuthority P now) entries 0 0)
      (countLoop (doc.authorityVerdict P now servers) entries 0 0) :=
    countLoop_computes verifySingleAuthority_computes entries 0 0
  obtain ⟨st', hst', hrun⟩ := hloop.bind (fun counts => Computes.pure (overallStatus
    (getV3AuthorityServerCount servers / 2 + 1) counts)) cleared hcleared
  refine ⟨st', hst', Eq.trans ?_ hrun⟩
  rw [← hcount]
  rfl

/-! ## Verified documents -/

variable (P now doc servers)

/-- `signature` is a good signature of the trusted `authority`: it was made in its name, and
it verifies with the signing key of an unexpired certificate held for it, over the hash its
line asks for. -/
def SignedBy (authority : HexDigest) (signature : DirectorySignature) : Prop :=
  signature.identityDigest = authority ∧
    ∃ server ∈ servers, server.v3Ident = some authority ∧
      ∃ certificate ∈ server.certificates, certificate.fingerprint = some authority ∧
        certificate.isExpired now = false ∧
        ∃ key d, certificate.signingKey = some key ∧ doc.hashFor signature = some d ∧
          key.verifySignature P signature.signature d.digestBytes = .ok true

variable {P now doc servers} {signature : DirectorySignature} {certificate : KeyCertificate}

theorem checkWithCertificate_verified
    (h : doc.checkWithCertificate P now certificate signature = .ok .STATUS_VERIFIED) :
    certificate.isExpired now = false ∧
      ∃ key d, certificate.signingKey = some key ∧ doc.hashFor signature = some d ∧
        key.verifySignature P signature.signature d.digestBytes = .ok true := by
  unfold checkWithCertificate at h
  cases hexpired : certificate.isExpired now with rw [hexpired] at h
  | true => cases h
  | false =>
    rw [if_neg Bool.false_ne_true] at h
    split at h
    · rename_i key d hkey hhash
      obtain ⟨verified, hverify, h⟩ := except_bind_eq_ok.mp h
      refine ⟨rfl, key, d, hkey, hhash, ?_⟩
      cases verified with
      | true => exact hverify
      | false => cases h
    · cases h

theorem getAuthorityServerByIdentity_some {identity : HexDigest}
    (h : getAuthorityServerByIdentity identity servers = some i) :
    ∃ server, servers[i]? = some server ∧ server.v3Ident = some identity := by
  obtain ⟨hlt, hident, -⟩ := List.findIdx?_eq_some_iff_getElem.mp h
  exact ⟨servers[i], List.getElem?_eq_getElem hlt, (of_decide_eq_true hident).symm⟩

/-- The certificate found for an authority is held for it and unexpired. -/
theorem certificateOf_some {server : DirectoryServer} {identity : HexDigest}
    (hserver : servers[i]? = some server) (hident : server.v3Ident = some identity)
    (h : certificateOf now servers i = .ok (some certificate)) :
    certificate ∈ server.certificates ∧ certificate.fingerprint = some identity ∧
      certificate.isExpired now = false := by
  unfold certificateOf at h
  simp only [hserver, hident] at h
  cases hlookup : server.getCertificateByAuthority now identity with
  | error e => rw [hlookup] at h; cases h
  | ok found =>
    obtain ⟨found, kept⟩ := found
    rw [hlookup] at h
    cases h
    obtain ⟨-, hfind⟩ := getCertificateByAuthority_ok hlookup
    obtain ⟨hmem, hprint⟩ := findByAuthority_some hfind
    obtain ⟨hheld, hunexpired⟩ := List.mem_filter.mp hmem
    exact ⟨hheld, hprint, by simpa using hunexpired⟩

theorem signatureVerdict_verified
    (h : doc.signatureVerdict P now servers signature = .ok (some .STATUS_VERIFIED)) :
    doc.SignedBy P now servers signature.identityDigest signature := by
  unfold signatureVerdict at h
  cases htrusted : getAuthorityServerByIdentity signature.identityDigest servers with
  | none => rw [htrusted] at h; cases h
  | some i =>
    simp only [htrusted] at h
    obtain ⟨status, hstatus, h⟩ := except_bind_eq_ok.mp h
    cases h
    obtain ⟨found, hfound, hcheck⟩ := except_bind_eq_ok.mp hstatus
    cases found with
    | none => cases hcheck
    | some certificate =>
      obtain ⟨server, hserver, hident⟩ := getAuthorityServerByIdentity_some htrusted
      obtain ⟨hheld, hprint, hunexpired⟩ := certificateOf_some hserver hident hfound
      exact ⟨rfl, server, List.mem_of_getElem? hserver, hident, certificate, hheld, hprint,
        checkWithCertificate_verified hcheck⟩

variable {status : SignatureStatus}

/-- A round of the loop over the signatures, which goes on unless the signer is not trusted. -/
theorem authorityLoop_some {s : DirectorySignature} (h : verdict s = .ok (some status))
    (rest : List DirectorySignature) (certsNeeded validSignature : Bool) :
    authorityLoop verdict (s :: rest) certsNeeded validSignature =
      authorityLoop verdict rest (certsNeeded || status = .STATUS_NEED_CERTS)
        (validSignature || status = .STATUS_VERIFIED) := by
  rw [authorityLoop, h]
  cases status <;> simp <;> rfl

/-- An authority is verified by one of its signatures. -/
theorem authorityLoop_verified
    {signatures : List DirectorySignature} {certsNeeded validSignature : Bool}
    (h : authorityLoop verdict signatures certsNeeded validSignature = .ok .STATUS_VERIFIED) :
    validSignature = true ∨ ∃ s ∈ signatures, verdict s = .ok (some .STATUS_VERIFIED) := by
  induction signatures generalizing certsNeeded validSignature with
  | nil =>
    cases validSignature with
    | true => exact Or.inl rfl
    | false => cases certsNeeded <;> cases h
  | cons s rest ih =>
    obtain ⟨status, hstatus, hround⟩ := except_bind_eq_ok.mp h
    rcases status with _ | status
    · cases hround
    · rw [authorityLoop_some hstatus] at h
      -- the flag was set before, is set by this signature, or is set later
      rcases ih h with hvalid | ⟨s', hmem, hs'⟩
      · rcases Bool.or_eq_true_iff.mp hvalid with hbefore | hnow
        · exact Or.inl hbefore
        · rw [of_decide_eq_true hnow] at hstatus
          exact Or.inr ⟨s, List.mem_cons_self, hstatus⟩
      · exact Or.inr ⟨s', List.mem_cons_of_mem _ hmem, hs'⟩

/-- A round of the loop over the entries. -/
theorem countLoop_cons {verdict : VoteAuthorityEntry → Except JavaException SignatureStatus}
    (h : verdict entry = .ok status) (rest : List VoteAuthorityEntry) (v n : Nat) :
    countLoop verdict (entry :: rest) v n =
      countLoop verdict rest (if status = .STATUS_VERIFIED then v + 1 else v)
        (if status = .STATUS_NEED_CERTS then n + 1 else n) := by
  rw [countLoop, h]
  cases status <;> simp <;> rfl

variable {entries : List VoteAuthorityEntry}

/-- The first count is the number of verified entries. -/
theorem countLoop_verified {verdict : VoteAuthorityEntry → Except JavaException SignatureStatus}
    {v n : Nat} {counts : Nat × Nat} (h : countLoop verdict entries v n = .ok counts) :
    ∃ verified, List.Sublist verified entries ∧
      (∀ entry ∈ verified, verdict entry = .ok .STATUS_VERIFIED) ∧
      counts.1 = v + verified.length := by
  induction entries generalizing v n with
  | nil =>
    cases h
    exact ⟨[], List.Sublist.refl _, fun entry hmem => (by cases hmem), rfl⟩
  | cons entry rest ih =>
    obtain ⟨status, hstatus, -⟩ := except_bind_eq_ok.mp h
    rw [countLoop_cons hstatus] at h
    obtain ⟨verified, hsub, hall, hcount⟩ := ih h
    rcases eq_or_ne status .STATUS_VERIFIED with rfl | hverified
    · refine ⟨entry :: verified, hsub.cons_cons entry, ?_, ?_⟩
      · exact List.forall_mem_cons.mpr ⟨hstatus, hall⟩
      · rw [hcount, if_pos rfl, List.length_cons]
        omega
    · rw [if_neg hverified] at hcount
      exact ⟨verified, hsub.cons entry, hall, hcount⟩

/-! ## Each authority counts once -/

theorem lookup_of_mem_entries {key : Option HexDigest}
    (h : ⟨key, entry⟩ ∈ doc.voteAuthorityEntries.entries) :
    doc.voteAuthorityEntries.lookup key = some entry :=
  AList.mem_lookup_iff.mpr h

/-- The identities of the entries are the keys they are filed under. -/
theorem Filed.identities (h : doc.Filed) :
    doc.authorityEntries.map identity = doc.voteAuthorityEntries.keys := by
  unfold authorityEntries AList.keys List.keys
  rw [List.map_map]
  refine List.map_congr_left fun pair hpair => ?_
  exact (h pair.1 pair.2 (lookup_of_mem_entries hpair)).1

theorem Filed.nodup_identities (h : doc.Filed)
    (horder : entries.Perm doc.authorityEntries) : (entries.map identity).Nodup := by
  rw [(horder.map identity).nodup_iff, h.identities]
  exact doc.voteAuthorityEntries.keys_nodup

/-- A verified entry stands under the identity of an authority that signed. -/
theorem Filed.verified_entry (h : doc.Filed) (hmem : entry ∈ doc.authorityEntries)
    (hverified : doc.authorityVerdict P now servers entry = .ok .STATUS_VERIFIED) :
    ∃ authority, entry.identity = some authority ∧
      doc.voteAuthorityEntries.lookup (some authority) = some entry ∧
      ∃ signature ∈ entry.signatures, doc.SignedBy P now servers authority signature := by
  obtain ⟨⟨key, entry'⟩, hpair, heq⟩ := List.mem_map.mp hmem
  obtain rfl : entry' = entry := heq
  have hlook := lookup_of_mem_entries hpair
  obtain ⟨hidentity, hsigs⟩ := h key entry' hlook
  rcases authorityLoop_verified hverified with hfalse | ⟨s, hs, hsv⟩
  · cases hfalse
  · have hkey := hsigs s hs
    refine ⟨s.identityDigest, hidentity.trans hkey.symm, ?_, s, hs, signatureVerdict_verified hsv⟩
    rw [hkey]
    exact hlook

/-- A verified document: a majority of the trusted v3 authorities, pairwise distinct, has
each a good signature in the document. -/
theorem verified_quorum (P : Platform) (now : Int) (input : List UInt8) (doc : ConsensusDocument)
    (entries : List VoteAuthorityEntry) (st st' : VerifierState)
    (hdoc : doc ∈ ConsensusParser.reported P input) (horder : entries.Perm doc.authorityEntries)
    (h : doc.verifySignatures P now entries st = .ok .STATUS_VERIFIED st') :
    ∃ authorities : List HexDigest, authorities.Nodup ∧
      getV3AuthorityServerCount st.directoryServers / 2 + 1 ≤ authorities.length ∧
      ∀ authority ∈ authorities, ∃ entry signature,
        doc.voteAuthorityEntries.lookup (some authority) = some entry ∧
        signature ∈ entry.signatures ∧
        doc.SignedBy P now st.directoryServers authority signature := by
  have hfiled := ConsensusParser.reported_filed P hdoc
  have hstart : Looked now st.directoryServers st :=
    List.forall₂_same.mpr fun server _ => Or.inl rfl
  have hverdict := (verifySignatures_computes entries).eq_ok hstart h
  obtain ⟨counts, hcounts, hstatus⟩ := except_bind_eq_ok.mp hverdict
  obtain ⟨verified, hsub, hall, hcount⟩ := countLoop_verified hcounts
  have henough : getV3AuthorityServerCount st.directoryServers / 2 + 1 ≤ verified.length := by
    unfold overallStatus at hstatus
    by_cases hge : counts.1 ≥ getV3AuthorityServerCount st.directoryServers / 2 + 1
    · omega
    · rw [if_neg hge] at hstatus
      split at hstatus <;> cases hstatus
  have hentry := fun entry (hmem : entry ∈ verified) =>
    hfiled.verified_entry (horder.subset (hsub.subset hmem)) (hall entry hmem)
  -- the identities of the verified entries are distinct, since all identities are
  have hnodup : (verified.map identity).Nodup :=
    (hfiled.nodup_identities horder).sublist (hsub.map _)
  refine ⟨verified.filterMap identity, ?_, ?_, fun authority hmem => ?_⟩
  · have hid : verified.filterMap identity = (verified.map identity).filterMap id := by
      rw [List.filterMap_map]
      rfl
    rw [hid]
    refine List.Nodup.filterMap (fun a a' b hb hb' => ?_) hnodup
    exact (Option.mem_def.mp hb).trans (Option.mem_def.mp hb').symm
  · rw [List.filterMap_length_eq_length.mpr]
    · exact henough
    · intro entry hmem
      obtain ⟨authority, hidentity, -⟩ := hentry entry hmem
      rw [hidentity]
      rfl
  · obtain ⟨entry, hverified, hidentity⟩ := List.mem_filterMap.mp hmem
    obtain ⟨authority', hidentity', hlook, s, hs, hsigned⟩ := hentry entry hverified
    cases hidentity.symm.trans hidentity'
    exact ⟨entry, s, hlook, hs, hsigned⟩

end ConsensusDocument

/-! ## A signed sample -/

/-- The sample signature line, naming the signing key with the given fingerprint. -/
def signatureTail (signingKey : JString) : List UInt8 := latin1 (unlines
  [lit "directory-signature " ++ sampleDigest '1' ++ lit " " ++ signingKey,
    lit "-----BEGIN SIGNATURE-----", lit "kJCQkJCQkJCQkJCQkJCQkJCQkJA=",
    lit "-----END SIGNATURE-----"])

/-- The sample consensus with a signature that verifies. -/
def goodTail : List UInt8 := signatureTail (sampleDigest '2')

theorem sampleIdentity_valid : (List.replicate 20 (0x11 : UInt8)).length = TOR_DIGEST_SIZE ∨
    (List.replicate 20 (0x11 : UInt8)).length = TOR_DIGEST256_SIZE := Or.inl rfl

/-- The authority the sample names. -/
def sampleIdentity : HexDigest := ⟨List.replicate 20 0x11, sampleIdentity_valid⟩

def sampleCertificate : KeyCertificate :=
  { fingerprint := some sampleIdentity, identityKey := some ⟨lit "id"⟩
    keyPublished := some 0, keyExpires := some 10, signingKey := some ⟨lit "sign"⟩
    hasValidSignature := true }

def sampleServers : List DirectoryServer :=
  [{ v3Ident := some sampleIdentity, certificates := [sampleCertificate] }]

theorem goodTail_spec :
    sampleDocument goodTail ∈ ConsensusParser.reported Platform.checksum (signedText ++ goodTail) ∧
      (sampleDocument goodTail).bandwidthWeights.lookup (lit "Wbd") = some 1 :=
  sampleDocument_spec (by decide +kernel)

/-- With one trusted authority, its signature makes the quorum. -/
theorem sample_verified_quorum :
    ∃ authorities : List HexDigest, authorities.Nodup ∧ 1 ≤ authorities.length ∧
      ∀ authority ∈ authorities, ∃ entry signature,
        (sampleDocument goodTail).voteAuthorityEntries.lookup (some authority) = some entry ∧
        signature ∈ entry.signatures ∧
        (sampleDocument goodTail).SignedBy Platform.checksum 5 sampleServers authority
          signature := by
  have hverified : (match (sampleDocument goodTail).verifySignatures Platform.checksum 5
        (sampleDocument goodTail).authorityEntries ⟨sampleServers, []⟩ with
      | .ok status _ => decide (status = .STATUS_VERIFIED)
      | .error _ _ => false) = true := by decide +kernel
  cases hrun : (sampleDocument goodTail).verifySignatures Platform.checksum 5
      (sampleDocument goodTail).authorityEntries ⟨sampleServers, []⟩ with
  | error e st => rw [hrun] at hverified; cases hverified
  | ok status st' =>
    rw [hrun] at hverified
    obtain rfl : status = .STATUS_VERIFIED := of_decide_eq_true hverified
    exact ConsensusDocument.verified_quorum Platform.checksum 5 (signedText ++ goodTail)
      (sampleDocument goodTail) (sampleDocument goodTail).authorityEntries ⟨sampleServers, []⟩ st'
      goodTail_spec.1 (List.Perm.refl _) hrun

end Orchid
