import Orchid.Consensus.Signatures

/-!
# Orchid — examining a consensus again

The verdict on a document depends on the certificates held and on the time. Here two verdicts on
one document are compared, signature by signature.

* **`documentVerdict_recedes`**: if each signature keeps its status or lacks a certificate now, a
  document that needed certificates still does.
* **`documentVerdict_answers`**: if no signature raises now that did not before, neither does
  the whole.
* **`signatureVerdict_recedes`**: that a status is kept or lost is a fact about the certificate in
  use for the authority.
-/

namespace Orchid

open Prog TrustedAuthorities

namespace ConsensusDocument

/-! ## The loops -/

/-- The status is the same, or a certificate is missing now. -/
def Recedes (a b : SignatureStatus) : Prop := b = a ∨ b = .STATUS_NEED_CERTS

/-- The same for one signature; a signer that is not trusted stays so. -/
def SignatureRecedes (a b : Option SignatureStatus) : Prop :=
  b = a ∨ a.isSome ∧ b = some .STATUS_NEED_CERTS

theorem authorityStatus_recedes {needed valid needed' valid' : Bool}
    (hneeded : needed = true → needed' = true) (hvalid : valid' = true → valid = true)
    (hlost : valid = true → valid' = true ∨ needed' = true) :
    Recedes (authorityStatus needed valid) (authorityStatus needed' valid') := by
  cases needed <;> cases valid <;> cases needed' <;> cases valid' <;>
    simp_all [Recedes, authorityStatus]

section Loops

variable {verdict verdict' : DirectorySignature → Except JavaException (Option SignatureStatus)}

variable {a : SignatureStatus} {signatures : List DirectorySignature}

/-- Induction on the signatures. A lost signature is noted as a missing certificate, so the
flags of the two loops stay comparable. -/
theorem authorityLoop_recedes
    (h : ∀ s ∈ signatures, ∀ a, verdict s = .ok a → ∃ b, verdict' s = .ok b ∧ SignatureRecedes a b)
    {needed valid needed' valid' : Bool} (hneeded : needed = true → needed' = true)
    (hvalid : valid' = true → valid = true) (hlost : valid = true → valid' = true ∨ needed' = true)
    (hloop : authorityLoop verdict signatures needed valid = .ok a) :
    ∃ b, authorityLoop verdict' signatures needed' valid' = .ok b ∧ Recedes a b := by
  induction signatures generalizing needed valid needed' valid' with
  | nil =>
    cases hloop
    exact ⟨_, rfl, authorityStatus_recedes hneeded hvalid hlost⟩
  | cons s rest ih =>
    obtain ⟨hs, hrest⟩ := List.forall_mem_cons.mp h
    obtain ⟨status, hstatus, hround⟩ := except_bind_eq_ok.mp hloop
    obtain ⟨status', hstatus', hrecedes⟩ := hs status hstatus
    rcases status with _ | status
    · -- a signer that is not trusted ends both loops
      cases hround
      rcases hrecedes with rfl | ⟨hsome, -⟩
      · exact ⟨.STATUS_FAILED, by rw [authorityLoop, hstatus']; rfl, Or.inl rfl⟩
      · cases hsome
    · rw [authorityLoop_some hstatus] at hloop
      rcases hrecedes with rfl | ⟨-, rfl⟩
      · rw [authorityLoop_some hstatus']
        refine ih hrest ?_ ?_ ?_ hloop <;> simp only [Bool.or_eq_true] <;> tauto
      · rw [authorityLoop_some hstatus']
        refine ih hrest ?_ ?_ ?_ hloop <;> simp
        tauto

/-- Induction on the signatures: the loop gets as far as it got before. -/
theorem authorityLoop_answers
    (h : ∀ s ∈ signatures, ∀ a, verdict s = .ok a → ∃ b, verdict' s = .ok b ∧ (a = none → b = none))
    {needed valid : Bool} (needed' valid' : Bool)
    (hloop : authorityLoop verdict signatures needed valid = .ok a) :
    ∃ b, authorityLoop verdict' signatures needed' valid' = .ok b := by
  induction signatures generalizing needed valid needed' valid' with
  | nil => exact ⟨_, rfl⟩
  | cons s rest ih =>
    obtain ⟨hs, hrest⟩ := List.forall_mem_cons.mp h
    obtain ⟨status, hstatus, -⟩ := except_bind_eq_ok.mp hloop
    obtain ⟨status', hstatus', hstops⟩ := hs status hstatus
    rcases status' with _ | status'
    · exact ⟨.STATUS_FAILED, by rw [authorityLoop, hstatus']; rfl⟩
    · rcases status with _ | status
      · cases hstops rfl
      · rw [authorityLoop_some hstatus] at hloop
        rw [authorityLoop_some hstatus']
        exact ih hrest _ _ hloop

variable {count count' : VoteAuthorityEntry → Except JavaException SignatureStatus}

variable {entries : List VoteAuthorityEntry} {counts : Nat × Nat}

/-- Induction on the entries: fewer are verified, but those lost are missing a certificate. -/
theorem countLoop_recedes
    (h : ∀ entry ∈ entries, ∀ a, count entry = .ok a → ∃ b, count' entry = .ok b ∧ Recedes a b)
    {v n v' n' : Nat} (hv : v' ≤ v) (hn : v + n ≤ v' + n')
    (hloop : countLoop count entries v n = .ok counts) :
    ∃ counts', countLoop count' entries v' n' = .ok counts' ∧ counts'.1 ≤ counts.1 ∧
      counts.1 + counts.2 ≤ counts'.1 + counts'.2 := by
  induction entries generalizing v n v' n' with
  | nil =>
    cases hloop
    exact ⟨(v', n'), rfl, hv, hn⟩
  | cons entry rest ih =>
    obtain ⟨hentry, hrest⟩ := List.forall_mem_cons.mp h
    obtain ⟨status, hstatus, -⟩ := except_bind_eq_ok.mp hloop
    obtain ⟨status', hstatus', hrecedes⟩ := hentry status hstatus
    rw [countLoop_cons hstatus] at hloop
    rw [countLoop_cons hstatus']
    rcases hrecedes with rfl | rfl
    · refine ih hrest ?_ ?_ hloop <;> split_ifs <;> omega
    · rw [if_neg (by decide), if_pos rfl]
      refine ih hrest ?_ ?_ hloop
      · split_ifs <;> omega
      · cases status <;> simp <;> omega

theorem countLoop_answers
    (h : ∀ entry ∈ entries, ∀ a, count entry = .ok a → ∃ b, count' entry = .ok b)
    {v n : Nat} (v' n' : Nat) (hloop : countLoop count entries v n = .ok counts) :
    ∃ counts', countLoop count' entries v' n' = .ok counts' := by
  induction entries generalizing v n v' n' with
  | nil => exact ⟨(v', n'), rfl⟩
  | cons entry rest ih =>
    obtain ⟨hentry, hrest⟩ := List.forall_mem_cons.mp h
    obtain ⟨status, hstatus, -⟩ := except_bind_eq_ok.mp hloop
    obtain ⟨status', hstatus'⟩ := hentry status hstatus
    rw [countLoop_cons hstatus] at hloop
    rw [countLoop_cons hstatus']
    exact ih hrest _ _ hloop

end Loops

/-! ## The verdict on a document -/

variable {P : Platform} {doc : ConsensusDocument} {t t' : Int}
  {servers servers' : List DirectoryServer} {entries : List VoteAuthorityEntry}

theorem documentVerdict_recedes
    (hcount : getV3AuthorityServerCount servers' = getV3AuthorityServerCount servers)
    (h : ∀ entry ∈ entries, ∀ s ∈ entry.signatures, ∀ a,
      doc.signatureVerdict P t servers s = .ok a →
      ∃ b, doc.signatureVerdict P t' servers' s = .ok b ∧ SignatureRecedes a b)
    (hneed : doc.documentVerdict P t servers entries = .ok .STATUS_NEED_CERTS) :
    doc.documentVerdict P t' servers' entries = .ok .STATUS_NEED_CERTS := by
  obtain ⟨counts, hcounts, hstatus⟩ := except_bind_eq_ok.mp hneed
  have hentry : ∀ entry ∈ entries, ∀ a, doc.authorityVerdict P t servers entry = .ok a →
      ∃ b, doc.authorityVerdict P t' servers' entry = .ok b ∧ Recedes a b := by
    intro entry hmem a ha
    exact authorityLoop_recedes (h entry hmem) id id Or.inl ha
  obtain ⟨counts', hcounts', hfewer, henough⟩ :=
    countLoop_recedes hentry (Nat.le_refl 0) (Nat.le_refl _) hcounts
  apply except_bind_eq_ok.mpr
  refine ⟨counts', hcounts', ?_⟩
  rw [hcount]
  unfold overallStatus at hstatus ⊢
  split at hstatus
  · cases hstatus
  · rename_i hunverified
    split at hstatus
    · rename_i hsum
      rw [if_neg (by omega), if_pos (by omega)]
      rfl
    · cases hstatus

theorem documentVerdict_answers (h : ∀ entry ∈ entries, ∀ s ∈ entry.signatures, ∀ a,
      doc.signatureVerdict P t servers s = .ok a →
      ∃ b, doc.signatureVerdict P t' servers' s = .ok b ∧ (a = none → b = none))
    (hbefore : doc.documentVerdict P t servers entries = .ok a) :
    ∃ b, doc.documentVerdict P t' servers' entries = .ok b := by
  obtain ⟨counts, hcounts, -⟩ := except_bind_eq_ok.mp hbefore
  have hentry : ∀ entry ∈ entries, ∀ a, doc.authorityVerdict P t servers entry = .ok a →
      ∃ b, doc.authorityVerdict P t' servers' entry = .ok b := by
    intro entry hmem a ha
    exact authorityLoop_answers (h entry hmem) false false ha
  obtain ⟨counts', hcounts'⟩ := countLoop_answers hentry 0 0 hcounts
  exact ⟨_, except_bind_eq_ok.mpr ⟨counts', hcounts', rfl⟩⟩

/-- Lookups that drop expired certificates do not change the verdict of the moment. -/
theorem documentVerdict_looked (hlooked : List.Forall₂ (DirectoryServer.Purged t) servers servers') :
    doc.documentVerdict P t servers' entries = doc.documentVerdict P t servers entries := by
  have hbefore : Computes (Looked t servers) (doc.verifySignatures P t entries)
      (doc.documentVerdict P t servers entries) := verifySignatures_computes entries
  have hafter : Computes (Looked t servers') (doc.verifySignatures P t entries)
      (doc.documentVerdict P t servers' entries) := verifySignatures_computes entries
  have hself : Looked t servers' ⟨servers', []⟩ :=
    List.forall₂_same.mpr fun server _ => Or.inl rfl
  exact hafter.unique hbefore hself hlooked

/-! ## The verdict on a signature

It is a matter of the certificate in use for the authority, the first unexpired one. -/

/-- The servers have the same identities, and hold complete certificates of their own. -/
structure Comparable (servers servers' : List DirectoryServer) : Prop where
  identities : servers'.map DirectoryServer.v3Ident = servers.map DirectoryServer.v3Ident
  held : ∀ server ∈ servers, server.Held
  held' : ∀ server ∈ servers', server.Held

theorem Comparable.getAuthorityServerByIdentity (h : Comparable servers servers')
    (identity : HexDigest) :
    getAuthorityServerByIdentity identity servers' =
      getAuthorityServerByIdentity identity servers := by
  rw [getAuthorityServerByIdentity_map, getAuthorityServerByIdentity_map, h.identities]

theorem Comparable.getV3AuthorityServerCount (h : Comparable servers servers') :
    getV3AuthorityServerCount servers' = getV3AuthorityServerCount servers := by
  rw [getV3AuthorityServerCount_map, getV3AuthorityServerCount_map, h.identities]

/-- The verdict with the certificate in use, if there is one. -/
def useVerdict (P : Platform) (now : Int) (doc : ConsensusDocument)
    (certificate : Option KeyCertificate) (signature : DirectorySignature) :
    Except JavaException SignatureStatus :=
  match certificate with
  | none => .ok .STATUS_NEED_CERTS
  | some certificate => doc.checkWithCertificate P now certificate signature

variable {signature : DirectorySignature} {certificate : KeyCertificate}

theorem signatureVerdict_unknown
    (hunknown : getAuthorityServerByIdentity signature.identityDigest servers = none) :
    doc.signatureVerdict P t servers signature = .ok none := by
  unfold signatureVerdict
  rw [hunknown]
  rfl

variable {server : DirectoryServer}

theorem signatureVerdict_use {i : Nat} (hheld : server.Held)
    (htrusted : getAuthorityServerByIdentity signature.identityDigest servers = some i)
    (hserver : servers[i]? = some server) :
    doc.signatureVerdict P t servers signature =
      some <$> doc.useVerdict P t (server.unexpired t).head? signature := by
  obtain ⟨server', hserver', hident⟩ := getAuthorityServerByIdentity_some htrusted
  cases hserver.symm.trans hserver'
  have hcertificate : certificateOf t servers i = .ok (server.unexpired t).head? := by
    unfold certificateOf
    simp only [hserver, hident, hheld.getCertificateByAuthority hident t]
    rfl
  unfold signatureVerdict trustedVerdict useVerdict
  rw [htrusted]
  dsimp only
  rw [hcertificate]
  cases (server.unexpired t).head? with
  | none => rfl
  | some certificate => exact bind_pure_comp _ _

/-- Among unexpired certificates the time plays no role. -/
theorem checkWithCertificate_unexpired (signature : DirectorySignature)
    (hnow : certificate.isExpired t = false) (hlater : certificate.isExpired t' = false) :
    doc.checkWithCertificate P t' certificate signature =
      doc.checkWithCertificate P t certificate signature := by
  unfold checkWithCertificate
  rw [hnow, hlater]

/-- What is in use is unexpired. -/
theorem unexpired_of_head
    (huse : (server.unexpired t).head? = some certificate) : certificate.isExpired t = false := by
  have hmem : certificate ∈ server.unexpired t := List.mem_of_mem_head? huse
  simpa using (List.mem_filter.mp hmem).2

/-- The certificate in use is the same, or there is none now. -/
theorem signatureVerdict_recedes (hcomparable : Comparable servers servers')
    (huse : ∀ i server server',
      getAuthorityServerByIdentity signature.identityDigest servers = some i →
      servers[i]? = some server → servers'[i]? = some server' →
      (server'.unexpired t').head? = (server.unexpired t).head? ∨ server'.unexpired t' = [])
    {a : Option SignatureStatus} (ha : doc.signatureVerdict P t servers signature = .ok a) :
    ∃ b, doc.signatureVerdict P t' servers' signature = .ok b ∧ SignatureRecedes a b := by
  have hsame := hcomparable.getAuthorityServerByIdentity signature.identityDigest
  cases htrusted : getAuthorityServerByIdentity signature.identityDigest servers with
  | none =>
    rw [signatureVerdict_unknown htrusted] at ha
    cases ha
    exact ⟨none, signatureVerdict_unknown (hsame.trans htrusted), Or.inl rfl⟩
  | some i =>
    have htrusted' := hsame.trans htrusted
    obtain ⟨server, hserver, -⟩ := getAuthorityServerByIdentity_some htrusted
    obtain ⟨server', hserver', -⟩ := getAuthorityServerByIdentity_some htrusted'
    have hheld := hcomparable.held server (List.mem_of_getElem? hserver)
    have hheld' := hcomparable.held' server' (List.mem_of_getElem? hserver')
    rw [signatureVerdict_use hheld htrusted hserver] at ha
    rw [signatureVerdict_use hheld' htrusted' hserver']
    obtain ⟨status, hstatus, rfl⟩ := except_map_eq_ok.mp ha
    rcases huse i server server' htrusted hserver hserver' with hkept | hgone
    · refine ⟨some status, except_map_eq_ok.mpr ⟨status, ?_, rfl⟩, Or.inl rfl⟩
      rw [hkept]
      cases hhead : (server.unexpired t).head? with
      | none =>
        rw [hhead] at hstatus
        exact hstatus
      | some certificate =>
        rw [hhead] at hstatus hkept
        rw [← hstatus]
        exact checkWithCertificate_unexpired signature (unexpired_of_head hhead)
          (unexpired_of_head hkept)
    · refine ⟨some .STATUS_NEED_CERTS, ?_, Or.inr ⟨rfl, rfl⟩⟩
      rw [hgone]
      rfl

/-- With a certificate that opens the signature there is an answer. -/
theorem signatureVerdict_opens {i : Nat} (hheld : server.Held)
    (htrusted : getAuthorityServerByIdentity signature.identityDigest servers = some i)
    (hserver : servers[i]? = some server) (huse : (server.unexpired t).head? = some certificate)
    {key : TorPublicKey} {d : HexDigest} {b : Bool} (hkey : certificate.signingKey = some key)
    (hhash : doc.hashFor signature = some d)
    (hopens : key.verifySignature P signature.signature d.digestBytes = .ok b) :
    doc.signatureVerdict P t servers signature =
      .ok (some (if b then .STATUS_VERIFIED else .STATUS_FAILED)) := by
  rw [signatureVerdict_use hheld htrusted hserver, huse]
  unfold useVerdict checkWithCertificate
  simp only [unexpired_of_head huse, hkey, hhash, hopens]
  cases b with
  | true | false => rfl

end ConsensusDocument

end Orchid
