import Orchid.Consensus.Reexamination
import Orchid.Directory.ConsensusHistory
import Orchid.Lib.Lists
import Orchid.Lib.Runs

/-!
# Orchid — a consensus that waits for certificates

While a consensus waits, no other one is fetched. So it should wait only as long as nothing is
known about it: with the certificates held, `verifySignatures` should answer `STATUS_NEED_CERTS`.

The waiting document is looked at again when a certificate arrives whose signing key was asked for.
But a lookup takes the first certificate of the authority, whatever its key. A certificate with
another key than the one the consensus names is put to use without anybody looking, and the
document goes on waiting though it could be decided.

* **`Heeded`** says what keeps this from happening: a certificate that comes into use for a
  signature of the waiting document is one that was asked for, and opens the signature.
* **`pending_undecided`**: then a waiting document is always undecided.
* **`waits_though_verified`**: otherwise it may be verified and wait.
-/

namespace Orchid

open Prog ConsensusDocument Platform

namespace DirectoryImpl

variable (P : Platform)

/-! ## What is asked -/

/-- The answer of `verifySignatures` with the certificates held. -/
def WouldAnswer (now : Int) (s : DirectoryImpl) (doc : ConsensusDocument)
    (status : SignatureStatus) : Prop :=
  ∃ st, doc.verifySignatures P now doc.authorityEntries ⟨s.directoryServers, []⟩ = .ok status st

/-- A directory, and the time of the last call. -/
structure Clocked where
  directory : DirectoryImpl
  time : Int

def step (s : Clocked) (call : Int × DirectoryCall) : Option Clocked :=
  some ⟨afterCall P s.directory call, call.1⟩

/-- From one time to another, an authority keeps the certificate in use or is left with none. -/
def Fades (t t' : Int) (servers : List DirectoryServer) : Prop :=
  ∀ server ∈ servers,
    (server.unexpired t').head? = (server.unexpired t).head? ∨ server.unexpired t' = []

/-- A waiting document is undecided, now and as long as certificates only lapse. -/
def Undecided (s : Clocked) : Prop :=
  ∀ doc, s.directory.consensusWaitingForCertificates = some doc →
    ∀ t, Fades s.time t s.directory.directoryServers →
      WouldAnswer P t s.directory doc .STATUS_NEED_CERTS

/-! ## The condition -/

/-- The certificate would be the one in use for its authority. -/
def TakesEffect (now : Int) (s : DirectoryImpl) (certificate : KeyCertificate) : Prop :=
  certificate.isExpired now = false ∧
    ∃ i server, authorityOf certificate s.directoryServers = .ok (some i) ∧
      s.directoryServers[i]? = some server ∧ server.unexpired now = []

/-- The key of the certificate decrypts the signature, whatever comes out. -/
def Opens (doc : ConsensusDocument) (certificate : KeyCertificate)
    (signature : DirectorySignature) : Prop :=
  ∃ key d b, certificate.signingKey = some key ∧ doc.hashFor signature = some d ∧
    key.verifySignature P signature.signature d.digestBytes = .ok b

/-- The waiting document can be installed, and be compared with the consensus in force. -/
structure Ready (s : DirectoryImpl) (doc : ConsensusDocument) : Prop where
  installable : Installable doc
  current : ∀ current, s.currentConsensus = some current →
    current.signingHash.isSome ∧ current.validAfter.isSome

/-- A certificate that arrives while a document waits. -/
structure WellTimed (now : Int) (s : DirectoryImpl) (doc : ConsensusDocument)
    (certificate : KeyCertificate) : Prop where
  ready : Ready s doc
  required : ∀ entry ∈ doc.authorityEntries, ∀ signature ∈ entry.signatures,
    certificate.fingerprint = some signature.identityDigest → TakesEffect now s certificate →
      s.requires P certificate = true ∧ Opens P doc certificate signature

/-- What is asked of a call: certificates are complete, as the parser makes them, and while a
document waits, certificates only lapse and those that arrive are well timed. -/
structure Heeded (s : Clocked) (call : Int × DirectoryCall) : Prop where
  complete : ∀ certificate, call.2 = .addCertificate certificate →
    certificate.isValidDocument = true
  lapses : s.directory.consensusWaitingForCertificates ≠ none →
    Fades s.time call.1 s.directory.directoryServers
  wellTimed : ∀ certificate doc, call.2 = .addCertificate certificate →
    s.directory.consensusWaitingForCertificates = some doc →
    WellTimed P call.1 s.directory doc certificate

/-! ## The certificates held -/

/-- All authorities hold complete certificates of their own. -/
def AllHeld (s : DirectoryImpl) : Prop := ∀ server ∈ s.directoryServers, server.Held

variable {P} {now t t' : Int} {s s' : DirectoryImpl} {doc : ConsensusDocument}
  {certificate : KeyCertificate}

variable {status : SignatureStatus}

theorem wouldAnswer_iff : WouldAnswer P now s doc status ↔ s.verdict P now doc = .ok status := by
  have hcomputes : Computes (ConsensusDocument.Looked now s.directoryServers)
      (doc.verifySignatures P now doc.authorityEntries) (s.verdict P now doc) :=
    verifySignatures_computes _
  have hstart : ConsensusDocument.Looked now s.directoryServers ⟨s.directoryServers, []⟩ :=
    List.forall₂_same.mpr fun server _ => Or.inl rfl
  constructor
  · rintro ⟨st, hrun⟩
    exact hcomputes.eq_ok hstart hrun
  · intro hverdict
    rw [hverdict] at hcomputes
    exact hcomputes.returns hstart

variable {servers' : List DirectoryServer} {consensus : ConsensusDocument}

theorem allHeld_looked (hheld : AllHeld s) (hlooked : s.Looked now servers') :
    ∀ server ∈ servers', server.Held := by
  unfold AllHeld at hheld
  unfold Looked at hlooked
  generalize s.directoryServers = servers at hheld hlooked
  induction hlooked with
  | nil => simp
  | cons hpurged _ ih =>
    obtain ⟨hserver, hrest⟩ := List.forall_mem_cons.mp hheld
    refine List.forall_mem_cons.mpr ⟨?_, ih hrest⟩
    rcases hpurged with rfl | rfl
    · exact hserver
    · exact fun c hc => hserver c (List.mem_of_mem_filter hc)

/-- The server that a certificate was added to. -/
theorem Added.server (h : Added P certificate s s') :
    ∃ i server, authorityOf certificate s.directoryServers = .ok (some i) ∧
      s.directoryServers[i]? = some server ∧ certificate.fingerprint = server.v3Ident ∧
      s'.directoryServers = s.directoryServers.set i
        { server with certificates := server.certificates ++ [certificate] } := by
  obtain ⟨required', hauthority, hserver, hadd⟩ := h
  obtain ⟨-, -, hname, rfl⟩ := DirectoryServer.addCertificate_ok hadd
  exact ⟨_, _, hauthority, hserver, hname, rfl⟩

theorem Added.comparable (h : Added P certificate s s') (hheld : AllHeld s)
    (hcomplete : certificate.isValidDocument = true) :
    Comparable s.directoryServers s'.directoryServers := by
  obtain ⟨i, server, -, hserver, hname, hservers⟩ := h.server
  rw [hservers]
  refine ⟨Lists.map_set_of_eq hserver rfl, hheld, fun other hmem => ?_⟩
  rcases List.mem_or_eq_of_mem_set hmem with hold | rfl
  · exact hheld other hold
  · exact List.forall_mem_append.mpr ⟨hheld server (List.mem_of_getElem? hserver),
      List.forall_mem_singleton.mpr ⟨hcomplete, hname⟩⟩

/-! ## How the verdict moves -/

theorem verdict_fades (hheld : AllHeld s) (hfades : Fades t t' s.directoryServers)
    (hneed : s.verdict P t doc = .ok .STATUS_NEED_CERTS) :
    s.verdict P t' doc = .ok .STATUS_NEED_CERTS := by
  refine documentVerdict_recedes rfl (fun entry _ signature _ a ha => ?_) hneed
  refine signatureVerdict_recedes ⟨rfl, hheld, hheld⟩ (fun i server server' _ hserver hserver' => ?_) ha
  cases hserver.symm.trans hserver'
  exact hfades server (List.mem_of_getElem? hserver)

/-- The certificate is put behind those held. -/
theorem unexpired_concat (server : DirectoryServer) (certificate : KeyCertificate) (now : Int) :
    ({ server with certificates := server.certificates ++ [certificate] } :
        DirectoryServer).unexpired now =
      server.unexpired now ++ if certificate.isExpired now then [] else [certificate] := by
  unfold DirectoryServer.unexpired
  rw [List.filter_append]
  cases hexpired : certificate.isExpired now with
  | true | false => simp [hexpired]

/-- The certificate in use for the signer of a signature is the one from before, unless the new
one takes effect for it. -/
theorem Added.inUse (h : Added P certificate s s') {signature : DirectorySignature} {j : Nat}
    {server server' : DirectoryServer}
    (htrusted : TrustedAuthorities.getAuthorityServerByIdentity signature.identityDigest
      s.directoryServers = some j) (hserver : s.directoryServers[j]? = some server)
    (hserver' : s'.directoryServers[j]? = some server') :
    (server'.unexpired now).head? = (server.unexpired now).head? ∨
      (certificate.fingerprint = some signature.identityDigest ∧ TakesEffect now s certificate ∧
        (server'.unexpired now).head? = some certificate) := by
  obtain ⟨i, added, hauthority, hadded, hname, hservers⟩ := h.server
  rw [hservers] at hserver'
  rcases Lists.getElem?_set_cases hserver' with ⟨rfl, rfl⟩ | ⟨-, hother⟩
  · cases hserver.symm.trans hadded
    rw [unexpired_concat]
    cases hexpired : certificate.isExpired now with
    | true => simp
    | false =>
      cases hempty : server.unexpired now with
      | cons first rest => exact Or.inl rfl
      | nil =>
        obtain ⟨server', hserver', hident⟩ := getAuthorityServerByIdentity_some htrusted
        cases hserver.symm.trans hserver'
        exact Or.inr ⟨hname.trans hident, ⟨hexpired, j, server, hauthority, hserver, hempty⟩, rfl⟩
  · cases hserver.symm.trans hother
    exact Or.inl rfl

/-- A certificate that takes no effect leaves the document undecided. -/
theorem verdict_added (hadded : Added P certificate s s') (hheld : AllHeld s)
    (hcomplete : certificate.isValidDocument = true)
    (hidle : ∀ entry ∈ doc.authorityEntries, ∀ signature ∈ entry.signatures,
      certificate.fingerprint = some signature.identityDigest → ¬ TakesEffect now s certificate)
    (hneed : s.verdict P now doc = .ok .STATUS_NEED_CERTS) :
    s'.verdict P now doc = .ok .STATUS_NEED_CERTS := by
  have hcomparable := hadded.comparable hheld hcomplete
  refine documentVerdict_recedes hcomparable.getV3AuthorityServerCount
    (fun entry hentry signature hsignature a ha => ?_) hneed
  refine signatureVerdict_recedes hcomparable
    (fun i server server' htrusted hserver hserver' => Or.inl ?_) ha
  rcases hadded.inUse htrusted hserver hserver' with hsame | ⟨hname, heffect, -⟩
  · exact hsame
  · exact absurd heffect (hidle entry hentry signature hsignature hname)

/-- With a certificate that opens what it takes effect for, there is a verdict. -/
theorem verdict_answers (hadded : Added P certificate s s') (hheld : AllHeld s)
    (hcomplete : certificate.isValidDocument = true)
    (hopens : ∀ entry ∈ doc.authorityEntries, ∀ signature ∈ entry.signatures,
      certificate.fingerprint = some signature.identityDigest → TakesEffect now s certificate →
        Opens P doc certificate signature) (hbefore : s.verdict P now doc = .ok status) :
    ∃ status', s'.verdict P now doc = .ok status' := by
  have hcomparable := hadded.comparable hheld hcomplete
  refine documentVerdict_answers (fun entry hentry signature hsignature a ha => ?_) hbefore
  cases htrusted : TrustedAuthorities.getAuthorityServerByIdentity signature.identityDigest
      s.directoryServers with
  | none =>
    have htrusted' := (hcomparable.getAuthorityServerByIdentity _).trans htrusted
    exact ⟨none, signatureVerdict_unknown htrusted', fun _ => rfl⟩
  | some i =>
    have htrusted' := (hcomparable.getAuthorityServerByIdentity _).trans htrusted
    obtain ⟨server, hserver, -⟩ := getAuthorityServerByIdentity_some htrusted
    obtain ⟨server', hserver', -⟩ := getAuthorityServerByIdentity_some htrusted'
    rcases hadded.inUse htrusted hserver hserver' with hsame | ⟨hname, heffect, huse⟩
    · have hrecedes := signatureVerdict_recedes hcomparable (fun i' first second hi' hfirst hsecond => by
        cases htrusted.symm.trans hi'
        cases hserver.symm.trans hfirst
        cases hserver'.symm.trans hsecond
        exact Or.inl hsame) ha
      obtain ⟨b, hb, rfl | ⟨hsome, rfl⟩⟩ := hrecedes
      · exact ⟨b, hb, id⟩
      · exact ⟨_, hb, fun hnone => by simp [hnone] at hsome⟩
    · obtain ⟨key, d, b, hkey, hhash, hverify⟩ :=
        hopens entry hentry signature hsignature hname heffect
      have hanswer := signatureVerdict_opens
        (hcomparable.held' server' (List.mem_of_getElem? hserver')) htrusted' hserver' huse hkey hhash
        hverify
      have hheldServer := hheld server (List.mem_of_getElem? hserver)
      rw [signatureVerdict_use hheldServer htrusted hserver] at ha
      obtain ⟨before, -, rfl⟩ := except_map_eq_ok.mp ha
      exact ⟨_, hanswer, nofun⟩

/-! ## The invariant -/

/-- At a given time the certificates held are complete and a waiting document is undecided. -/
structure UndecidedAt (P : Platform) (now : Int) (s : DirectoryImpl) : Prop where
  held : AllHeld s
  undecided : ∀ doc, s.consensusWaitingForCertificates = some doc →
    s.verdict P now doc = .ok .STATUS_NEED_CERTS

theorem UndecidedAt.idle (hheld : AllHeld s) (hnone : s.consensusWaitingForCertificates = none) :
    UndecidedAt P now s where
  held := hheld
  undecided := by
    intro doc hdoc
    cases hnone.symm.trans hdoc

theorem UndecidedAt.fades (h : UndecidedAt P t s)
    (hfades : s.consensusWaitingForCertificates ≠ none → Fades t t' s.directoryServers) :
    UndecidedAt P t' s where
  held := h.held
  undecided := by
    intro doc hwaiting
    have hsome : s.consensusWaitingForCertificates ≠ none := by simp [hwaiting]
    exact verdict_fades h.held (hfades hsome) (h.undecided doc hwaiting)

theorem UndecidedAt.congr (h : UndecidedAt P now s)
    (hservers : s'.directoryServers = s.directoryServers)
    (hwaiting : s'.consensusWaitingForCertificates = s.consensusWaitingForCertificates) :
    UndecidedAt P now s' where
  held := by
    unfold AllHeld
    rw [hservers]
    exact h.held
  undecided := by
    intro doc hdoc
    unfold verdict
    rw [hservers]
    exact h.undecided doc (hwaiting.symm.trans hdoc)

theorem verdict_looked (hlooked : s.Looked now servers') (hservers : s'.directoryServers = servers')
    (doc : ConsensusDocument) :
    s'.verdict P now doc = s.verdict P now doc := by
  unfold verdict
  rw [hservers]
  exact documentVerdict_looked hlooked

/-- Lookups leave a waiting document undecided; and so does a document without a verdict that
takes its place. -/
theorem UndecidedAt.looked (hheld : AllHeld s) (hlooked : s.Looked now servers')
    (hservers : s'.directoryServers = servers')
    (hwaiting : ∀ doc, s'.consensusWaitingForCertificates = some doc →
      s.verdict P now doc = .ok .STATUS_NEED_CERTS) : UndecidedAt P now s' where
  held := by
    unfold AllHeld
    rw [hservers]
    exact allHeld_looked hheld hlooked
  undecided := by
    intro doc hdoc
    rw [verdict_looked hlooked hservers]
    exact hwaiting doc hdoc

variable {r : EStateM.Result JavaException DirectoryImpl Unit} {fromCache : Bool}

theorem Offer.held
    (h : Offer P now consensus fromCache s r) (hheld : AllHeld s) : AllHeld (final r) := by
  cases h with
  | superseded | incomparable => exact hheld
  | unverifiable hnew hlooked hverdict | failed hnew hlooked hverdict
  | pending required hnew hlooked hverdict => exact allHeld_looked hheld hlooked
  | @verified servers' required hnew hlooked hverdict =>
    let examined := requireCertificates required { s with directoryServers := servers' }
    unfold AllHeld
    rw [(install_keeps consensus fromCache examined).1]
    exact allHeld_looked hheld hlooked

theorem Offer.undecidedAt
    (h : Offer P now consensus fromCache s r) (hundecided : UndecidedAt P now s) :
    UndecidedAt P now (final r) := by
  cases h with
  | superseded | incomparable => exact hundecided
  | unverifiable hnew hlooked hverdict | failed hnew hlooked hverdict =>
    exact UndecidedAt.looked hundecided.held hlooked rfl hundecided.undecided
  | pending required hnew hlooked hverdict =>
    apply UndecidedAt.looked hundecided.held hlooked rfl
    intro doc hdoc
    cases hdoc
    exact hverdict
  | @verified servers' required hnew hlooked hverdict =>
    let examined := requireCertificates required { s with directoryServers := servers' }
    have hexamined : UndecidedAt P now examined :=
      UndecidedAt.looked hundecided.held hlooked rfl hundecided.undecided
    obtain ⟨hservers, hwaiting⟩ := install_keeps consensus fromCache examined
    exact hexamined.congr hservers hwaiting

/-- A document that is ready is compared without an exception. -/
theorem Ready.supersedes (h : Ready s doc) : ∃ b, s.supersedes doc = .ok b := by
  unfold DirectoryImpl.supersedes
  cases hcurrent : s.currentConsensus with
  | none => exact ⟨false, rfl⟩
  | some current =>
    obtain ⟨hhash, hafter⟩ := h.current current hcurrent
    obtain ⟨d, hd⟩ := Option.isSome_iff_exists.mp hhash
    obtain ⟨t, ht⟩ := Option.isSome_iff_exists.mp hafter
    obtain ⟨t', ht'⟩ := Option.isSome_iff_exists.mp h.installable.validAfter
    simp only [ConsensusDocument.equals, ConsensusDocument.isBefore, hd, ht, ht']
    cases decide (some d = doc.signingHash) with
    | true => exact ⟨true, rfl⟩
    | false => exact ⟨_, rfl⟩

/-- Offering a verified document that is ready returns. -/
theorem addConsensusDocument_returns (fromCache : Bool) (hready : Ready s doc)
    (hverdict : s.verdict P now doc = .ok .STATUS_VERIFIED) :
    ∃ s', addConsensusDocument P now doc fromCache s = .ok () s' := by
  have hoffer := addConsensusDocument_offer P now doc fromCache s
  generalize addConsensusDocument P now doc fromCache s = r at hoffer ⊢
  cases hoffer with
  | superseded hold => exact ⟨s, rfl⟩
  | incomparable hraise =>
    obtain ⟨b, hb⟩ := hready.supersedes
    cases hraise.symm.trans hb
  | unverifiable hnew hlooked hraise =>
    cases hraise.symm.trans hverdict
  | failed | pending => exact ⟨_, rfl⟩
  | verified required hnew hlooked hverified =>
    obtain ⟨s₁, stored, -, hrun⟩ := install_returns hready.installable fromCache _
    exact ⟨_, hrun⟩

theorem addCertificate_undecidedAt (hundecided : UndecidedAt P now s)
    (hcomplete : certificate.isValidDocument = true)
    (htimed : ∀ doc, s.consensusWaitingForCertificates = some doc →
      WellTimed P now s doc certificate) :
    UndecidedAt P now (final (addCertificate P now certificate s)) := by
  have hreceipt := receiveCertificate_receipt P now certificate s
  have hwaits : ∀ {s'}, Added P certificate s s' →
      s'.consensusWaitingForCertificates = s.consensusWaitingForCertificates := by
    rintro s' ⟨required', hauthority, hserver, hadd⟩
    rfl
  have hheld : ∀ {s'}, Added P certificate s s' → AllHeld s' :=
    fun hadded => (hadded.comparable hundecided.held hcomplete).held'
  unfold addCertificate
  rw [bind_run]
  generalize receiveCertificate P now certificate s = r at hreceipt ⊢
  cases hreceipt with
  | refused e required' | unknown required' => exact hundecided.congr rfl rfl
  | @stored s' hadded hidle =>
    show UndecidedAt P now s'
    refine ⟨hheld hadded, fun doc hdoc => ?_⟩
    rw [hwaits hadded] at hdoc
    -- nobody looks at the document, but the certificate takes no effect for it
    apply verdict_added hadded hundecided.held hcomplete _ (hundecided.undecided doc hdoc)
    intro entry hentry signature hsignature hname heffect
    have hrequired := ((htimed doc hdoc).required entry hentry signature hsignature hname heffect).1
    rcases hidle with hnot | hnone
    · cases hnot.symm.trans hrequired
    · cases hnone.symm.trans hdoc
  | @unverifiable s' doc e servers' hadded hrequired hdoc hlooked hverdict =>
    obtain ⟨status, hstatus⟩ := verdict_answers hadded hundecided.held hcomplete
      (fun entry hentry signature hsignature hname heffect =>
        ((htimed doc hdoc).required entry hentry signature hsignature hname heffect).2)
      (hundecided.undecided doc hdoc)
    cases hverdict.symm.trans hstatus
  | failed hadded hrequired hdoc hlooked hverdict =>
    exact UndecidedAt.idle (allHeld_looked (hheld hadded) hlooked) rfl
  | @pending s' doc servers' required hadded hrequired hdoc hlooked hverdict =>
    apply UndecidedAt.looked (hheld hadded) hlooked rfl
    intro doc' hdoc'
    have hsame : s'.consensusWaitingForCertificates = some doc' := hdoc'
    rw [hwaits hadded, hdoc, Option.some.injEq] at hsame
    rw [← hsame]
    exact hverdict
  | @completed s' doc servers' hadded hrequired hdoc hlooked hverdict =>
    -- the document is offered again and waits no longer
    let s₁ : DirectoryImpl := { s' with directoryServers := servers' }
    have hcurrent : s₁.currentConsensus = s.currentConsensus := by
      obtain ⟨required', hauthority, hserver, hadd⟩ := hadded
      rfl
    have hready : Ready s₁ doc :=
      ⟨(htimed doc hdoc).ready.installable, by
        intro current hc
        exact (htimed doc hdoc).ready.current current (hcurrent.symm.trans hc)⟩
    have hverified : s₁.verdict P now doc = .ok .STATUS_VERIFIED :=
      (verdict_looked hlooked rfl doc).trans hverdict
    obtain ⟨s₂, hoffered⟩ := addConsensusDocument_returns false hready hverified
    have hheld₂ : AllHeld s₂ := by
      have hkept := (addConsensusDocument_offer P now doc false s₁).held
        (allHeld_looked (hheld hadded) hlooked)
      rw [hoffered] at hkept
      exact hkept
    show UndecidedAt P now (final ((addConsensusDocument P now doc false >>= fun _ => _) s₁))
    rw [bind_of_ok hoffered]
    exact UndecidedAt.idle hheld₂ rfl

theorem call_undecidedAt {call : DirectoryCall} (hundecided : UndecidedAt P now s)
    (hcomplete : ∀ certificate, call = .addCertificate certificate →
      certificate.isValidDocument = true)
    (htimed : ∀ certificate doc, call = .addCertificate certificate →
      s.consensusWaitingForCertificates = some doc → WellTimed P now s doc certificate) :
    UndecidedAt P now (afterCall P s (now, call)) := by
  cases call with
  | addConsensusDocument consensus fromCache =>
    exact (addConsensusDocument_offer P now consensus fromCache s).undecidedAt hundecided
  | addCertificate certificate =>
    exact addCertificate_undecidedAt hundecided (hcomplete certificate rfl)
      fun doc hdoc => htimed certificate doc rfl hdoc

/-- **One step.** -/
theorem undecidedAt_step {s s' : Clocked} {call : Int × DirectoryCall}
    (hundecided : UndecidedAt P s.time s.directory) (hheeded : Heeded P s call)
    (hstep : step P s call = some s') : UndecidedAt P s'.time s'.directory := by
  cases hstep
  exact call_undecidedAt (hundecided.fades hheeded.lapses) hheeded.complete hheeded.wellTimed

/-- **A waiting consensus is undecided.** In every run of calls that are heeded, from a new
directory on. -/
theorem pending_undecided (P : Platform) (servers : List DirectoryServer) (time : Int)
    (hservers : ∀ server ∈ servers, server.Held) (calls : List (Int × DirectoryCall))
    (hcalls : Runs.Meets (step P) (Heeded P) ⟨create servers, time⟩ calls) (s : Clocked)
    (hrun : Runs.run (step P) ⟨create servers, time⟩ calls = some s) : Undecided P s := by
  have hstart : UndecidedAt P time (create servers) := UndecidedAt.idle hservers rfl
  have hlast : UndecidedAt P s.time s.directory :=
    Runs.invariant (I := fun s : Clocked => UndecidedAt P s.time s.directory)
      (fun _ _ _ hundecided hheeded hstep => undecidedAt_step hundecided hheeded hstep)
      hstart hcalls hrun
  intro doc hdoc t hfades
  exact wouldAnswer_iff.mpr (verdict_fades hlast.held hfades (hlast.undecided doc hdoc))

/-- A document that needs certificates waits. -/
theorem waiting_of_need (fromCache : Bool) (hcurrent : s.currentConsensus = none)
    (hneed : s.verdict P now consensus = .ok .STATUS_NEED_CERTS) :
    (final (addConsensusDocument P now consensus fromCache s)).consensusWaitingForCertificates =
      some consensus := by
  have hnew : s.supersedes consensus = .ok false := by
    unfold supersedes
    rw [hcurrent]
    rfl
  obtain ⟨servers', required, -, hverify⟩ := verifySignatures_run P now consensus s
  rw [hneed] at hverify
  rw [addConsensusDocument_examined P now fromCache hnew]
  unfold examine
  rw [bind_run, bind_of_ok hverify]
  rfl

end DirectoryImpl

/-! ## Certificates for a sample -/

namespace Sample

open DirectoryImpl

def digestOf (n : UInt8) : HexDigest := ⟨List.replicate 20 n, HexDigest.replicate_valid n⟩

/-- The authority with a number, which has signed naming a key. -/
def signer (authority signingKey : UInt8) : VoteAuthorityEntry :=
  { identity := some (digestOf authority)
    signatures := [⟨digestOf authority, digestOf signingKey,
      ⟨List.replicate 20 0x11, .DIGEST_SHA1⟩, false⟩] }

/-- A consensus with good signatures, each under the name of its authority. -/
def consensusOf (signers : List VoteAuthorityEntry) : ConsensusDocument :=
  { validAfter := some 0
    freshUntil := some 10
    validUntil := some 20
    signingHash := some (digestOf 0x11)
    voteAuthorityEntries :=
      signers.foldl (fun entries entry => entries.insert entry.identity entry) ∅ }

def authorities (l : List UInt8) : List DirectoryServer :=
  l.map fun n => { v3Ident := some (digestOf n) }

/-- The certificate of an authority for a key whose fingerprint is `0xB1` twenty times. -/
def certificateFor (authority : UInt8) : KeyCertificate :=
  { fingerprint := some (digestOf authority), identityKey := some ⟨lit "id"⟩
    keyPublished := some 0, keyExpires := some 100, signingKey := some ⟨lit "sign"⟩
    hasValidSignature := true }

/-- Two authorities have signed, the first with the key of the certificate. -/
def asked : ConsensusDocument := consensusOf [signer 1 0xB1, signer 2 0x22]

def askedStart : DirectoryImpl := create (authorities [1, 2])

/-- The document waits, and then one of its certificates arrives. -/
def askedCalls : List (Int × DirectoryCall) :=
  [(5, .addConsensusDocument asked false), (5, .addCertificate (certificateFor 1))]

def askedWaiting : DirectoryImpl :=
  afterCall Platform.checksum askedStart (5, .addConsensusDocument asked false)

theorem askedWaiting_waits : askedWaiting.consensusWaitingForCertificates = some asked :=
  waiting_of_need false rfl (by decide +kernel)

theorem asked_opened : ∀ entry ∈ asked.authorityEntries, ∀ signature ∈ entry.signatures,
    Opens checksum asked (certificateFor 1) signature := by
  intro entry hentry signature hsignature
  have hall : ∀ entry ∈ asked.authorityEntries, ∀ signature ∈ entry.signatures,
      signature.useSha256 = false ∧
        TorPublicKey.verifySignature checksum ⟨lit "sign"⟩ signature.signature
          (digestOf 0x11).digestBytes = .ok true := by decide +kernel
  obtain ⟨hsha1, hverify⟩ := hall entry hentry signature hsignature
  refine ⟨⟨lit "sign"⟩, digestOf 0x11, true, rfl, ?_, hverify⟩
  unfold ConsensusDocument.hashFor
  rw [hsha1]
  rfl

theorem asked_installable : Installable asked where
  validAfter := rfl
  entries := by
    have hnone : asked.routerStatusEntries = [] := rfl
    simp [hnone]

theorem askedCalls_heeded : Runs.Meets (step checksum) (Heeded checksum)
    ⟨askedStart, 5⟩ askedCalls := by
  have hnone : askedStart.consensusWaitingForCertificates = none := rfl
  have hfirst : Heeded checksum ⟨askedStart, 5⟩ (5, .addConsensusDocument asked false) :=
    { complete := by
        intro certificate hcall
        cases hcall
      lapses := fun hwaits => absurd hnone hwaits
      wellTimed := by
        intro certificate doc hcall
        cases hcall }
  refine ⟨hfirst, ?_⟩
  intro s hs
  have hs : s = ⟨askedWaiting, 5⟩ := (Option.some.inj hs).symm
  subst hs
  refine ⟨⟨?_, ?_, ?_⟩, fun s' _ => trivial⟩
  · rintro certificate ⟨⟩
    rfl
  · intro _ server _
    exact Or.inl rfl
  · rintro certificate doc ⟨⟩ hdoc
    have hsame : asked = doc := Option.some.inj (askedWaiting_waits.symm.trans hdoc)
    subst hsame
    have hrequires : askedWaiting.requires checksum (certificateFor 1) = true := by
      decide +kernel
    have hnew : askedWaiting.currentConsensus.isNone = true := by decide +kernel
    refine ⟨⟨asked_installable, fun current hcurrent => ?_⟩, ?_⟩
    · have hcurrent : askedWaiting.currentConsensus = some current := hcurrent
      rw [hcurrent] at hnew
      cases hnew
    · intro entry hentry signature hsignature _ _
      exact ⟨hrequires, asked_opened entry hentry signature hsignature⟩

end Sample

namespace DirectoryImpl

open Sample

/-- One of two certificates has arrived: the document waits for the other. -/
theorem waits_for_second_certificate :
    ∃ s doc, Runs.run (step checksum) ⟨askedStart, 5⟩ askedCalls = some s ∧
      s.directory.consensusWaitingForCertificates = some doc ∧
      WouldAnswer checksum 5 s.directory doc .STATUS_NEED_CERTS := by
  let last := afterCall checksum askedWaiting (5, .addCertificate (certificateFor 1))
  have hpending : last.hasPendingConsensus = true := by decide +kernel
  obtain ⟨doc, hdoc⟩ := Option.isSome_iff_exists.mp hpending
  have hheld : ∀ server ∈ authorities [1, 2], server.Held := by
    intro server hserver c hc
    have hempty : ∀ server ∈ authorities [1, 2], server.certificates = [] := by decide
    rw [hempty server hserver] at hc
    cases hc
  refine ⟨⟨last, 5⟩, doc, rfl, hdoc, ?_⟩
  exact pending_undecided checksum (authorities [1, 2]) 5 hheld askedCalls
    askedCalls_heeded ⟨last, 5⟩ rfl doc hdoc 5 fun server _ => Or.inl rfl

/-- The consensus names another key than the certificate has. Once the certificate is there, the
signature is good, but the document goes on waiting. -/
theorem waits_though_verified :
    ∃ s doc, Runs.run (step checksum) ⟨create (authorities [1]), 5⟩
        [(5, .addConsensusDocument (consensusOf [signer 1 0x22]) false),
          (5, .addCertificate (certificateFor 1))] = some s ∧
      s.directory.consensusWaitingForCertificates = some doc ∧
      WouldAnswer checksum 5 s.directory doc .STATUS_VERIFIED := by
  let waiting := afterCall checksum (create (authorities [1]))
    (5, .addConsensusDocument (consensusOf [signer 1 0x22]) false)
  let last := afterCall checksum waiting (5, .addCertificate (certificateFor 1))
  have hverdict : last.consensusWaitingForCertificates.map (last.verdict checksum 5) =
      some (.ok .STATUS_VERIFIED) := by decide +kernel
  obtain ⟨doc, hdoc, hverified⟩ := Option.map_eq_some_iff.mp hverdict
  exact ⟨⟨last, 5⟩, doc, rfl, hdoc, wouldAnswer_iff.mpr hverified⟩

end DirectoryImpl

end Orchid
