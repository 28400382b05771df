import Orchid.Directory.KeyCertificate

/-!
# Orchid — directory authorities and the certificates held for them

`DirectoryServerImpl` keeps the certificates of one authority, `TrustedAuthorities` the list
of authorities built in. Looking a certificate up first drops expired ones.

* **`purgeOldCertificates_ok`**: the second purge never drops anything. It means to drop
  what is two days older than the newest certificate, but `getNewestCertificate` compares
  the wrong way round and picks the oldest.
* **`getCertificateByAuthority_ok`**: so a lookup returns the first unexpired certificate
  with the fingerprint asked for.
* **`getCertificates_recent_iff`**: and what is returned is meant to be recent, which it is only
  if all certificates are.
* **`Purged.getCertificates`**: a lookup made before does not change what a later one finds.
-/

namespace Orchid

open Prog

/-- The fields of `DirectoryServerImpl` its certificate store uses. -/
structure DirectoryServer where
  v3Ident : Option HexDigest := none
  certificates : List KeyCertificate := []
  deriving DecidableEq

namespace DirectoryServer

def getPublishedMilliseconds (certificate : KeyCertificate) : Except JavaException Int :=
  match certificate.keyPublished with
  | some t => .ok t
  | none => .error .nullPointer

def purgeExpiredCertificates (now : Int) (s : DirectoryServer) : DirectoryServer :=
  { s with certificates := s.certificates.filter fun c => !c.isExpired now }

/-- One round of the search: the candidate is replaced by a certificate published earlier. -/
def newerCertificate (newest : Option KeyCertificate) (kc : KeyCertificate) :
    Except JavaException (Option KeyCertificate) :=
  match newest with
  | none => return some kc
  | some candidate => do
    let tc ← getPublishedMilliseconds candidate
    let tk ← getPublishedMilliseconds kc
    return if tc > tk then some kc else some candidate

def getNewestCertificate (s : DirectoryServer) : Except JavaException (Option KeyCertificate) :=
  s.certificates.foldlM newerCertificate none

def isMoreThan48HoursOlder (newer older : KeyCertificate) : Except JavaException Bool := do
  let milliseconds : Int := 48 * 60 * 60 * 1000
  let tn ← getPublishedMilliseconds newer
  let told ← getPublishedMilliseconds older
  return tn - told > milliseconds

/-- The test of the purge loop. -/
def isOutdated (newest elem : KeyCertificate) : Except JavaException Bool :=
  if elem ≠ newest then isMoreThan48HoursOlder newest elem else return false

/-- The iterator loop that removes what is older than `newest`. -/
def removeOlder (newest : KeyCertificate) :
    List KeyCertificate → Except JavaException (List KeyCertificate)
  | [] => .ok []
  | elem :: rest => do
    let outdated ← isOutdated newest elem
    let kept ← removeOlder newest rest
    return if outdated then kept else elem :: kept

def purgeOldCertificates (s : DirectoryServer) : Except JavaException DirectoryServer := do
  if s.certificates.length < 2 then return s
  match ← getNewestCertificate s with
  | none => return s
  | some newest =>
    return { s with certificates := ← removeOlder newest s.certificates }

/-- `getCertificates`: the purged server, whose list is the one returned. -/
def getCertificates (now : Int) (s : DirectoryServer) : Except JavaException DirectoryServer :=
  purgeOldCertificates (purgeExpiredCertificates now s)

/-- The first certificate with the given authority fingerprint. -/
def findByAuthority (fingerprint : HexDigest) :
    List KeyCertificate → Except JavaException (Option KeyCertificate)
  | [] => .ok none
  | kc :: rest =>
    match kc.getAuthorityFingerprint with
    | none => .error .nullPointer
    | some fp => if fp = fingerprint then .ok (some kc) else findByAuthority fingerprint rest

def getCertificateByAuthority (now : Int) (fingerprint : HexDigest) (s : DirectoryServer) :
    Except JavaException (Option KeyCertificate × DirectoryServer) := do
  let s ← getCertificates now s
  return (← findByAuthority fingerprint s.certificates, s)

/-- `addCertificate`. The log line in front prints the fingerprints of the certificate and
of its signing key, so a certificate without them raises there. -/
def addCertificate (P : Platform) (certificate : KeyCertificate) (s : DirectoryServer) :
    Except JavaException DirectoryServer :=
  match certificate.getAuthorityFingerprint, certificate.signingKey with
  | some fingerprint, some signingKey => do
    let _ ← signingKey.getFingerprint P
    if some fingerprint ≠ s.v3Ident then
      throw (.illegalArgument
        (lit "This certificate does not appear to belong to this directory authority"))
    return { s with certificates := s.certificates ++ [certificate] }
  | _, _ => throw .nullPointer

variable {P : Platform} {c newest : KeyCertificate} {s s' : DirectoryServer}
  {certificates : List KeyCertificate} {now : Int}

/-- What a successful `addCertificate` has checked: the name, not the key behind it. -/
theorem addCertificate_ok (h : addCertificate P c s = .ok s') :
    c.fingerprint.isSome ∧ c.signingKey.isSome ∧ c.fingerprint = s.v3Ident ∧
      s' = { s with certificates := s.certificates ++ [c] } := by
  unfold addCertificate KeyCertificate.getAuthorityFingerprint at h
  cases hfp : c.fingerprint with
  | none => rw [hfp] at h; cases h
  | some fingerprint =>
    cases hkey : c.signingKey with rw [hfp, hkey] at h
    | none => cases h
    | some signingKey =>
      dsimp only at h
      cases hprint : signingKey.getFingerprint P with rw [hprint] at h
      | error e => cases h
      | ok d =>
        by_cases hident : some fingerprint = s.v3Ident
        · simp only [hident, ne_eq, not_true_eq_false, if_false] at h
          cases h
          exact ⟨rfl, rfl, hident, rfl⟩
        · simp only [ne_eq, hident, not_false_eq_true, if_true] at h
          cases h

/-! ## The purge of old certificates -/

variable {r : Option KeyCertificate} {a : KeyCertificate}

theorem newerCertificate_some {ta tc : Int} (ha : a.keyPublished = some ta)
    (hc : c.keyPublished = some tc) :
    newerCertificate (some a) c = .ok (some (if ta > tc then c else a)) := by
  simp only [newerCertificate, getPublishedMilliseconds, ha, hc]
  exact congrArg Except.ok (apply_ite some ..).symm

/-- The search never moves to a later certificate. -/
theorem newerCertificate_fold (ha : a.keyPublished.isSome)
    (h : ∀ c ∈ certificates, c.keyPublished.isSome) :
    ∃ n tn, certificates.foldlM newerCertificate (some a) = .ok (some n) ∧
      n.keyPublished = some tn ∧ ∀ c ∈ a :: certificates, ∀ tc, c.keyPublished = some tc → tn ≤ tc := by
  obtain ⟨ta, hta⟩ := Option.isSome_iff_exists.mp ha
  induction certificates generalizing a ta with
  | nil =>
    refine ⟨a, ta, rfl, hta, fun c hc tc htc => ?_⟩
    rw [List.mem_singleton.mp hc, hta] at htc
    exact (Option.some.inj htc).le
  | cons c rest ih =>
    obtain ⟨hc, hrest⟩ := List.forall_mem_cons.mp h
    obtain ⟨tc, htc⟩ := Option.isSome_iff_exists.mp hc
    rw [List.foldlM_cons, newerCertificate_some hta htc]
    -- the older of the two is kept
    obtain ⟨m, tm, hstep, htm, hma, hmc⟩ : ∃ m tm, (if ta > tc then c else a) = m ∧
        m.keyPublished = some tm ∧ tm ≤ ta ∧ tm ≤ tc := by
      by_cases hlt : ta > tc
      · exact ⟨c, tc, if_pos hlt, htc, by omega, le_rfl⟩
      · exact ⟨a, ta, if_neg hlt, hta, le_rfl, by omega⟩
    obtain ⟨n, tn, hn, htn, hle⟩ := ih (a := m) (by rw [htm]; rfl) hrest tm htm
    obtain ⟨hm, hlater⟩ := List.forall_mem_cons.mp hle
    have htm' := hm tm htm
    rw [hstep]
    refine ⟨n, tn, hn, htn, List.forall_mem_cons.mpr ⟨fun t ht => ?_,
      List.forall_mem_cons.mpr ⟨fun t ht => ?_, hlater⟩⟩⟩
    · cases hta.symm.trans ht
      omega
    · cases htc.symm.trans ht
      omega

/-- It asks every certificate for its time. -/
theorem published_of_fold (h : certificates.foldlM newerCertificate (some a) = .ok r) :
    ∀ c ∈ certificates, a.keyPublished.isSome ∧ c.keyPublished.isSome := by
  induction certificates generalizing a with
  | nil => exact fun c hc => nomatch hc
  | cons c rest ih =>
    rw [List.foldlM_cons] at h
    cases ha : a.keyPublished with
    | none =>
      simp only [newerCertificate, getPublishedMilliseconds, ha] at h
      cases h
    | some ta =>
      cases hc : c.keyPublished with
      | none =>
        simp only [newerCertificate, getPublishedMilliseconds, ha, hc] at h
        cases h
      | some tc =>
        rw [newerCertificate_some ha hc] at h
        exact List.forall_mem_cons.mpr ⟨⟨rfl, hc ▸ rfl⟩, fun d hd => ⟨rfl, (ih h d hd).2⟩⟩

/-- What was not published before `newest` is not outdated. -/
theorem removeOlder_later {tn : Int} (htn : newest.keyPublished = some tn)
    (h : ∀ c ∈ certificates, ∃ tc, c.keyPublished = some tc ∧ tn ≤ tc) :
    removeOlder newest certificates = .ok certificates := by
  induction certificates with
  | nil => rfl
  | cons c rest ih =>
    obtain ⟨⟨tc, htc, hle⟩, hrest⟩ := List.forall_mem_cons.mp h
    have hkept : isOutdated newest c = .ok false := by
      unfold isOutdated isMoreThan48HoursOlder getPublishedMilliseconds
      rw [htn, htc]
      split
      · exact congrArg Except.ok (decide_eq_false (by omega))
      · rfl
    rw [removeOlder, hkept, ih hrest]
    rfl

theorem purgeOldCertificates_published (h : ∀ c ∈ s.certificates, c.keyPublished.isSome) :
    purgeOldCertificates s = .ok s := by
  unfold purgeOldCertificates
  by_cases hlen : s.certificates.length < 2
  · rw [if_pos hlen]
    rfl
  · cases hcerts : s.certificates with
    | nil => rw [hcerts] at hlen; simp at hlen
    | cons first rest =>
      rw [hcerts] at h
      obtain ⟨hfirst, hrest⟩ := List.forall_mem_cons.mp h
      obtain ⟨newest, tn, hfold, htn, hle⟩ := newerCertificate_fold hfirst hrest
      have hnewest : getNewestCertificate s = .ok (some newest) := by
        rw [getNewestCertificate, hcerts, List.foldlM_cons]
        exact hfold
      have hkept : removeOlder newest (first :: rest) = .ok (first :: rest) := by
        refine removeOlder_later htn fun c hc => ?_
        obtain ⟨tc, htc⟩ := Option.isSome_iff_exists.mp (h c hc)
        exact ⟨tc, htc, hle c hc tc htc⟩
      rw [if_neg (hcerts ▸ hlen), hnewest]
      show (do return { s with certificates := ← removeOlder newest (first :: rest) } :
        Except JavaException DirectoryServer) = _
      rw [hkept, ← hcerts]
      rfl

/-- The purge of old certificates keeps every certificate. -/
theorem purgeOldCertificates_ok (h : purgeOldCertificates s = .ok s') : s' = s := by
  have hrun := h
  unfold purgeOldCertificates at hrun
  by_cases hlen : s.certificates.length < 2
  · rw [if_pos hlen] at hrun
    cases hrun
    rfl
  · rw [if_neg hlen] at hrun
    obtain ⟨r, hsearch, -⟩ := except_bind_eq_ok.mp hrun
    have hpublished : ∀ c ∈ s.certificates, c.keyPublished.isSome := by
      unfold getNewestCertificate at hsearch
      match hcerts : s.certificates with
      | [] | [_] => rw [hcerts] at hlen; simp at hlen
      | first :: second :: rest =>
        rw [hcerts, List.foldlM_cons] at hsearch
        have hall := published_of_fold hsearch
        exact List.forall_mem_cons.mpr ⟨(hall second List.mem_cons_self).1, fun c hc => (hall c hc).2⟩
    exact Except.ok.inj (h.symm.trans (purgeOldCertificates_published hpublished))

/-! ## Looking certificates up -/

/-- The certificates a lookup works on. -/
def unexpired (now : Int) (s : DirectoryServer) : List KeyCertificate :=
  s.certificates.filter fun c => !c.isExpired now

theorem getCertificates_ok (h : getCertificates now s = .ok s') :
    s' = { s with certificates := s.unexpired now } :=
  purgeOldCertificates_ok h

variable {fingerprint : HexDigest}

theorem findByAuthority_some (h : findByAuthority fingerprint certificates = .ok (some c)) :
    c ∈ certificates ∧ c.fingerprint = some fingerprint := by
  induction certificates with
  | nil => cases h
  | cons kc rest ih =>
    unfold findByAuthority KeyCertificate.getAuthorityFingerprint at h
    cases hfp : kc.fingerprint with
    | none => rw [hfp] at h; cases h
    | some fp =>
      simp only [hfp] at h
      by_cases heq : fp = fingerprint
      · rw [if_pos heq] at h
        cases h
        exact ⟨List.mem_cons_self .., by rw [hfp, heq]⟩
      · rw [if_neg heq] at h
        obtain ⟨hmem, hc⟩ := ih h
        exact ⟨List.mem_cons_of_mem _ hmem, hc⟩

theorem getCertificateByAuthority_ok
    (h : getCertificateByAuthority now fingerprint s = .ok (r, s')) :
    s' = { s with certificates := s.unexpired now } ∧
      findByAuthority fingerprint (s.unexpired now) = .ok r := by
  obtain ⟨s₁, hs₁, h⟩ := except_bind_eq_ok.mp h
  obtain ⟨r', hr', h⟩ := except_bind_eq_ok.mp h
  cases h
  have hs := getCertificates_ok hs₁
  subst hs
  exact ⟨rfl, hr'⟩

/-- The server is as it was, or lookups have dropped what is expired. -/
def Purged (now : Int) (s s' : DirectoryServer) : Prop :=
  s' = s ∨ s' = { s with certificates := s.unexpired now }

theorem Purged.v3Ident_eq (h : Purged now s s') : s'.v3Ident = s.v3Ident := by
  rcases h with rfl | rfl <;> rfl

theorem unexpired_unexpired (now : Int) (s : DirectoryServer) :
    ({ s with certificates := s.unexpired now } : DirectoryServer).unexpired now =
      s.unexpired now := by
  unfold unexpired
  rw [List.filter_filter]
  simp only [Bool.and_self]

theorem Purged.unexpired_eq (h : Purged now s s') : s'.unexpired now = s.unexpired now := by
  rcases h with rfl | rfl
  · rfl
  · exact unexpired_unexpired now s

/-- What a lookup finds does not depend on lookups made before. -/
theorem Purged.getCertificates (h : Purged now s s') :
    DirectoryServer.getCertificates now s' = DirectoryServer.getCertificates now s := by
  have hpurge : purgeExpiredCertificates now s' = purgeExpiredCertificates now s := by
    show ({ s' with certificates := s'.unexpired now } : DirectoryServer) =
      { s with certificates := s.unexpired now }
    rw [h.unexpired_eq, h.v3Ident_eq]
  unfold DirectoryServer.getCertificates
  rw [hpurge]

/-! ## Servers stocked by the parser

All certificates a server holds were parsed and added under its own name. For such a server
no lookup raises. -/

/-- The certificates come from parsed documents, by way of `addCertificate` and lookups. -/
inductive Stocked (P : Platform) : DirectoryServer → Prop where
  | empty (v3Ident : Option HexDigest) : Stocked P { v3Ident := v3Ident }
  | add {s s' : DirectoryServer} {c : KeyCertificate} {input : List UInt8} (h : Stocked P s)
      (hc : c ∈ KeyCertificateParser.reported P input) (hadd : addCertificate P c s = .ok s') :
      Stocked P s'
  | look {s s' : DirectoryServer} {now : Int} (h : Stocked P s)
      (hlook : DirectoryServer.getCertificates now s = .ok s') : Stocked P s'

/-- Every certificate held is complete and bears the server's identity. -/
theorem Stocked.held (h : Stocked P s) :
    ∀ c ∈ s.certificates, c.isValidDocument = true ∧ c.fingerprint = s.v3Ident := by
  induction h with
  | empty v3Ident =>
    intro c hc
    cases hc
  | @add s s' c input _ hc hadd ih =>
    obtain ⟨-, -, hname, rfl⟩ := addCertificate_ok hadd
    intro d hd
    rcases List.mem_append.mp hd with hold | hnew
    · exact ih d hold
    · obtain ⟨_, _, _, _, _, hcertified⟩ := KeyCertificateParser.reported_certified P input c hc
      rw [List.mem_singleton.mp hnew]
      exact ⟨hcertified.valid, hname⟩
  | look _ hlook ih =>
    rw [getCertificates_ok hlook]
    intro c hc
    exact ih c (List.mem_of_mem_filter hc)

theorem getCertificates_total (h : ∀ c ∈ s.certificates, c.isValidDocument = true) :
    DirectoryServer.getCertificates now s = .ok { s with certificates := s.unexpired now } := by
  refine purgeOldCertificates_published fun c hc => ?_
  have hvalid := h c (List.mem_of_mem_filter hc)
  simp only [KeyCertificate.isValidDocument, Bool.and_eq_true] at hvalid
  exact hvalid.1.1.2

/-! ## Which certificates are recent

The purge of old certificates is meant to keep what is at most two days older than the newest
certificate. It keeps everything, which comes to the same only if all were published within two
days. -/

/-- The time a complete certificate was published. -/
def published (c : KeyCertificate) : Int := c.keyPublished.getD 0

/-- A most recently published one of the unexpired certificates. -/
def IsNewest (now : Int) (s : DirectoryServer) (n : KeyCertificate) : Prop :=
  n ∈ s.unexpired now ∧ ∀ c ∈ s.unexpired now, published c ≤ published n

/-- `getCertificates` returns what is not expired and not two days older than the newest. -/
def ReturnsRecent (now : Int) (s : DirectoryServer) : Prop :=
  ∃ s', DirectoryServer.getCertificates now s = .ok s' ∧ ∀ c, c ∈ s'.certificates ↔
    c ∈ s.unexpired now ∧ ∀ n, s.IsNewest now n → published n - published c ≤ 48 * 60 * 60 * 1000

theorem exists_newest (hc : c ∈ s.unexpired now) : ∃ n, s.IsNewest now n := by
  obtain ⟨n, hn, hmax⟩ := (s.unexpired now).toFinset.exists_max_image published
    ⟨c, List.mem_toFinset.mpr hc⟩
  exact ⟨n, List.mem_toFinset.mp hn, fun d hd => hmax d (List.mem_toFinset.mpr hd)⟩

/-- **The recent certificates are returned if and only if all are recent.** -/
theorem getCertificates_recent_iff {now : Int} {s : DirectoryServer}
    (h : ∀ c ∈ s.certificates, c.isValidDocument = true) :
    s.ReturnsRecent now ↔ ∀ older ∈ s.unexpired now, ∀ newer ∈ s.unexpired now,
      published newer - published older ≤ 48 * 60 * 60 * 1000 := by
  have hreturned : DirectoryServer.getCertificates now s =
      .ok { s with certificates := s.unexpired now } := getCertificates_total h
  constructor
  · rintro ⟨s', hs', hkept⟩ older holder newer hnewer
    cases hreturned.symm.trans hs'
    -- the older one has been returned, so it is recent, and the newest bounds the newer one
    obtain ⟨n, hn⟩ := exists_newest hnewer
    have hrecent := ((hkept older).mp holder).2 n hn
    have hle := hn.2 newer hnewer
    omega
  · intro hall
    refine ⟨_, hreturned, fun c => ⟨fun hc => ⟨hc, fun n hn => hall c hc n hn.1⟩, And.left⟩⟩

/-- A certificate of the sample authority, published at a given hour. -/
def publishedAt (hour : Int) : KeyCertificate :=
  { fingerprint := some ⟨List.replicate 20 0x11, Or.inl rfl⟩, identityKey := some ⟨lit "id"⟩
    keyPublished := some (hour * 60 * 60 * 1000), keyExpires := some (10 ^ 12)
    signingKey := some ⟨lit "sign"⟩, hasValidSignature := true }

theorem sample_recent_returned :
    ReturnsRecent 0 { certificates := [publishedAt 1, publishedAt 49] } :=
  (getCertificates_recent_iff (by decide)).mpr (by decide)

/-- A certificate 49 hours older than the newest is returned. -/
theorem old_certificate_returned :
    ¬ReturnsRecent 0 { certificates := [publishedAt 0, publishedAt 49] } := by
  rintro ⟨s', hs', hkept⟩
  have hreturned : s'.certificates = [publishedAt 0, publishedAt 49] := by
    rw [getCertificates_ok hs']
    decide
  have hold := ((hkept (publishedAt 0)).mp (by rw [hreturned]; decide)).2 (publishedAt 49)
    (by unfold IsNewest; decide)
  exact absurd hold (by decide)

/-- The certificates held are complete and bear the server's identity. -/
def Held (s : DirectoryServer) : Prop :=
  ∀ c ∈ s.certificates, c.isValidDocument = true ∧ c.fingerprint = s.v3Ident

/-- A lookup by the server's own identity returns the first unexpired certificate. -/
theorem Held.getCertificateByAuthority (h : s.Held) {identity : HexDigest}
    (hident : s.v3Ident = some identity) (now : Int) :
    DirectoryServer.getCertificateByAuthority now identity s =
      .ok ((s.unexpired now).head?, { s with certificates := s.unexpired now }) := by
  have hfind : findByAuthority identity (s.unexpired now) = .ok (s.unexpired now).head? := by
    cases hcerts : s.unexpired now with
    | nil => rfl
    | cons c rest =>
      have hmem : c ∈ s.unexpired now := by
        rw [hcerts]
        exact List.mem_cons_self ..
      have hname := (h c (List.mem_of_mem_filter hmem)).2.trans hident
      simp only [findByAuthority, KeyCertificate.getAuthorityFingerprint, hname, if_true]
      rfl
  unfold DirectoryServer.getCertificateByAuthority
  rw [getCertificates_total fun c hc => (h c hc).1]
  show (do return (← findByAuthority identity (s.unexpired now), _) : Except _ _) = _
  rw [hfind]
  rfl

end DirectoryServer

/-! ## The trusted authorities

`TrustedAuthorities` hands out references to its servers. A reference is a position in the
list here, since a lookup changes the server. -/

namespace TrustedAuthorities

/-- `countV3Servers`, taken once when the list is made; no server changes its identity. -/
def getV3AuthorityServerCount (directoryServers : List DirectoryServer) : Nat :=
  directoryServers.countP fun ds => ds.v3Ident.isSome

/-- The first server with the given v3 identity. -/
def getAuthorityServerByIdentity (identity : HexDigest) (directoryServers : List DirectoryServer) :
    Option Nat :=
  directoryServers.findIdx? fun ds => some identity = ds.v3Ident

end TrustedAuthorities

end Orchid
