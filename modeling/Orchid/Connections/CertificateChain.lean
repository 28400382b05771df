import Orchid.Connections.Conversation

/-!
# Orchid — the checks on the certificates

What `verifyCertificates` and `verifyIdentityKey` ask of the certificates, said without them.

* `Verified`: the identity key is the router's, it signs its own certificate and the link
  certificate, and the link key is the one of the TLS session.
* `Stumbles`: the client gets to a certificate that is not there, or to a key that is not an RSA
  key.
* **`verifyCertificates_ends`**: a chain is verified, stumbled over, or refused, and each of these
  descriptions is exact.
-/

namespace Orchid

open Prog

/-! ## Checks without a state -/

/-- The check `y` is passed exactly as `Ok` says and stumbles exactly under `Stumbles`; there is no
third way to fail but a refusal. -/
structure Judges {α : Type} (y : Except JavaException α) (Ok : α → Prop) (Stumbles : Prop) :
    Prop where
  ok : ∀ a, y = .ok a ↔ Ok a
  stumbles : (∃ e, y = .error e ∧ e.failure = some .stumbled) ↔ Stumbles
  fails : ∀ {e}, y = .error e → ∃ f, e.failure = some f

namespace Judges

variable {α β : Type}

theorem pass (a : α) : Judges (.ok a) (fun b => b = a) False where
  ok b := by
    constructor
    · intro h
      cases h
      rfl
    · rintro rfl
      rfl
  stumbles := ⟨fun ⟨_, h, _⟩ => (nomatch h), False.elim⟩
  fails h := by cases h

variable {e : JavaException}

theorem refuse (he : e.failure = some .refused) :
    Judges (.error e : Except JavaException α) (fun _ => False) False where
  ok _ := ⟨fun h => (nomatch h), False.elim⟩
  stumbles := by
    refine ⟨?_, False.elim⟩
    rintro ⟨e', h, he'⟩
    cases h
    cases he.symm.trans he'
  fails h := by
    cases h
    exact ⟨_, he⟩

theorem stumble (he : e.failure = some .stumbled) :
    Judges (.error e : Except JavaException α) (fun _ => False) True where
  ok _ := ⟨fun h => (nomatch h), False.elim⟩
  stumbles := ⟨fun _ => trivial, fun _ => ⟨e, rfl, he⟩⟩
  fails h := by
    cases h
    exact ⟨_, he⟩

variable {y : Except JavaException α}

theorem bind {g : α → Except JavaException β} {Ok₁ : α → Prop}
    {Stumbles₁ : Prop} {Ok₂ : α → β → Prop} {Stumbles₂ : α → Prop} (hy : Judges y Ok₁ Stumbles₁)
    (hg : ∀ a, Judges (g a) (Ok₂ a) (Stumbles₂ a)) :
    Judges (y >>= g) (fun b => ∃ a, Ok₁ a ∧ Ok₂ a b) (Stumbles₁ ∨ ∃ a, Ok₁ a ∧ Stumbles₂ a) where
  ok b := by
    rw [except_bind_eq_ok]
    exact exists_congr fun a => and_congr (hy.ok a) ((hg a).ok b)
  stumbles := by
    constructor
    · rintro ⟨e, h, he⟩
      rcases except_bind_eq_error.mp h with herror | ⟨a, hfirst, hrest⟩
      · exact Or.inl (hy.stumbles.mp ⟨e, herror, he⟩)
      · exact Or.inr ⟨a, (hy.ok a).mp hfirst, (hg a).stumbles.mp ⟨e, hrest, he⟩⟩
    · rintro (h | ⟨a, ha, h⟩)
      · obtain ⟨e, herror, he⟩ := hy.stumbles.mpr h
        exact ⟨e, except_bind_eq_error.mpr (Or.inl herror), he⟩
      · obtain ⟨e, herror, he⟩ := (hg a).stumbles.mpr h
        exact ⟨e, except_bind_eq_error.mpr (Or.inr ⟨a, (hy.ok a).mpr ha, herror⟩), he⟩
  fails h := by
    rcases except_bind_eq_error.mp h with herror | ⟨a, -, hrest⟩
    · exact hy.fails herror
    · exact (hg a).fails hrest

theorem congr {Ok Ok' : α → Prop} {Stumbles Stumbles' : Prop}
    (h : Judges y Ok Stumbles) (hOk : ∀ a, Ok a ↔ Ok' a) (hStumbles : Stumbles ↔ Stumbles') :
    Judges y Ok' Stumbles' where
  ok a := (h.ok a).trans (hOk a)
  stumbles := h.stumbles.trans hStumbles
  fails := h.fails

end Judges

namespace ConnectionHandshakeV3

open Link ConnectionHandshake

variable {C : Type} (X : X509 C) (P : Platform)

/-! ## The certificates -/

/-- The certificate is valid now and its signature is by the key. -/
def SignedBy (certificate : C) (key : RSAPublicKey) : Prop :=
  X.checkValidity certificate = true ∧ X.verify certificate (.rsa key) = .verified

theorem judges_checkCertificate (certificate : Option C) (key : RSAPublicKey) :
    Judges (checkCertificate X certificate (.rsa key))
      (fun c => certificate = some c ∧ SignedBy X c key) (certificate = none) := by
  cases certificate with
  | none => exact (Judges.stumble rfl).congr (by simp) (by simp)
  | some c =>
    unfold checkCertificate
    by_cases hsigned : SignedBy X c key
    · have hpass : (X.checkValidity c && X.verify c (.rsa key) = .verified) = true := by
        simpa [SignedBy] using hsigned
      dsimp only
      rw [if_pos hpass]
      refine (Judges.pass c).congr (fun b => ?_) (by simp)
      constructor
      · rintro rfl
        exact ⟨rfl, hsigned⟩
      · rintro ⟨h, -⟩
        cases h
        rfl
    · have hrefuse : ¬ (X.checkValidity c && X.verify c (.rsa key) = .verified) = true := by
        simpa [SignedBy] using hsigned
      dsimp only
      rw [if_neg hrefuse]
      refine (Judges.refuse rfl).congr (fun b => ⟨False.elim, ?_⟩) (by simp)
      rintro ⟨h, hb⟩
      cases h
      exact hsigned hb

/-- The key of the link certificate and that of the session's certificate have one modulus. -/
def SessionMatches (link : C) (chain : Option (C × List C)) : Prop :=
  ∃ linkKey certificate rest connectionKey, X.getPublicKey link = .rsa linkKey ∧
    chain = some (certificate, rest) ∧ X.getPublicKey certificate = .rsa connectionKey ∧
    connectionKey.modulus = linkKey.modulus

/-- The comparison of the two keys comes upon a key that it cannot use, or none. -/
def SessionStumbles (link : C) (chain : Option (C × List C)) : Prop :=
  X.getPublicKey link = .other ∨ chain = none ∨
    ∃ certificate rest, chain = some (certificate, rest) ∧ X.getPublicKey certificate = .other

theorem judges_checkLinkKey (link : C) (chain : Option (C × List C)) :
    Judges (checkLinkKey X link chain) (fun _ => SessionMatches X link chain)
      (SessionStumbles X link chain) := by
  unfold checkLinkKey SessionMatches SessionStumbles
  cases hlink : X.getPublicKey link with
  | other => exact (Judges.stumble rfl).congr (by simp) (by simp)
  | rsa linkKey =>
    unfold getConnectionPublicKey
    cases chain with
    | none => exact (Judges.stumble (e := .nullPointer) rfl).congr (by simp) (by simp)
    | some chain =>
      obtain ⟨certificate, rest⟩ := chain
      dsimp only
      cases hconnection : X.getPublicKey certificate with
      | other =>
        exact (Judges.stumble (e := .classCast) rfl).congr (by simp [hconnection])
          (by simp [hconnection])
      | rsa connectionKey =>
        show Judges (if connectionKey.modulus ≠ linkKey.modulus then _ else _) _ _
        by_cases hmodulus : connectionKey.modulus = linkKey.modulus
        · rw [if_neg (not_not.mpr hmodulus)]
          exact (Judges.pass ()).congr (by simp [hconnection, hmodulus]) (by simp [hconnection])
        · rw [if_pos hmodulus]
          exact (Judges.refuse rfl).congr (by simp [hconnection, hmodulus]) (by simp [hconnection])

/-! ## The chain -/

/-- What `checkChain` passes. -/
def ChainPassed (certificates : Certificates C) (key : RSAPublicKey)
    (chain : Option (C × List C)) : Prop :=
  bitLength key.modulus = 1024 ∧
    (∃ identity, certificates .identity = some identity ∧ SignedBy X identity key) ∧
    ∃ link, certificates .link = some link ∧ SignedBy X link key ∧ SessionMatches X link chain

/-- What `checkChain` stumbles over. -/
def ChainStumbles (certificates : Certificates C) (key : RSAPublicKey)
    (chain : Option (C × List C)) : Prop :=
  bitLength key.modulus = 1024 ∧
    (certificates .identity = none ∨
      (∃ identity, certificates .identity = some identity ∧ SignedBy X identity key) ∧
        (certificates .link = none ∨
          ∃ link, certificates .link = some link ∧ SignedBy X link key ∧
            SessionStumbles X link chain))

theorem judges_checkChain (certificates : Certificates C) (key : RSAPublicKey)
    (chain : Option (C × List C)) :
    Judges (checkChain X certificates key chain) (fun _ => ChainPassed X certificates key chain)
      (ChainStumbles X certificates key chain) := by
  have hcertificates := (judges_checkCertificate X (certificates .identity) key).bind fun _ =>
    (judges_checkCertificate X (certificates .link) key).bind fun link =>
      judges_checkLinkKey X link chain
  unfold checkChain
  by_cases hlength : bitLength key.modulus = 1024
  · rw [if_neg (not_not.mpr hlength)]
    refine hcertificates.congr (fun _ => ?_) ?_
    · constructor
      · rintro ⟨identity, hidentity, link, ⟨hlink, hsigned⟩, hmatches⟩
        exact ⟨hlength, ⟨identity, hidentity⟩, link, hlink, hsigned, hmatches⟩
      · rintro ⟨-, ⟨identity, hidentity⟩, link, hlink, hsigned, hmatches⟩
        exact ⟨identity, hidentity, link, ⟨hlink, hsigned⟩, hmatches⟩
    · constructor
      · rintro (h | ⟨identity, hidentity, h | ⟨link, ⟨hlink, hsigned⟩, h⟩⟩)
        · exact ⟨hlength, Or.inl h⟩
        · exact ⟨hlength, Or.inr ⟨⟨identity, hidentity⟩, Or.inl h⟩⟩
        · exact ⟨hlength, Or.inr ⟨⟨identity, hidentity⟩, Or.inr ⟨link, hlink, hsigned, h⟩⟩⟩
      · rintro ⟨-, h | ⟨⟨identity, hidentity⟩, h | ⟨link, hlink, hsigned, h⟩⟩⟩
        · exact Or.inl h
        · exact Or.inr ⟨identity, hidentity, Or.inl h⟩
        · exact Or.inr ⟨identity, hidentity, Or.inr ⟨link, ⟨hlink, hsigned⟩, h⟩⟩
  · rw [if_pos hlength]
    refine (Judges.refuse rfl).congr (fun _ => ⟨False.elim, fun h => hlength h.1⟩)
      ⟨False.elim, fun h => hlength h.1⟩

end ConnectionHandshakeV3

/-! ## The identity -/

namespace LinkRouter

/-- The router has this identity, or it is a bridge that has none. -/
def Admits (router : LinkRouter) (fingerprint : HexDigest) : Prop :=
  router.isBridge = true ∧ router.identityHash = none ∨ router.identityHash = some fingerprint

/-- The router after `verifyIdentityKey` has passed. -/
def learns (router : LinkRouter) (fingerprint : HexDigest) : LinkRouter :=
  if router.isBridge = true ∧ router.identityHash = none then
    { router with identityHash := some fingerprint }
  else router

/-- Only a bridge without an identity gets one. -/
theorem learns_identityHash (router : LinkRouter) (fingerprint : HexDigest) :
    (router.learns fingerprint).identityHash = router.identityHash ↔
      ¬ (router.isBridge = true ∧ router.identityHash = none) := by
  unfold learns
  by_cases hfirst : router.isBridge = true ∧ router.identityHash = none
  · rw [if_pos hfirst, hfirst.2]
    simp [hfirst.1]
  · rw [if_neg hfirst]
    simp only [hfirst, not_false_eq_true]

end LinkRouter

namespace ConnectionHandshake

open Link

variable {C : Type} (X : X509 C) (P : Platform) {s : Link} {key : RSAPublicKey}

theorem verifyIdentityKey_admitted (h : s.router.Admits (X.getFingerprint P key)) :
    verifyIdentityKey X P (.rsa key) s =
      .ok () { s with router := s.router.learns (X.getFingerprint P key) } := by
  unfold verifyIdentityKey LinkRouter.learns
  dsimp only
  rw [get_bind_run]
  by_cases hfirst : s.router.isBridge = true ∧ s.router.identityHash = none
  · rw [if_pos hfirst, if_pos hfirst]
    rfl
  · have hsame : ¬ some (X.getFingerprint P key) ≠ s.router.identityHash := by
      rcases h with h | h
      · exact absurd h hfirst
      · exact not_not.mpr h.symm
    rw [if_neg hfirst, if_neg hsame, if_neg hfirst]
    rfl

/-- Any other key is refused, and nothing is learned from it. -/
theorem verifyIdentityKey_refused {publicKey : PublicKey}
    (h : ∀ key, publicKey = .rsa key → ¬ s.router.Admits (X.getFingerprint P key)) :
    ∃ message, verifyIdentityKey X P publicKey s = .error (.connectionHandshake message) s := by
  cases publicKey with
  | other => exact ⟨_, rfl⟩
  | rsa key =>
    have hnot := h key rfl
    have hfirst : ¬ (s.router.isBridge = true ∧ s.router.identityHash = none) :=
      fun hfirst => hnot (Or.inl hfirst)
    have hother : some (X.getFingerprint P key) ≠ s.router.identityHash := fun hsame =>
      hnot (Or.inr hsame.symm)
    unfold verifyIdentityKey
    dsimp only
    rw [get_bind_run, if_neg hfirst, if_pos hother]
    exact ⟨_, rfl⟩

end ConnectionHandshake

namespace ConnectionHandshakeV3

open Link ConnectionHandshake

variable {C : Type} (X : X509 C) (P : Platform)

/-- The peer presents an identity certificate with an RSA key that the router admits. -/
structure IdentityAccepted (router : LinkRouter) (certificates : Certificates C) (identity : C)
    (key : RSAPublicKey) : Prop where
  presented : certificates .identity = some identity
  publicKey : X.getPublicKey identity = .rsa key
  admitted : router.Admits (X.getFingerprint P key)

/-- The certificates authenticate the peer. -/
def Verified (router : LinkRouter) (certificates : Certificates C) (chain : Option (C × List C)) : Prop :=
  ∃ identity key, IdentityAccepted X P router certificates identity key ∧
    ChainPassed X certificates key chain

/-- How they do not. -/
def VerifyFails (router : LinkRouter) (certificates : Certificates C) (chain : Option (C × List C)) :
    Failure → Prop
  | .stumbled => certificates .identity = none ∨ ∃ identity key,
      IdentityAccepted X P router certificates identity key ∧ ChainStumbles X certificates key chain
  | .refused => certificates .identity ≠ none ∧ ∀ identity key,
      IdentityAccepted X P router certificates identity key →
        ¬ ChainPassed X certificates key chain ∧ ¬ ChainStumbles X certificates key chain

variable {X P} in
/-- There is one identity certificate and one key in it. -/
theorem IdentityAccepted.unique {router : LinkRouter} {certificates : Certificates C} {identity identity' : C}
    {key' : RSAPublicKey} (h : IdentityAccepted X P router certificates identity key)
    (h' : IdentityAccepted X P router certificates identity' key') : key' = key := by
  cases h.presented.symm.trans h'.presented
  cases h.publicKey.symm.trans h'.publicKey
  rfl

/-- With an admitted identity the chain decides. -/
theorem verifyCertificates_accepted {certificates : Certificates C} {identity : C}
    (h : IdentityAccepted X P s.router certificates identity key) (chain : Option (C × List C)) :
    verifyCertificates X P certificates chain s =
      fromExcept (checkChain X certificates key chain) { s with router := s.router.learns (X.getFingerprint P key) } := by
  unfold verifyCertificates
  rw [h.presented]
  dsimp only
  rw [h.publicKey, bind_of_ok (verifyIdentityKey_admitted X P h.admitted)]

/-- Without one it is not looked at. -/
theorem verifyCertificates_unaccepted {certificates : Certificates C}
    (h : ∀ identity key, ¬ IdentityAccepted X P s.router certificates identity key)
    (chain : Option (C × List C)) :
    ∃ e, verifyCertificates X P certificates chain s = .error e s ∧
      e.failure = some (if certificates .identity = none then .stumbled else .refused) := by
  unfold verifyCertificates
  cases hidentity : certificates .identity with
  | none => exact ⟨.nullPointer, rfl, rfl⟩
  | some identity =>
    have hrefused : ∀ key, X.getPublicKey identity = .rsa key →
        ¬ s.router.Admits (X.getFingerprint P key) := by
      intro key hkey hadmits
      exact h identity key ⟨hidentity, hkey, hadmits⟩
    obtain ⟨message, hrun⟩ := verifyIdentityKey_refused X P hrefused
    exact ⟨_, bind_of_error hrun, by simp [JavaException.failure]⟩

variable {chain : Option (C × List C)}

variable {X P} in
theorem verifyCertificates_verified {certificates : Certificates C} {identity : C}
    (h : IdentityAccepted X P s.router certificates identity key)
    (hchain : ChainPassed X certificates key chain) :
    verifyCertificates X P certificates chain s = .ok () { s with router := s.router.learns (X.getFingerprint P key) } := by
  rw [verifyCertificates_accepted X P h chain,
    ((judges_checkChain X certificates key chain).ok ()).mpr hchain, fromExcept_ok]

variable {X P} in
/-- The identity is learned from a chain that fails behind it, too. -/
theorem verifyCertificates_fails {certificates : Certificates C}
    {f : Failure} (h : VerifyFails X P s.router certificates chain f) :
    ∃ e s', verifyCertificates X P certificates chain s = .error e s' ∧ e.failure = some f ∧
      ((∀ identity key, ¬ IdentityAccepted X P s.router certificates identity key) ∧ s' = s ∨
        ∃ identity key, IdentityAccepted X P s.router certificates identity key ∧
          s' = { s with router := s.router.learns (X.getFingerprint P key) }) := by
  by_cases hsome : ∃ identity key, IdentityAccepted X P s.router certificates identity key
  · obtain ⟨identity, key, haccepted⟩ := hsome
    have hjudges := judges_checkChain X certificates key chain
    -- the failure is one of the chain
    have herror : ∃ e, checkChain X certificates key chain = .error e ∧ e.failure = some f := by
      cases f with
      | stumbled =>
        rcases h with hnone | ⟨identity', key', haccepted', hstumbles⟩
        · cases haccepted.presented.symm.trans hnone
        · cases haccepted.unique haccepted'
          exact hjudges.stumbles.mpr hstumbles
      | refused =>
        obtain ⟨hpassed, hstumbles⟩ := h.2 identity key haccepted
        cases hcheck : checkChain X certificates key chain with
        | ok u => exact absurd ((hjudges.ok u).mp hcheck) hpassed
        | error e =>
          obtain ⟨f, hf⟩ := hjudges.fails hcheck
          cases f with
          | refused => exact ⟨e, rfl, hf⟩
          | stumbled => exact absurd (hjudges.stumbles.mp ⟨e, hcheck, hf⟩) hstumbles
    obtain ⟨e, hcheck, hf⟩ := herror
    refine ⟨e, _, ?_, hf, Or.inr ⟨identity, key, haccepted, rfl⟩⟩
    rw [verifyCertificates_accepted X P haccepted chain, hcheck, fromExcept_error]
  · have hnone : ∀ identity key, ¬ IdentityAccepted X P s.router certificates identity key :=
      fun identity key haccepted => hsome ⟨identity, key, haccepted⟩
    obtain ⟨e, hrun, hf⟩ := verifyCertificates_unaccepted X P hnone chain
    refine ⟨e, s, hrun, hf.trans (congrArg some ?_), Or.inl ⟨hnone, rfl⟩⟩
    cases f with
    | stumbled =>
      rcases h with h | ⟨identity, key, haccepted, -⟩
      · exact if_pos h
      · exact absurd haccepted (hnone identity key)
    | refused => exact if_neg h.1

/-- One of the descriptions fits. -/
theorem verifyCertificates_ends (router : LinkRouter) (certificates : Certificates C)
    (chain : Option (C × List C)) :
    Verified X P router certificates chain ∨ ∃ f, VerifyFails X P router certificates chain f := by
  by_cases hverified : Verified X P router certificates chain
  · exact Or.inl hverified
  · by_cases hstumbles : VerifyFails X P router certificates chain .stumbled
    · exact Or.inr ⟨.stumbled, hstumbles⟩
    · refine Or.inr ⟨.refused, fun hnone => hstumbles (Or.inl hnone), fun identity key haccepted => ?_⟩
      constructor
      · intro hpassed
        exact hverified ⟨identity, key, haccepted, hpassed⟩
      · intro hchain
        exact hstumbles (Or.inr ⟨identity, key, haccepted, hchain⟩)

end ConnectionHandshakeV3

end Orchid
