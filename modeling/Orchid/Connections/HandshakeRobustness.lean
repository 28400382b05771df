import Orchid.Connections.LinkAuthentication

/-!
# Orchid — how a connection attempt fails

`connect` declares three exceptions. The cells of a peer can make it raise others, and where it
refuses a peer it leaves the socket open: `connect` itself closes nothing, so the socket is closed
only where the link has ended by itself.

* `Robust`: the call returns or still waits, or it raises a declared exception and the socket is
  not open.
* `PeerFails`: the cells over which a handshake fails, refusing them or stumbling over them.
* **`connect_robust_iff`**: the call is robust exactly if no handshake starts on an open socket in
  vain, no cells are stumbled over, and the link had ended wherever cells are refused.
-/

namespace Orchid

open Prog Link ConnectionHandshakeV2

variable {C : Type} (X : X509 C) (P : Platform)

/-- How `connect` may end. -/
def Robust : EStateM.Result JavaException Link Unit → Prop
  | .ok _ _ => True
  | .error e s' => e = .blocked ∨ e.Declared ∧ s'.isOpen = false

/-! ## What is robust -/

variable {e : JavaException} {s s' : Link} {f : Failure} {E : Endpoint C}

theorem Link.Broken.robust (h : Broken e s') : Robust (.error (passedOn e) s') := by
  rcases h with rfl | ⟨hdeclared, hclosed⟩
  · exact Or.inl rfl
  · refine Or.inr ⟨hdeclared, ?_⟩
    simp [isOpen, hclosed]

theorem declared_of_failure (h : e.failure = some f) : (passedOn e).Declared ↔ f = .refused := by
  cases e <;> cases h <;> simp [passedOn, JavaException.Declared]

theorem not_blocked_of_declared (h : e.Declared) : e ≠ .blocked := by
  rintro rfl
  exact h

theorem not_blocked_of_failure (h : e.failure = some f) : passedOn e ≠ .blocked := by
  cases e <;> cases h <;> exact nofun

/-- A failure over the peer's cells is robust if it is a refusal and the link had ended. -/
theorem robust_failure (h : e.failure = some f) (hconnected : s'.isSocketConnected = true) :
    Robust (.error (passedOn e) s') ↔ f = .refused ∧ s'.isClosed = true := by
  show passedOn e = .blocked ∨ (passedOn e).Declared ∧ s'.isOpen = false ↔ _
  unfold isOpen
  rw [declared_of_failure h, hconnected]
  simp [not_blocked_of_failure h]

/-! ## The condition -/

/-- The cells over which the handshake fails, with the number of cells that it has sent by then. -/
def PeerFails (E : Endpoint C) (router : LinkRouter) :
    HandshakeVersion → Nat → List InboundCell → Failure → Prop
  | .v3, n, cells, f => n = 1 ∧ (ConnectionHandshakeV3.ReceiveFails X cells f ∨
      ∃ certificates, ConnectionHandshakeV3.Received X cells certificates ∧
        ConnectionHandshakeV3.VerifyFails X P router certificates E.chainLater f)
  | .v2, n, cells, f => ConnectionHandshakeV2.ExchangeFails n cells f

/-- Whatever cells come: those over which the handshake fails are refused, and the link had ended by
then. -/
def Unharmed (E : Endpoint C) (s : Link) (version : HandshakeVersion) : Prop :=
  ∀ n taken rest f, s.SendsSucceed n → s.takes = told taken ++ rest →
    PeerFails X P E s.router version n (taken.map Prod.fst) f → f = .refused ∧ ended taken = true

/-- The session of version 2 has an identity key that the router admits. -/
def SessionAdmitted (E : Endpoint C) (router : LinkRouter) : Prop :=
  ∃ identity key, ConnectionHandshakeV2.SessionIdentity X E identity ∧
    X.getPublicKey identity = .rsa key ∧ router.Admits (X.getFingerprint P key)

/-- When `connect` is robust. -/
def Survives (E : Endpoint C) (s : Link) : Prop :=
  E.connect ≠ .connected ∨
    HandshakeStarts X E .v3 ∧ Unharmed X P E s .v3 ∨
    HandshakeStarts X E .v2 ∧ (E.renegotiation = .unfinished ∨
      SessionAdmitted X P E s.router ∧ Unharmed X P E s .v2)

/-! ## Version 3 -/

namespace ConnectionHandshakeV3

variable {taken : List (InboundCell × Bool)} {certificates : Certificates C} {rest : List Take}

variable {X P} in
theorem runHandshake_unverified
    (hconnected : s.isSocketConnected = true) (hheard : Heard X s taken rest certificates)
    (h : VerifyFails X P s.router certificates E.chainLater f) :
    ∃ e s', runHandshake X P E s = .error e s' ∧ e.failure = some f ∧
      s'.isSocketConnected = true ∧ s'.isClosed = (s.isClosed || ended taken) := by
  obtain ⟨e, s', hverify, hf, hs'⟩ := verifyCertificates_fails
    (s := (afterVersions s).after taken rest) h
  refine ⟨e, s', ?_, hf, ?_⟩
  · rw [runHandshake_heard P hconnected hheard E, bind_of_error hverify]
  · rcases hs' with ⟨-, rfl⟩ | ⟨identity, key, -, rfl⟩
    · exact ⟨hconnected, rfl⟩
    · exact ⟨hconnected, rfl⟩

variable {X P} in
/-- Behind verified certificates only a write can fail. -/
theorem runHandshake_verified (hconnected : s.isSocketConnected = true)
    (hheard : Heard X s taken rest certificates)
    (h : Verified X P s.router certificates E.chainLater) :
    (∃ s', runHandshake X P E s = .ok () s') ∨
      ∃ e s', runHandshake X P E s = .error e s' ∧ Broken e s' := by
  obtain ⟨identity, key, haccepted, hpassed⟩ := h
  have hverify := verifyCertificates_verified
    (show IdentityAccepted X P ((afterVersions s).after taken rest).router certificates identity key
      from haccepted) hpassed
  obtain ⟨cellBytes, hcell⟩ := ConnectionHandshake.sendNetinfo_eq E.currentTimeMillis
    E.routerAddress
  rw [runHandshake_heard P hconnected hheard E, bind_of_ok hverify, hcell]
  generalize hs : ({ (afterVersions s).after taken rest with router := _ } : Link) = s₁
  have hconnected₁ : s₁.isSocketConnected = true := by
    rw [← hs]
    exact hconnected
  cases hsend : s₁.nextSendError with
  | none => exact Or.inl ⟨_, sendCell_ok hconnected₁ hsend cellBytes⟩
  | some message =>
    exact Or.inr ⟨_, _, sendCell_error hconnected₁ hsend cellBytes, Or.inr ⟨trivial, rfl⟩⟩

end ConnectionHandshakeV3

/-- How `connect` passes on what `doConnect` does. -/
def handed : EStateM.Result JavaException Link Unit → EStateM.Result JavaException Link Unit
  | .ok _ s' => .ok () { s' with isConnected := true }
  | .error e s' => .error (passedOn e) s'

/-- A handshake that completes, fails over the peer's cells or breaks is robust exactly if the cells
over which it fails are refused, and the link had ended by then. -/
theorem robust_iff_of_ends {x : EStateM.Result JavaException Link Unit}
    {Fails : Nat → List InboundCell → Failure → Prop} (hopen : s.isClosed = false)
    (hfails : ∀ {n taken rest f}, s.SendsSucceed n → s.takes = told taken ++ rest →
      Fails n (taken.map Prod.fst) f → ∃ e s', x = .error e s' ∧ e.failure = some f ∧
        s'.isSocketConnected = true ∧ s'.isClosed = (s.isClosed || ended taken))
    (hends : (∃ s', x = .ok () s') ∨
      (∃ n taken rest f, s.SendsSucceed n ∧ s.takes = told taken ++ rest ∧
        Fails n (taken.map Prod.fst) f) ∨ ∃ e s', x = .error e s' ∧ Broken e s') :
    Robust (handed x) ↔
      ∀ n taken rest f, s.SendsSucceed n → s.takes = told taken ++ rest →
        Fails n (taken.map Prod.fst) f → f = .refused ∧ ended taken = true := by
  have hend : ∀ {n taken rest f}, s.SendsSucceed n → s.takes = told taken ++ rest →
      Fails n (taken.map Prod.fst) f →
      (Robust (handed x) ↔ f = .refused ∧ ended taken = true) := by
    intro n taken rest f hsends htakes hcells
    obtain ⟨e, s', hrun, hf, hconnected', hclosed⟩ := hfails hsends htakes hcells
    rw [hrun]
    refine (robust_failure hf hconnected').trans ?_
    rw [hclosed, hopen, Bool.false_or]
  constructor
  · intro hrobust n taken rest f hsends htakes hcells
    exact (hend hsends htakes hcells).mp hrobust
  · intro hunharmed
    rcases hends with ⟨s', hrun⟩ | ⟨n, taken, rest, f, hsends, htakes, hcells⟩ |
      ⟨e, s', hrun, hbroken⟩
    · rw [hrun]
      trivial
    · exact (hend hsends htakes hcells).mpr (hunharmed n taken rest f hsends htakes hcells)
    · rw [hrun]
      exact hbroken.robust

theorem robust_v3 (hconnected : s.isSocketConnected = true) (hopen : s.isClosed = false) :
    Robust (handed (ConnectionHandshakeV3.runHandshake X P E s)) ↔ Unharmed X P E s .v3 := by
  refine robust_iff_of_ends hopen ?_ ?_
  · -- cells that fail are seen through to the end of the call
    rintro n taken rest f hsends htakes ⟨rfl, hreceive | ⟨certificates, hreceived, hverify⟩⟩
    · obtain ⟨e, hf, hrun⟩ := ConnectionHandshakeV3.runHandshake_givesUp P hconnected
        ⟨hsends, htakes, hreceive⟩ E
      exact ⟨e, _, hrun, hf, hconnected, rfl⟩
    · exact ConnectionHandshakeV3.runHandshake_unverified hconnected
        ⟨hsends, htakes, hreceived⟩ hverify
  · rcases ConnectionHandshakeV3.runHandshake_ends X P hconnected E with
      ⟨taken, rest, certificates, hheard⟩ | ⟨taken, rest, f, hgives⟩ | ⟨e, s', hrun, -, hbroken⟩
    · rcases ConnectionHandshakeV3.verifyCertificates_ends X P s.router certificates E.chainLater
        with hverified | ⟨f, hfails⟩
      · rcases ConnectionHandshakeV3.runHandshake_verified hconnected hheard hverified with
          hok | hbroken
        · exact Or.inl hok
        · exact Or.inr (Or.inr hbroken)
      · exact Or.inr (Or.inl ⟨1, taken, rest, f, hheard.1, hheard.2.1,
          rfl, Or.inr ⟨certificates, hheard.2.2, hfails⟩⟩)
    · exact Or.inr (Or.inl ⟨1, taken, rest, f, hgives.sends, hgives.takes,
        rfl, Or.inl hgives.fails⟩)
    · exact Or.inr (Or.inr ⟨e, s', hrun, hbroken⟩)

/-! ## Version 2 -/

theorem robust_exchange (hconnected : s.isSocketConnected = true) (hopen : s.isClosed = false) :
    Robust (handed (exchange E s)) ↔
      ∀ n taken rest f, s.SendsSucceed n → s.takes = told taken ++ rest →
        ExchangeFails n (taken.map Prod.fst) f →
        f = .refused ∧ ended taken = true :=
  robust_iff_of_ends hopen (fun hsends htakes hfails =>
    exchange_fails hconnected hsends htakes hfails E) (exchange_ends hconnected E)

theorem not_robust_of_open (h : (passedOn e).Declared) (hopen : s'.isOpen = true) :
    ¬ Robust (.error (passedOn e) s') := by
  rintro (hblocked | ⟨-, hclosed⟩)
  · exact not_blocked_of_declared h hblocked
  · cases hopen.symm.trans hclosed

theorem robust_v2 (hconnected : s.isSocketConnected = true) (hopen : s.isClosed = false) :
    Robust (handed (runHandshake X P E s)) ↔
      E.renegotiation = .unfinished ∨ SessionAdmitted X P E s.router ∧ Unharmed X P E s .v2 := by
  have hisOpen : s.isOpen = true := by
    unfold isOpen
    rw [hconnected, hopen]
    rfl
  by_cases hsession : ∃ identity, SessionIdentity X E identity
  · obtain ⟨identity, hsession⟩ := hsession
    have hfinished : E.renegotiation ≠ .unfinished := by
      rw [hsession.1]
      exact nofun
    by_cases hadmitted : ∃ key, X.getPublicKey identity = .rsa key ∧
        s.router.Admits (X.getFingerprint P key)
    · obtain ⟨key, hkey, hadmits⟩ := hadmitted
      rw [runHandshake_admitted hsession hkey hadmits]
      refine (robust_exchange (s := { s with router := s.router.learns (X.getFingerprint P key) })
        hconnected hopen).trans ?_
      constructor
      · intro hunharmed
        exact Or.inr ⟨⟨identity, key, hsession, hkey, hadmits⟩, hunharmed⟩
      · rintro (hunfinished | ⟨-, hunharmed⟩)
        · exact absurd hunfinished hfinished
        · exact hunharmed
    · obtain ⟨message, hrun⟩ := runHandshake_refused hsession
        fun key hkey hadmits => hadmitted ⟨key, hkey, hadmits⟩
      rw [hrun]
      constructor
      · intro hrobust
        exact absurd hrobust (not_robust_of_open (e := .connectionHandshake message) trivial hisOpen)
      · rintro (hunfinished | ⟨⟨identity', key, hsession', hkey, hadmits⟩, -⟩)
        · exact absurd hunfinished hfinished
        · obtain ⟨-, _, hchain, -⟩ := hsession
          obtain ⟨-, _, hchain', -⟩ := hsession'
          cases hchain.symm.trans hchain'
          exact absurd ⟨key, hkey, hadmits⟩ hadmitted
  · obtain ⟨e, hrun, he⟩ := runHandshake_noIdentity P s fun identity h => hsession ⟨identity, h⟩
    rw [hrun]
    rcases he with ⟨rfl, hunfinished⟩ | ⟨hdeclared, hfinished⟩
    · exact ⟨fun _ => Or.inl hunfinished, fun _ => Or.inl rfl⟩
    · constructor
      · intro hrobust
        exact absurd hrobust (not_robust_of_open hdeclared hisOpen)
      · rintro (hunfinished | ⟨⟨identity, _, hsession', -⟩, -⟩)
        · exact absurd hunfinished hfinished
        · exact absurd ⟨identity, hsession'⟩ hsession

/-! ## The call -/

/-- **`connect` on a new connection** returns, waits, or raises one of the exceptions that it
declares with the socket closed, exactly under `Survives`. -/
theorem connect_robust_iff (E : Endpoint C) (s : Link) (hsocket : s.isSocketConnected = false)
    (hnew : s.isConnected = false) (hopen : s.isClosed = false) :
    Robust (connect X P E s) ↔ Survives X P E s := by
  have hrun : connect X P E s = handed (doConnect X P E s) := by
    rw [connect_run X P E hnew]
    rfl
  rw [hrun]
  by_cases hstarts : ∃ version, HandshakeStarts X E version
  · obtain ⟨version, hstarts⟩ := hstarts
    rw [doConnect_starts P hstarts]
    cases version with
    | v3 =>
      refine (robust_v3 X P (s := s.opened) rfl hopen).trans ?_
      constructor
      · intro hunharmed
        exact Or.inr (Or.inl ⟨hstarts, hunharmed⟩)
      · rintro (hnot | ⟨-, hunharmed⟩ | ⟨hv2, -⟩)
        · exact absurd hstarts.connected hnot
        · exact hunharmed
        · cases hstarts.version.symm.trans hv2.version
    | v2 =>
      refine (robust_v2 X P (s := s.opened) rfl hopen).trans ?_
      constructor
      · intro hcondition
        exact Or.inr (Or.inr ⟨hstarts, hcondition⟩)
      · rintro (hnot | ⟨hv3, -⟩ | ⟨-, hcondition⟩)
        · exact absurd hstarts.connected hnot
        · cases hstarts.version.symm.trans hv3.version
        · exact hcondition
  · obtain ⟨e, s', hrun', hdeclared, -, -, hclosed, hsocket'⟩ :=
      doConnect_unstarted X P (fun version h => hstarts ⟨version, h⟩) s
    rw [hrun']
    rw [hsocket, Bool.false_or] at hsocket'
    constructor
    · intro hrobust
      refine Or.inl fun hconnected => ?_
      refine not_robust_of_open hdeclared ?_ hrobust
      simp [isOpen, hsocket', hclosed, hopen, hconnected]
    · rintro (hnot | ⟨hv3, -⟩ | ⟨hv2, -⟩)
      · refine Or.inr ⟨hdeclared, ?_⟩
        simp [isOpen, hsocket', hnot]
      · exact absurd ⟨_, hv3⟩ hstarts
      · exact absurd ⟨_, hv2⟩ hstarts

/-- A handshake that completes is robust, so there were no cells to fail over. -/
theorem sample_handshake_survives :
    Survives X509.sample Platform.checksum sampleEndpoint
      (sampleHandshake ⟨false, some sampleFingerprint⟩
        [sampleVersions, sampleBothCerts, sampleNetinfo]) := by
  have hreturned : returned (connect X509.sample Platform.checksum sampleEndpoint
      (sampleHandshake ⟨false, some sampleFingerprint⟩
        [sampleVersions, sampleBothCerts, sampleNetinfo])) = true := by
    decide +kernel
  refine (connect_robust_iff X509.sample Platform.checksum sampleEndpoint _ rfl rfl rfl).mp ?_
  rw [eq_ok_of_returned hreturned]
  trivial

/-- An empty CERTS cell ends `connect` with a `BufferUnderflowException`, one without an identity
certificate with a `NullPointerException`, and where the peer is refused the socket stays open. -/
theorem cells_escape_connect :
    raised (connect X509.sample Platform.checksum sampleEndpoint
        (sampleHandshake ⟨false, some sampleFingerprint⟩ [sampleVersions, sampleCerts []])) =
      some .bufferUnderflow ∧
    raised (connect X509.sample Platform.checksum sampleEndpoint
        (sampleHandshake ⟨false, some sampleFingerprint⟩
          [sampleVersions, sampleCerts [2, 1, 0, 1, 1, 4, 0, 1, 2], sampleNetinfo])) =
      some .nullPointer ∧
    ¬ JavaException.Declared .bufferUnderflow ∧ ¬ JavaException.Declared .nullPointer ∧
    raised (connect X509.sample Platform.checksum sampleIntruder
        (sampleHandshake ⟨false, some sampleFingerprint⟩
          [sampleVersions, sampleBothCerts, sampleNetinfo])) =
      some (.connectionHandshake
        (lit "Link certificate in CERTS cell does not match connection certificate")) ∧
    (final (connect X509.sample Platform.checksum sampleIntruder
        (sampleHandshake ⟨false, some sampleFingerprint⟩
          [sampleVersions, sampleBothCerts, sampleNetinfo]))).isOpen = true := by
  refine ⟨?_, ?_, nofun, nofun, ?_, ?_⟩ <;> decide +kernel

end Orchid
