import Orchid.Connections.HandshakeRun

/-!
# Orchid — what a handshake proves and what it leaves behind

* **`link_authenticated`**: a version 3 handshake that completes has seen an identity certificate
  and a link certificate in one CERTS cell, and all checks are about this pair.
* **`failed_link_identity_iff`**: a handshake that fails leaves the router's identity alone, unless
  the router is a bridge without one and the client got as far as an RSA identity key: the key is
  taken before the checks behind it are made.
-/

namespace Orchid

open Prog ConnectionHandshakeV3

/-! ## From `connect` to the handshake -/

namespace Link

variable {C : Type} (X : X509 C) (P : Platform)

/-- The socket is connected, and a handshake of this version starts on it. -/
structure HandshakeStarts (E : Endpoint C) (version : HandshakeVersion) : Prop where
  connected : E.connect = .connected
  version : createHandshake X E = .ok version
  streams : E.streamError = none

/-- The link with its socket connected. -/
def opened (s : Link) : Link := { s with isSocketConnected := true }

variable {E : Endpoint C}

variable {X} in
theorem doConnect_starts {version : HandshakeVersion} (h : HandshakeStarts X E version)
    (s : Link) : doConnect X P E s = runHandshake X P E version s.opened := by
  unfold doConnect connectSocket openStreams
  rw [h.connected, h.version, h.streams]
  rfl

variable {e : JavaException}

theorem createHandshake_error
    (h : createHandshake X E = .error e) : ∃ message, e = .connectionHandshake message := by
  unfold createHandshake at h
  split at h
  · cases h
  · split at h
    · cases h
    · cases h
      exact ⟨_, rfl⟩

/-- Where no handshake starts, `doConnect` has failed, and the socket may be open. -/
theorem doConnect_unstarted (h : ∀ version, ¬ HandshakeStarts X E version) (s : Link) :
    ∃ e s', doConnect X P E s = .error e s' ∧ (passedOn e).Declared ∧ e ≠ .blocked ∧
      s'.router = s.router ∧ s'.isClosed = s.isClosed ∧
      s'.isSocketConnected = (s.isSocketConnected || decide (E.connect = .connected)) := by
  unfold doConnect connectSocket
  cases hconnect : E.connect with
  | timeout => exact ⟨.socketTimeout, s, rfl, trivial, nofun, rfl, rfl, by simp⟩
  | failed message => exact ⟨.io message, s, rfl, trivial, nofun, rfl, rfl, by simp⟩
  | connected =>
    cases hversion : createHandshake X E with
    | error e =>
      obtain ⟨message, rfl⟩ := createHandshake_error X hversion
      exact ⟨.connectionHandshake message, s.opened, rfl, trivial, nofun, rfl, rfl,
        by simp [opened]⟩
    | ok version =>
      cases hstreams : E.streamError with
      | none => exact absurd ⟨hconnect, hversion, hstreams⟩ (h version)
      | some message =>
        unfold openStreams
        rw [hstreams]
        exact ⟨.io message, s.opened, rfl, trivial, nofun, rfl, rfl, by simp [opened]⟩

theorem sendCell_router (cellBytes : List UInt8) :
    Steps (fun s s' : Link => s'.router = s.router) (sendCell cellBytes) := by
  intro s
  unfold sendCell
  split
  · rfl
  · split <;> rfl

/-- Taking cells has no effect on the router. -/
theorem Talks.router {α : Type} {x : LinkM α} {Ok : List InboundCell → α → Prop}
    {Fails : List InboundCell → Failure → Prop} (h : Talks x Ok Fails) :
    Steps (fun s s' : Link => s'.router = s.router) x := by
  intro s
  rcases h.ends s with ⟨taken, rest, a, htakes, hok⟩ | ⟨taken, rest, f, htakes, hfails⟩ |
    ⟨e, s', hrun, hbreaks⟩
  · rw [h.ok hok htakes]
    rfl
  · obtain ⟨e, -, hrun⟩ := h.fails hfails htakes
    rw [hrun]
    rfl
  · rw [hrun]
    exact hbreaks.router

theorem connect_run (E : Endpoint C) {s : Link} (hnew : s.isConnected = false) :
    connect X P E s = match doConnect X P E s with
      | .ok _ s' => .ok () { s' with isConnected := true }
      | .error e s' => .error (passedOn e) s' := by
  unfold connect
  rw [hnew]
  rfl

end Link

/-! ## Authentication -/

namespace ConnectionHandshakeV3

open Link ConnectionHandshake

variable {C : Type} (X : X509 C) (P : Platform)

/-- The CERTS cell with this payload presents the certificate under this type. -/
def Presents (payload : List UInt8) (type : CertificateType) (certificate : C) : Prop :=
  ∃ count item rest entries buffer, payload = count :: (item ++ rest) ∧
    Repeated EntryItem item entries ∧ ⟨type, buffer⟩ ∈ entries ∧
    X.generateCertificate buffer = some certificate

variable {X} in
/-- What the reader keeps was in the cell. -/
theorem CertsPayload.presents {payload : List UInt8} {certificates : Certificates C}
    (h : CertsPayload X payload certificates) {type : CertificateType} {certificate : C}
    (hcertificate : certificates type = some certificate) :
    Presents X payload type certificate := by
  obtain ⟨count, _, entries, rest, rfl, -, -, item, rfl, hentries, hfills⟩ := h
  rcases hfills.presented hcertificate with hnone | ⟨buffer, hmem, hbuffer⟩
  · cases hnone
  · exact ⟨count, item, rest, entries, buffer, rfl, hentries, hmem, hbuffer⟩

/-- The peer has shown who it is: in one CERTS cell it presents an identity certificate that
verifies under its own key and a link certificate that verifies under the identity key and has the
modulus of the TLS session's certificate; and the identity key is the router's, or the router is a
bridge without a configured identity. -/
structure Authenticated (E : Endpoint C) (router : LinkRouter) (payload : List UInt8)
    (identity link : C) (key : RSAPublicKey) : Prop where
  identityPresented : Presents X payload .identity identity
  linkPresented : Presents X payload .link link
  identityKey : X.getPublicKey identity = .rsa key
  selfSigned : X.verify identity (.rsa key) = .verified
  linkSigned : X.verify link (.rsa key) = .verified
  sessionMatches : SessionMatches X link E.chainLater
  router : router.identityHash = some (X.getFingerprint P key) ∨
    router.isBridge = true ∧ router.identityHash = none

variable {X P} in
/-- The checks are about the certificates of the cell. -/
theorem Verified.authenticated {router : LinkRouter} {payload : List UInt8}
    {certificates : Certificates C} (hpayload : CertsPayload X payload certificates)
    (h : Verified X P router certificates E.chainLater) :
    ∃ identity link key, Authenticated X P E router payload identity link key := by
  obtain ⟨identity, key, haccepted, -, ⟨identity', hidentity, -, hself⟩, link, hlink, ⟨-, hsigned⟩,
    hmatches⟩ := h
  cases haccepted.presented.symm.trans hidentity
  exact ⟨identity, link, key, hpayload.presents haccepted.presented, hpayload.presents hlink,
    haccepted.publicKey, hself, hsigned, hmatches, haccepted.admitted.symm⟩

variable {X P} in
/-- A handshake that completes has heard the peer and verified its certificates. -/
theorem runHandshake_ok {s s' : Link} (hconnected : s.isSocketConnected = true)
    (h : runHandshake X P E s = .ok () s') :
    ∃ taken rest certificates, Heard X s taken rest certificates ∧
      Verified X P s.router certificates E.chainLater := by
  rcases runHandshake_ends X P hconnected E with ⟨taken, rest, certificates, hheard⟩ |
    ⟨taken, rest, f, hgives⟩ | ⟨e, s'', hrun, -⟩
  · refine ⟨taken, rest, certificates, hheard, ?_⟩
    rw [runHandshake_heard P hconnected hheard E] at h
    obtain ⟨_, _, hverify, -⟩ := bind_eq_ok.mp h
    rcases verifyCertificates_ends X P s.router certificates E.chainLater with hverified | ⟨f, hfails⟩
    · exact hverified
    · obtain ⟨e, s₂, herror, -⟩ := verifyCertificates_fails
        (s := (afterVersions s).after taken rest) hfails
      cases hverify.symm.trans herror
  · obtain ⟨e, -, hrun⟩ := runHandshake_givesUp P hconnected hgives E
    cases h.symm.trans hrun
  · cases h.symm.trans hrun

end ConnectionHandshakeV3

section Connect

open Link ConnectionHandshakeV3

variable {C : Type} (X : X509 C) (P : Platform)

/-- **A version 3 handshake that completes authenticates the peer.** -/
theorem link_authenticated (E : Endpoint C) (s s' : Link) (hnew : s.isConnected = false)
    (hversion : createHandshake X E = .ok .v3) (h : connect X P E s = .ok () s') :
    ∃ certs linkEnded identity link key, Take.cell certs linkEnded ∈ s.takes ∧
      certs.command = Cell.CERTS ∧
      Authenticated X P E s.router certs.payload identity link key := by
  rw [connect_run X P E hnew] at h
  by_cases hstarts : HandshakeStarts X E .v3
  · rw [doConnect_starts P hstarts] at h
    cases hrun : runHandshake X P E .v3 s.opened with
    | error e s'' =>
      rw [hrun] at h
      cases h
    | ok u s'' =>
      obtain ⟨taken, rest, certificates, ⟨-, htakes, hreceived⟩, hverified⟩ :=
        runHandshake_ok rfl hrun
      obtain ⟨versions, certs, back, _, _, hcells, -, hcerts, hpayload, -⟩ := hreceived
      obtain ⟨identity, link, key, hauthenticated⟩ := hverified.authenticated hpayload
      -- the CERTS cell is one of those that were taken
      have hmem : certs ∈ taken.map Prod.fst := by
        rw [hcells]
        exact List.mem_cons_of_mem _ List.mem_cons_self
      obtain ⟨⟨_, linkEnded⟩, htaken, rfl⟩ := List.mem_map.mp hmem
      refine ⟨_, linkEnded, identity, link, key, ?_, hcerts, hauthenticated⟩
      rw [show s.takes = told taken ++ rest from htakes]
      exact List.mem_append_left _ (List.mem_map_of_mem htaken)
  · have hnone : ∀ version, ¬ HandshakeStarts X E version := by
      intro version hstart
      cases hversion.symm.trans hstart.version
      exact hstarts hstart
    obtain ⟨e, s'', hrun, -⟩ := doConnect_unstarted X P hnone s
    rw [hrun] at h
    cases h

end Connect

/-! ### A handshake to run the model on -/

/-- Certificates as byte strings, with one key for all of them but one. -/
def X509.sample : X509 (List UInt8) where
  generateCertificate buffer := if buffer.isEmpty then none else some buffer
  getPublicKey certificate :=
    .rsa ⟨if certificate = [9] then 2 ^ 1023 + 1 else 2 ^ 1023, 65537⟩
  checkValidity _ := true
  verify _ _ := .verified
  subjectDN _ := []
  issuerDN _ := []
  getPKCS1Encoded _ := []

/-- A network on which everything works. -/
def sampleEndpoint : Endpoint (List UInt8) where
  handshakeV3Enabled := true
  handshakeV2Enabled := true
  routerAddress := ⟨0⟩
  currentTimeMillis := 0
  connect := .connected
  streamError := none
  renegotiation := .finished
  chainAtStart := some ([1], [])
  chainLater := some ([1], [])

def sampleFingerprint : HexDigest :=
  X509.sample.getFingerprint Platform.checksum ⟨2 ^ 1023, 65537⟩

/-- A router and the cells of its peer, none of which finds the link ended. -/
def sampleHandshake (router : LinkRouter) (cells : List InboundCell) : Link :=
  { router := router, takes := cells.map fun c => .cell c false, sendErrors := [] }

def sampleVersions : InboundCell := .var 0 Cell.VERSIONS [0, 3]
def sampleNetinfo : InboundCell := .fixed (Cell.createCell 0 Cell.NETINFO)

/-- A CERTS cell with the entries of its payload. -/
def sampleCerts (payload : List UInt8) : InboundCell := .var 0 Cell.CERTS payload

/-- A CERTS cell with a link and an identity certificate. -/
def sampleBothCerts : InboundCell := sampleCerts [2, 1, 0, 1, 1, 2, 0, 1, 2]

/-- The router is known, and its peer presents both certificates. -/
theorem sample_link_authenticated :
    ∃ certs linkEnded identity link key,
      Take.cell certs linkEnded ∈ (sampleHandshake ⟨false, some sampleFingerprint⟩
        [sampleVersions, sampleBothCerts, sampleNetinfo]).takes ∧
      certs.command = Cell.CERTS ∧
      Authenticated X509.sample Platform.checksum sampleEndpoint
        ⟨false, some sampleFingerprint⟩ certs.payload identity link key := by
  have hreturned : returned (Link.connect X509.sample Platform.checksum sampleEndpoint
      (sampleHandshake ⟨false, some sampleFingerprint⟩
        [sampleVersions, sampleBothCerts, sampleNetinfo])) = true := by
    decide +kernel
  exact link_authenticated X509.sample Platform.checksum sampleEndpoint _ _ rfl rfl
    (eq_ok_of_returned hreturned)

/-! ## The identity behind a failed handshake -/

namespace ConnectionHandshakeV3

open Link ConnectionHandshake

variable {C : Type} (X : X509 C) (P : Platform)

variable {X} in
/-- The cells tell which certificates were heard. -/
theorem Heard.unique {s : Link} {taken taken' : List (InboundCell × Bool)} {rest rest' : List Take}
    {certificates certificates' : Certificates C} (h : Heard X s taken rest certificates)
    (h' : Heard X s taken' rest' certificates') : certificates' = certificates := by
  obtain ⟨-, htakes, hreceived⟩ := h
  obtain ⟨-, htakes', hreceived'⟩ := h'
  have hsame := ((talks_receive X).ok hreceived htakes).symm.trans
    ((talks_receive X).ok hreceived' htakes')
  exact (EStateM.Result.ok.inj hsame).1.symm

variable {X} in
/-- A client that has not heard the peer to the end has failed, and has learned nothing. -/
theorem runHandshake_unheard {s : Link} (hconnected : s.isSocketConnected = true)
    (h : ∀ taken rest certificates, ¬ Heard X s taken rest certificates) :
    ∃ e s', runHandshake X P E s = .error e s' ∧ s'.router = s.router := by
  rcases runHandshake_ends X P hconnected E with ⟨taken, rest, certificates, hheard⟩ |
    ⟨taken, rest, f, hgives⟩ | ⟨e, s', hrun, hrouter, -⟩
  · exact absurd hheard (h taken rest certificates)
  · obtain ⟨e, -, hrun⟩ := runHandshake_givesUp P hconnected hgives E
    exact ⟨e, _, hrun, rfl⟩
  · exact ⟨e, s', hrun, hrouter⟩

variable {X P} in
/-- Behind an admitted identity key the router has this identity, whatever else fails. -/
theorem runHandshake_learns {s s' : Link}
    {taken : List (InboundCell × Bool)} {rest : List Take} {certificates : Certificates C}
    {identity : C} {key : RSAPublicKey} (hconnected : s.isSocketConnected = true)
    (hheard : Heard X s taken rest certificates)
    (haccepted : IdentityAccepted X P s.router certificates identity key)
    (h : runHandshake X P E s = .error e s') :
    s'.router = s.router.learns (X.getFingerprint P key) := by
  rw [runHandshake_heard P hconnected hheard E, bind_run,
    verifyCertificates_accepted X P
      (show IdentityAccepted X P ((afterVersions s).after taken rest).router certificates identity key
        from haccepted)] at h
  cases hcheck : checkChain X certificates key E.chainLater with
  | error e' =>
    rw [hcheck, fromExcept_error] at h
    cases h
    rfl
  | ok u =>
    rw [hcheck, fromExcept_ok] at h
    obtain ⟨cellBytes, hcell⟩ := sendNetinfo_eq E.currentTimeMillis E.routerAddress
    rw [hcell] at h
    have hrouter := sendCell_router cellBytes { (afterVersions s).after taken rest with
      router := s.router.learns (X.getFingerprint P key) }
    exact (congrArg (fun r => (final r).router) h).symm.trans hrouter

end ConnectionHandshakeV3

namespace ConnectionHandshakeV2

open Link ConnectionHandshake

variable {C : Type} (X : X509 C) (P : Platform)

theorem exchange_router (E : Endpoint C) :
    Steps (fun s s' : Link => s'.router = s.router) (exchange E) := by
  have hR := StepOrder.unchanged Link.router
  obtain ⟨cellBytes, hcell⟩ := sendNetinfo_eq E.currentTimeMillis E.routerAddress
  unfold exchange
  rw [hcell]
  refine hR.bind (sendCell_router _) fun _ => ?_
  refine hR.bind talks_receiveVersions.router fun _ => ?_
  refine hR.bind (sendCell_router _) fun _ => ?_
  exact hR.bind talks_recvNetinfo.router fun _ => hR.pure _

variable {X P} in
/-- With the identity of the session the exchange starts, and the router has it by then. -/
theorem runHandshake_admitted {s : Link} {identity : C} {key : RSAPublicKey}
    (hsession : SessionIdentity X E identity) (hkey : X.getPublicKey identity = .rsa key)
    (hadmits : s.router.Admits (X.getFingerprint P key)) :
    runHandshake X P E s =
      exchange E { s with router := s.router.learns (X.getFingerprint P key) } := by
  unfold runHandshake
  rw [getIdentityKey_ok hsession, hkey, bind_of_ok (fromExcept_ok _ s),
    bind_of_ok (verifyIdentityKey_admitted X P hadmits)]

variable {X P} in
theorem runHandshake_refused {s : Link} {identity : C} (hsession : SessionIdentity X E identity)
    (hrefused : ∀ key, X.getPublicKey identity = .rsa key →
      ¬ s.router.Admits (X.getFingerprint P key)) :
    ∃ message, runHandshake X P E s = .error (.connectionHandshake message) s := by
  obtain ⟨message, hrun⟩ := verifyIdentityKey_refused X P hrefused
  refine ⟨message, ?_⟩
  unfold runHandshake
  rw [getIdentityKey_ok hsession, bind_of_ok (fromExcept_ok _ s), bind_of_error hrun]

variable {X} in
theorem runHandshake_noIdentity (s : Link) (h : ∀ identity, ¬ SessionIdentity X E identity) :
    ∃ e, runHandshake X P E s = .error e s ∧
      (e = .blocked ∧ E.renegotiation = .unfinished ∨
        (passedOn e).Declared ∧ E.renegotiation ≠ .unfinished) := by
  obtain ⟨e, hkey, he⟩ := getIdentityKey_error X h
  refine ⟨e, ?_, he⟩
  unfold runHandshake
  rw [hkey, bind_of_error (fromExcept_error e s)]

end ConnectionHandshakeV2

section Connect

open Link

variable {C : Type} (X : X509 C) (P : Platform)

/-- The client gets as far as an RSA identity key: in version 3 the peer's cells are heard to the
end and present it, in version 2 the chain of the session does. -/
def KeyReached (E : Endpoint C) (s : Link) : Prop :=
  (HandshakeStarts X E .v3 ∧ ∃ taken rest certificates identity key,
      ConnectionHandshakeV3.Heard X s taken rest certificates ∧
      certificates .identity = some identity ∧ X.getPublicKey identity = .rsa key) ∨
    HandshakeStarts X E .v2 ∧ ∃ identity key,
      ConnectionHandshakeV2.SessionIdentity X E identity ∧ X.getPublicKey identity = .rsa key

/-- A key was reached and the router has learned from it as `verifyIdentityKey` says, or the router
is as before and there was nothing to learn. -/
def Learned (E : Endpoint C) (s s' : Link) : Prop :=
  (KeyReached X E s ∧ ∃ fingerprint, s'.router = s.router.learns fingerprint) ∨
    s'.router = s.router ∧
      ¬ (s.router.isBridge = true ∧ s.router.identityHash = none ∧ KeyReached X E s)

variable {X} in
theorem Learned.identityHash {s s' : Link} (h : Learned X E s s') :
    s'.router.identityHash = s.router.identityHash ↔
      ¬ (s.router.isBridge = true ∧ s.router.identityHash = none ∧ KeyReached X E s) := by
  rcases h with ⟨hkey, fingerprint, hlearns⟩ | ⟨hsame, hnothing⟩
  · rw [hlearns, LinkRouter.learns_identityHash]
    constructor
    · rintro h ⟨hbridge, hnone, -⟩
      exact h ⟨hbridge, hnone⟩
    · rintro h ⟨hbridge, hnone⟩
      exact h ⟨hbridge, hnone, hkey⟩
  · rw [hsame]
    exact ⟨fun _ => hnothing, fun _ => rfl⟩

theorem keyReached_v3 {s : Link} (hstarts : HandshakeStarts X E .v3) :
    KeyReached X E s ↔ ∃ taken rest certificates identity key,
      Heard X s taken rest certificates ∧
      certificates .identity = some identity ∧ X.getPublicKey identity = .rsa key := by
  constructor
  · rintro (⟨-, h⟩ | ⟨hv2, -⟩)
    · exact h
    · cases hstarts.version.symm.trans hv2.version
  · intro h
    exact Or.inl ⟨hstarts, h⟩

theorem keyReached_v2 {s : Link} (hstarts : HandshakeStarts X E .v2) :
    KeyReached X E s ↔ ∃ identity key, ConnectionHandshakeV2.SessionIdentity X E identity ∧
      X.getPublicKey identity = .rsa key := by
  constructor
  · rintro (⟨hv3, -⟩ | ⟨-, h⟩)
    · cases hstarts.version.symm.trans hv3.version
    · exact h
  · intro h
    exact Or.inr ⟨hstarts, h⟩

variable {e : JavaException}

theorem learned_v3 {s s' : Link} (hstarts : HandshakeStarts X E .v3)
    (hrun : runHandshake X P E s.opened = .error e s') :
    Learned X E s s' := by
  by_cases hheard : ∃ taken rest certificates, Heard X s.opened taken rest certificates
  · obtain ⟨taken, rest, certificates, hheard⟩ := hheard
    by_cases haccepted : ∃ identity key, IdentityAccepted X P s.router certificates identity key
    · obtain ⟨identity, key, haccepted⟩ := haccepted
      refine Or.inl ⟨(keyReached_v3 X hstarts).mpr ⟨taken, rest, certificates, identity, key, hheard,
        haccepted.presented, haccepted.publicKey⟩, X.getFingerprint P key, ?_⟩
      exact runHandshake_learns (s := s.opened) rfl hheard haccepted hrun
    · -- the identity certificate is not there or its key is not admitted
      have hnone : ∀ identity key, ¬ IdentityAccepted X P s.router
          certificates identity key := fun identity key h => haccepted ⟨identity, key, h⟩
      obtain ⟨e', hverify, -⟩ := verifyCertificates_unaccepted X P
        (s := (afterVersions s.opened).after taken rest) hnone E.chainLater
      rw [runHandshake_heard P rfl hheard E, bind_of_error hverify] at hrun
      cases hrun
      refine Or.inr ⟨rfl, ?_⟩
      rintro ⟨hbridge, hunknown, hkey⟩
      obtain ⟨taken', rest', certificates', identity, key, hheard', hidentity, hpublic⟩ :=
        (keyReached_v3 X hstarts).mp hkey
      cases hheard.unique hheard'
      exact hnone identity key ⟨hidentity, hpublic, Or.inl ⟨hbridge, hunknown⟩⟩
  · have hunheard : ∀ taken rest certificates, ¬ Heard X s.opened taken rest certificates :=
      fun taken rest certificates h => hheard ⟨taken, rest, certificates, h⟩
    obtain ⟨e', s'', hrun', hrouter⟩ :=
      runHandshake_unheard P (E := E) rfl hunheard
    cases hrun.symm.trans hrun'
    refine Or.inr ⟨hrouter, ?_⟩
    rintro ⟨-, -, hkey⟩
    obtain ⟨taken, rest, certificates, _, _, hheard', -⟩ := (keyReached_v3 X hstarts).mp hkey
    exact hunheard taken rest certificates hheard'

theorem learned_v2 {s s' : Link} (hstarts : HandshakeStarts X E .v2)
    (hrun : ConnectionHandshakeV2.runHandshake X P E s.opened = .error e s') :
    Learned X E s s' := by
  by_cases hsession : ∃ identity, ConnectionHandshakeV2.SessionIdentity X E identity
  · obtain ⟨identity, hsession⟩ := hsession
    by_cases hadmitted : ∃ key, X.getPublicKey identity = .rsa key ∧
        s.router.Admits (X.getFingerprint P key)
    · obtain ⟨key, hpublic, hadmits⟩ := hadmitted
      rw [ConnectionHandshakeV2.runHandshake_admitted hsession hpublic
        (show s.opened.router.Admits _ from hadmits)] at hrun
      have hrouter := ConnectionHandshakeV2.exchange_router E { s.opened with
        router := s.router.learns (X.getFingerprint P key) }
      refine Or.inl ⟨(keyReached_v2 X hstarts).mpr ⟨identity, key, hsession, hpublic⟩,
        X.getFingerprint P key, ?_⟩
      exact (congrArg (fun r => (final r).router) hrun).symm.trans hrouter
    · obtain ⟨message, hrun'⟩ := ConnectionHandshakeV2.runHandshake_refused (s := s.opened) hsession
        fun key hpublic hadmits => hadmitted ⟨key, hpublic, hadmits⟩
      cases hrun.symm.trans hrun'
      refine Or.inr ⟨rfl, ?_⟩
      rintro ⟨hbridge, hunknown, hkey⟩
      obtain ⟨identity', key, hsession', hpublic⟩ := (keyReached_v2 X hstarts).mp hkey
      obtain ⟨-, certificate, hchain, -⟩ := hsession
      obtain ⟨-, certificate', hchain', -⟩ := hsession'
      cases hchain.symm.trans hchain'
      exact hadmitted ⟨key, hpublic, Or.inl ⟨hbridge, hunknown⟩⟩
  · have hnone : ∀ identity, ¬ ConnectionHandshakeV2.SessionIdentity X E identity :=
      fun identity h => hsession ⟨identity, h⟩
    obtain ⟨e', hrun', -⟩ := ConnectionHandshakeV2.runHandshake_noIdentity P s.opened hnone
    cases hrun.symm.trans hrun'
    refine Or.inr ⟨rfl, ?_⟩
    rintro ⟨-, -, hkey⟩
    obtain ⟨identity, _, hsession', -⟩ := (keyReached_v2 X hstarts).mp hkey
    exact hnone identity hsession'

theorem learned_unstarted {s s' : Link}
    (hstarts : ∀ version, ¬ HandshakeStarts X E version) (hrun : doConnect X P E s = .error e s') :
    Learned X E s s' := by
  obtain ⟨e', s'', hrun', -, -, hrouter, -⟩ := doConnect_unstarted X P hstarts s
  cases hrun.symm.trans hrun'
  refine Or.inr ⟨hrouter, ?_⟩
  rintro ⟨-, -, ⟨hv3, -⟩ | ⟨hv2, -⟩⟩
  · exact hstarts _ hv3
  · exact hstarts _ hv2

/-- A failure of `connect` is one of `doConnect`. -/
theorem doConnect_of_connect {s s' : Link} (h : connect X P E s = .error e s') :
    ∃ e', doConnect X P E s = .error e' s' := by
  unfold connect at h
  split at h
  · cases h
  · cases hrun : doConnect X P E s with rw [hrun] at h
    | ok u s'' =>
      cases h
    | error e' s'' =>
      cases h
      exact ⟨e', rfl⟩

/-- **A connection attempt that does not succeed** leaves the identity of the router as it was,
exactly unless the router is a bridge without one and an identity key was reached. -/
theorem failed_link_identity_iff (E : Endpoint C) (s s' : Link) (e : JavaException)
    (h : connect X P E s = .error e s') :
    s'.router.identityHash = s.router.identityHash ↔
      ¬ (s.router.isBridge = true ∧ s.router.identityHash = none ∧ KeyReached X E s) := by
  obtain ⟨e', hrun⟩ := doConnect_of_connect X P h
  apply Learned.identityHash
  by_cases hstarts : ∃ version, HandshakeStarts X E version
  · obtain ⟨version, hstarts⟩ := hstarts
    rw [doConnect_starts P hstarts] at hrun
    cases version with
    | v3 => exact learned_v3 X P hstarts hrun
    | v2 => exact learned_v2 X P hstarts hrun
  · exact learned_unstarted X P (fun version h => hstarts ⟨version, h⟩) hrun

end Connect

/-- The link certificate is not the one of the TLS session, as with somebody in between. -/
def sampleIntruder : Endpoint (List UInt8) := { sampleEndpoint with chainLater := some ([9], []) }

/-- The identity of a known router stays. -/
theorem known_router_keeps_identity :
    (final (Link.connect X509.sample Platform.checksum sampleIntruder
      (sampleHandshake ⟨false, some sampleFingerprint⟩
        [sampleVersions, sampleBothCerts, sampleNetinfo]))).router.identityHash =
      some sampleFingerprint := by
  have hraised : raised (Link.connect X509.sample Platform.checksum sampleIntruder
      (sampleHandshake ⟨false, some sampleFingerprint⟩
        [sampleVersions, sampleBothCerts, sampleNetinfo])) = some (.connectionHandshake
          (lit "Link certificate in CERTS cell does not match connection certificate")) := by
    decide +kernel
  obtain ⟨s', hrun⟩ := raised_eq_some.mp hraised
  have hkeeps := failed_link_identity_iff X509.sample Platform.checksum sampleIntruder _ s' _ hrun
  rw [hrun]
  refine hkeeps.mpr ?_
  rintro ⟨hbridge, -⟩
  cases hbridge

/-- A bridge without an identity takes the one of a peer that it then refuses. -/
theorem refused_peer_fixes_identity :
    raised (Link.connect X509.sample Platform.checksum sampleIntruder
        (sampleHandshake ⟨true, none⟩ [sampleVersions, sampleBothCerts, sampleNetinfo])) =
      some (.connectionHandshake
        (lit "Link certificate in CERTS cell does not match connection certificate")) ∧
    (final (Link.connect X509.sample Platform.checksum sampleIntruder
        (sampleHandshake ⟨true, none⟩
          [sampleVersions, sampleBothCerts, sampleNetinfo]))).router.identityHash =
      some sampleFingerprint := by
  constructor <;> decide +kernel

end Orchid
