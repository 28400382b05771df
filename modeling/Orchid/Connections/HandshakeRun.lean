import Orchid.Connections.CertificateChain

/-!
# Orchid — whole handshakes

The two handshakes as runs over a connected socket: what they send, what they hear, what they check.

* `HandshakeFails`: the ways in which the peer makes a handshake fail, by what was sent and heard up
  to there.
* **`runHandshake_fails`**: where one of them applies, the handshake ends so.
* **`runHandshake_ends`**: a handshake completes, or fails in one of these ways, or the client's own
  end of the link breaks, which closes the socket.
-/

namespace Orchid

open Prog

namespace Link

/-! ## Sending -/

/-- The first `n` writes succeed. -/
def SendsSucceed (s : Link) (n : Nat) : Prop := ∀ message ∈ s.sendErrors.take n, message = none

theorem sendCell_ok {s : Link} (hconnected : s.isSocketConnected = true)
    (h : s.nextSendError = none) (cellBytes : List UInt8) :
    sendCell cellBytes s = .ok () (s.sentNext cellBytes) := by
  unfold sendCell
  rw [hconnected, h]
  rfl

/-- A write that fails closes the socket. -/
theorem sendCell_error {s : Link} {message : JString} (hconnected : s.isSocketConnected = true)
    (h : s.nextSendError = some message) (cellBytes : List UInt8) :
    sendCell cellBytes s = .error (.connectionIOException (some message))
      (closeSocket { s with sendErrors := s.sendErrors.tail }) := by
  unfold sendCell
  rw [hconnected, h]
  rfl

theorem sendsSucceed_succ (s : Link) (n : Nat) (cellBytes : List UInt8) :
    s.SendsSucceed (n + 1) ↔ s.nextSendError = none ∧ (s.sentNext cellBytes).SendsSucceed n := by
  unfold SendsSucceed nextSendError sentNext
  cases s.sendErrors with
  | nil | cons => simp

end Link

namespace ConnectionHandshake

open Link

/-- The NETINFO cell has room for what is put into it. -/
theorem netinfoCell_ok (currentTimeMillis : Nat) (address : IPv4Address) :
    ∃ cell, netinfoCell currentTimeMillis address = .ok cell := ⟨_, rfl⟩

theorem sendNetinfo_eq (currentTimeMillis : Nat) (address : IPv4Address) :
    ∃ cellBytes, sendNetinfo currentTimeMillis address = sendCell cellBytes := by
  obtain ⟨cell, hcell⟩ := netinfoCell_ok currentTimeMillis address
  refine ⟨cell.cellBytes.bytes, ?_⟩
  unfold sendNetinfo
  rw [hcell]
  rfl

end ConnectionHandshake

/-! ## How a handshake ends -/

/-- The exceptions that `connect` declares. -/
def JavaException.Declared : JavaException → Prop
  | .connectionFailed _ => True
  | .connectionTimeout => True
  | .connectionHandshake _ => True
  | _ => False

namespace Link

/-- The end of a handshake that is not the peer's doing: it waits, or the client's own end of the
link has failed and the socket is closed. -/
def Broken (e : JavaException) (s' : Link) : Prop :=
  e = .blocked ∨ (passedOn e).Declared ∧ s'.isClosed = true

variable {e : JavaException}

theorem passedOn_refused (h : e.failure = some .refused) : (passedOn e).Declared := by
  cases e <;> trivial

theorem Breaks.broken {s s' : Link} (h : s.Breaks e s') : Broken e s' := by
  rcases h.cause with hblocked | ⟨hrefused, hclosed⟩
  · exact Or.inl hblocked
  · exact Or.inr ⟨passedOn_refused hrefused, hclosed⟩

end Link

/-! ## Version 3 -/

namespace ConnectionHandshakeV3

open Link ConnectionHandshake

variable {C : Type} (X : X509 C) (P : Platform)

/-- The client has sent its versions and heard the peer to the end. -/
def Heard (s : Link) (taken : List (InboundCell × Bool)) (rest : List Take)
    (certificates : Certificates C) : Prop :=
  s.SendsSucceed 1 ∧ s.takes = told taken ++ rest ∧ Received X (taken.map Prod.fst) certificates

/-- The link then. -/
def afterVersions (s : Link) : Link := s.sentNext (versionsCell [3])

theorem sendVersions_ok {s : Link} (hconnected : s.isSocketConnected = true)
    (h : s.nextSendError = none) : sendVersions [3] s = .ok () (afterVersions s) :=
  sendCell_ok hconnected h _

variable {taken : List (InboundCell × Bool)} {rest : List Take}

variable {X} in
/-- Behind the cells of the peer stand the checks. -/
theorem runHandshake_heard {s : Link}
    {certificates : Certificates C} (hconnected : s.isSocketConnected = true)
    (h : Heard X s taken rest certificates) (E : Endpoint C) :
    runHandshake X P E s = (do
      verifyCertificates X P certificates E.chainLater
      sendNetinfo E.currentTimeMillis E.routerAddress : LinkM Unit)
        ((afterVersions s).after taken rest) := by
  obtain ⟨hsends, htakes, hreceived⟩ := h
  have hsent := sendVersions_ok hconnected ((sendsSucceed_succ s 0 (versionsCell [3])).mp hsends).1
  have hheard : receive X (afterVersions s) = _ := (talks_receive X).ok hreceived htakes
  unfold runHandshake
  rw [bind_of_ok hsent, bind_of_ok hheard]

/-- The client gives up on what it hears. -/
structure GivesUp (s : Link) (taken : List (InboundCell × Bool)) (rest : List Take) (f : Failure) :
    Prop where
  sends : s.SendsSucceed 1
  takes : s.takes = told taken ++ rest
  fails : ReceiveFails X (taken.map Prod.fst) f

variable {X} in
theorem runHandshake_givesUp {s : Link}
    {f : Failure} (hconnected : s.isSocketConnected = true) (h : GivesUp X s taken rest f)
    (E : Endpoint C) :
    ∃ e, e.failure = some f ∧
      runHandshake X P E s = .error e ((afterVersions s).after taken rest) := by
  have hsent := sendVersions_ok hconnected ((sendsSucceed_succ s 0 (versionsCell [3])).mp h.sends).1
  obtain ⟨e, he, hrun⟩ := (talks_receive X).fails h.fails
    (show (afterVersions s).takes = told taken ++ rest from h.takes)
  refine ⟨e, he, ?_⟩
  unfold runHandshake
  rw [bind_of_ok hsent, bind_of_error hrun]

/-- There is no other end of the hearing than these, or the link breaks. -/
theorem runHandshake_ends {s : Link} (hconnected : s.isSocketConnected = true) (E : Endpoint C) :
    (∃ taken rest certificates, Heard X s taken rest certificates) ∨
      (∃ taken rest f, GivesUp X s taken rest f) ∨
      ∃ e s', runHandshake X P E s = .error e s' ∧ s'.router = s.router ∧ Broken e s' := by
  cases hsend : s.nextSendError with
  | some message =>
    refine Or.inr (Or.inr ⟨.connectionIOException (some message),
      closeSocket { s with sendErrors := s.sendErrors.tail }, ?_, rfl, Or.inr ⟨trivial, rfl⟩⟩)
    unfold runHandshake sendVersions
    rw [bind_of_error (sendCell_error hconnected hsend _)]
  | none =>
    have hsends : s.SendsSucceed 1 :=
      (sendsSucceed_succ s 0 (versionsCell [3])).mpr ⟨hsend, by simp [SendsSucceed]⟩
    rcases (talks_receive X).ends (afterVersions s) with ⟨taken, rest, certificates, htakes, h⟩ |
      ⟨taken, rest, f, htakes, h⟩ | ⟨e, s', hrun, hbreaks⟩
    · exact Or.inl ⟨taken, rest, certificates, hsends, htakes, h⟩
    · exact Or.inr (Or.inl ⟨taken, rest, f, hsends, htakes, h⟩)
    · refine Or.inr (Or.inr ⟨e, s', ?_, hbreaks.router, hbreaks.broken⟩)
      unfold runHandshake
      rw [bind_of_ok (sendVersions_ok hconnected hsend), bind_of_error hrun]

end ConnectionHandshakeV3

/-! ## Version 2 -/

namespace ConnectionHandshakeV2

open Link ConnectionHandshake

variable {C : Type} (X : X509 C) (P : Platform)

/-- The second TLS handshake is done, and the session has a chain of two certificates, the first one
signed with the key of the second. -/
def SessionIdentity (E : Endpoint C) (identity : C) : Prop :=
  E.renegotiation = .finished ∧ ∃ certificate, E.chainLater = some (certificate, [identity]) ∧
    X.verify certificate (X.getPublicKey identity) = .verified

variable {X} in
theorem getIdentityKey_ok {E : Endpoint C} {identity : C} (h : SessionIdentity X E identity) :
    getIdentityKey X E = .ok (X.getPublicKey identity) := by
  obtain ⟨hfinished, certificate, hchain, hverify⟩ := h
  unfold getIdentityKey getIdentityCertificateFromSession
  rw [hfinished, hchain]
  dsimp only
  rw [hverify]
  rfl

/-- Without it there is no key. -/
theorem getIdentityKey_error {E : Endpoint C} (h : ∀ identity, ¬ SessionIdentity X E identity) :
    ∃ e, getIdentityKey X E = .error e ∧
      (e = .blocked ∧ E.renegotiation = .unfinished ∨
        (passedOn e).Declared ∧ E.renegotiation ≠ .unfinished) := by
  unfold getIdentityKey
  cases hrenegotiation : E.renegotiation with
  | unfinished => exact ⟨.blocked, rfl, Or.inl ⟨rfl, rfl⟩⟩
  | failed message => exact ⟨.io message, rfl, Or.inr ⟨trivial, nofun⟩⟩
  | interrupted => exact ⟨.interrupted, rfl, Or.inr ⟨trivial, nofun⟩⟩
  | finished =>
    have hrefused : ∃ message, getIdentityCertificateFromSession X E.chainLater =
        .error (.connectionHandshake message) := by
      unfold getIdentityCertificateFromSession
      split
      · exact ⟨_, rfl⟩
      · rename_i certificate identity hchain
        cases hverify : X.verify certificate (X.getPublicKey identity) with
        | verified =>
          exact absurd ⟨hrenegotiation, certificate, hchain, hverify⟩ (h identity)
        | securityException | certificateException => exact ⟨_, rfl⟩
      · exact ⟨_, rfl⟩
    obtain ⟨message, hsession⟩ := hrefused
    rw [hsession]
    exact ⟨.connectionHandshake message, rfl, Or.inr ⟨trivial, nofun⟩⟩

/-- How the exchange of cells fails, with the number of cells that the client has sent by then. -/
inductive ExchangeFails : Nat → List InboundCell → Failure → Prop where
  | noVersions {c : InboundCell} (other : c.command ≠ Cell.VERSIONS) :
    ExchangeFails 1 [c] .refused
  | netinfo {versions c : InboundCell} {f : Failure}
    (isVersions : versions.command = Cell.VERSIONS) (fails : NetInfoCellFails c f) :
    ExchangeFails 2 [versions, c] f

variable {s : Link} {taken : List (InboundCell × Bool)}

/-- The exchange behind the client's versions. -/
theorem exchange_sent (hconnected : s.isSocketConnected = true) (h : s.nextSendError = none)
    (E : Endpoint C) :
    exchange E s = (do
      let _ ← receiveVersions
      sendNetinfo E.currentTimeMillis E.routerAddress
      let _ ← recvNetinfo : LinkM Unit) (s.sentNext (versionsCell [2])) := by
  unfold exchange sendVersions
  rw [bind_of_ok (sendCell_ok hconnected h _)]

/-- The link after the two VERSIONS cells. -/
def greeted (s : Link) (versions : InboundCell) (linkEnded : Bool) (rest : List Take) : Link :=
  (s.sentNext (versionsCell [2])).after [(versions, linkEnded)] rest

theorem exchange_greeted (hconnected : s.isSocketConnected = true) (h : s.nextSendError = none)
    {versions : InboundCell} {linkEnded : Bool}
    (htakes : s.takes = told [(versions, linkEnded)] ++ rest)
    (hversions : versions.command = Cell.VERSIONS) (E : Endpoint C) :
    exchange E s = (do
      sendNetinfo E.currentTimeMillis E.routerAddress
      let _ ← recvNetinfo : LinkM Unit) (greeted s versions linkEnded rest) := by
  have hreceived : receiveVersions (s.sentNext (versionsCell [2])) =
      .ok (readVersions versions.payload) (greeted s versions linkEnded rest) :=
    talks_receiveVersions.ok ⟨versions, rfl, hversions, rfl⟩ htakes
  rw [exchange_sent hconnected h E, bind_of_ok hreceived]

/-- Where the peer's cells fail, the exchange does, and it leaves the socket to others. -/
theorem exchange_fails (hconnected : s.isSocketConnected = true) {n : Nat}
    {f : Failure} (hsends : s.SendsSucceed n)
    (htakes : s.takes = told taken ++ rest) (h : ExchangeFails n (taken.map Prod.fst) f)
    (E : Endpoint C) :
    ∃ e s', exchange E s = .error e s' ∧ e.failure = some f ∧
      s'.isSocketConnected = true ∧ s'.isClosed = (s.isClosed || ended taken) := by
  generalize hcells : taken.map Prod.fst = cells at h
  cases h with
  | @noVersions c hother =>
    have hfirst := ((sendsSucceed_succ s 0 []).mp hsends).1
    obtain ⟨e, he, hrun⟩ := talks_receiveVersions.fails (s := s.sentNext (versionsCell [2]))
      ⟨c, hcells, hother, rfl⟩ htakes
    refine ⟨e, (s.sentNext (versionsCell [2])).after taken rest, ?_, he, hconnected, rfl⟩
    rw [exchange_sent hconnected hfirst E, bind_of_error hrun]
  | @netinfo versions c _ hversions hfail =>
    obtain ⟨⟨versions, e₁⟩, back, rfl, rfl, hback⟩ := List.map_eq_cons_iff.mp hcells
    obtain ⟨⟨c, e₂⟩, rfl, rfl⟩ := List.map_eq_singleton_iff.mp hback
    obtain ⟨hfirst, hrest⟩ := (sendsSucceed_succ s 1 (versionsCell [2])).mp hsends
    have hsecond := ((sendsSucceed_succ _ 0 []).mp hrest).1
    obtain ⟨cellBytes, hcell⟩ := sendNetinfo_eq E.currentTimeMillis E.routerAddress
    -- the second cell is sent, and the answer to it fails
    have hfront : s.takes = told [(versions, e₁)] ++ (told [(c, e₂)] ++ rest) := htakes
    have hsent := sendCell_ok (s := greeted s versions e₁ (told [(c, e₂)] ++ rest)) hconnected
      hsecond cellBytes
    have hanswer : ∃ c', [(c, e₂)].map Prod.fst = [c'] ∧ NetInfoCellFails c' f := ⟨c, rfl, hfail⟩
    obtain ⟨e, he, hrun⟩ := talks_recvNetinfo.fails hanswer
      (s := (greeted s versions e₁ (told [(c, e₂)] ++ rest)).sentNext cellBytes) rfl
    refine ⟨e, ((greeted s versions e₁ (told [(c, e₂)] ++ rest)).sentNext cellBytes).after
      [(c, e₂)] rest, ?_, he, hconnected, ?_⟩
    · rw [exchange_greeted hconnected hfirst hfront hversions E, hcell, bind_of_ok hsent,
        bind_of_error hrun]
    · simp [greeted, after, ended, sentNext, Bool.or_assoc]

/-- The exchange completes, or the peer's cells fail, or the link breaks. -/
theorem exchange_ends (hconnected : s.isSocketConnected = true) (E : Endpoint C) :
    (∃ s', exchange E s = .ok () s') ∨
      (∃ n taken rest f, s.SendsSucceed n ∧ s.takes = told taken ++ rest ∧
        ExchangeFails n (taken.map Prod.fst) f) ∨
      ∃ e s', exchange E s = .error e s' ∧ Broken e s' := by
  cases hsend : s.nextSendError with
  | some message =>
    refine Or.inr (Or.inr ⟨.connectionIOException (some message),
      closeSocket { s with sendErrors := s.sendErrors.tail }, ?_, Or.inr ⟨trivial, rfl⟩⟩)
    unfold exchange sendVersions
    rw [bind_of_error (sendCell_error hconnected hsend _)]
  | none =>
    have hone : s.SendsSucceed 1 :=
      (sendsSucceed_succ s 0 []).mpr ⟨hsend, by simp [SendsSucceed]⟩
    rcases talks_receiveVersions.ends (s.sentNext (versionsCell [2])) with
      ⟨taken, rest, _, htakes, versions, hcells, hversions, -⟩ |
        ⟨taken, rest, f, htakes, c, hcells, hother, rfl⟩ | ⟨e, s', hrun, hbreaks⟩
    · obtain ⟨⟨versions, linkEnded⟩, rfl, rfl⟩ := List.map_eq_singleton_iff.mp hcells
      rw [exchange_greeted hconnected hsend htakes hversions E]
      obtain ⟨cellBytes, hcell⟩ := sendNetinfo_eq E.currentTimeMillis E.routerAddress
      rw [hcell]
      cases hsecond : (greeted s versions linkEnded rest).nextSendError with
      | some message =>
        have hfailed := sendCell_error
          (s := greeted s versions linkEnded rest) hconnected hsecond cellBytes
        exact Or.inr (Or.inr ⟨_, _, bind_of_error hfailed, Or.inr ⟨trivial, rfl⟩⟩)
      | none =>
        have hsent := sendCell_ok
          (s := greeted s versions linkEnded rest) hconnected hsecond cellBytes
        have htwo : s.SendsSucceed 2 :=
          (sendsSucceed_succ s 1 (versionsCell [2])).mpr ⟨hsend,
            (sendsSucceed_succ _ 0 []).mpr ⟨hsecond, by simp [SendsSucceed]⟩⟩
        rw [bind_of_ok hsent]
        rcases talks_recvNetinfo.ends ((greeted s versions linkEnded rest).sentNext cellBytes) with
          ⟨taken, rest', info, htakes', hnetinfo⟩ |
            ⟨taken, rest', f, htakes', c, hcells', hfail⟩ | ⟨e, s', hrun, hbreaks⟩
        · exact Or.inl ⟨_, bind_of_ok (talks_recvNetinfo.ok hnetinfo htakes')⟩
        · refine Or.inr (Or.inl ⟨2, (versions, linkEnded) :: taken, rest', f, htwo, ?_, ?_⟩)
          · exact htakes.trans (congrArg (Take.cell versions linkEnded :: ·) htakes')
          · rw [List.map_cons, hcells']
            exact .netinfo hversions hfail
        · exact Or.inr (Or.inr ⟨e, s', bind_of_error hrun, hbreaks.broken⟩)
    · exact Or.inr (Or.inl ⟨1, taken, rest, .refused, hone, htakes, hcells ▸ .noVersions hother⟩)
    · refine Or.inr (Or.inr ⟨e, s', ?_, hbreaks.broken⟩)
      rw [exchange_sent hconnected hsend E, bind_of_error hrun]

end ConnectionHandshakeV2

end Orchid
