import Orchid.Connections.HandshakeFormats

/-!
# Orchid — what the handshake hears

The parts of the handshakes that take cells from the peer, described by the cells alone.

`Talks x Ok Fails` says of such a part: where the cells are in `Ok`, it takes exactly these and
returns; where they are in `Fails`, it takes exactly these and raises an exception of that kind; and
if no cells of either sort come, then it still waits, or an interrupt has ended it and closed the
socket. The rules follow the syntax of the program.

* `Failure`: a refusal by the client, which is a `ConnectionHandshakeException`, or a
  `RuntimeException` that it stumbles over.
* **`talks_receive`**: version 3, by `Received` and `ReceiveFails`.
* **`talks_recvNetinfo`**, **`talks_receiveVersions`**: the two parts of version 2.
-/

namespace Orchid

open Prog

/-! ## Kinds of failure -/

/-- How the client fails over the cells of the peer. -/
inductive Failure where
  | refused
  | stumbled
  deriving DecidableEq

def JavaException.failure : JavaException → Option Failure
  | .connectionHandshake _ => some .refused
  | .nullPointer => some .stumbled
  | .classCast => some .stumbled
  | .bufferUnderflow => some .stumbled
  | _ => none

namespace Link

/-! ## Taking cells -/

/-- The cells, as the queue gives them. -/
def told (taken : List (InboundCell × Bool)) : List Take := taken.map fun t => .cell t.1 t.2

/-- Whether the link had ended when one of them was taken. -/
def ended (taken : List (InboundCell × Bool)) : Bool := taken.any Prod.snd

/-- The link after these cells. -/
def after (s : Link) (taken : List (InboundCell × Bool)) (rest : List Take) : Link :=
  { s with
    takes := rest
    isClosed := s.isClosed || ended taken
    isConnected := s.isConnected && !ended taken }

theorem after_nil (s : Link) : s.after [] s.takes = s := by
  simp [after, ended]

theorem after_after (s : Link) (front back : List (InboundCell × Bool)) (mid rest : List Take) :
    (s.after front mid).after back rest = s.after (front ++ back) rest := by
  simp [after, ended, Bool.or_assoc, Bool.and_assoc]

/-- The call ends for another reason than the cells: it waits, or an interrupt has closed the
socket. -/
structure Breaks (s : Link) (e : JavaException) (s' : Link) : Prop where
  router : s'.router = s.router
  cause : e = .blocked ∨ e.failure = some .refused ∧ s'.isClosed = true

/-- The program is described by the cells that it takes. -/
structure Talks {α : Type} (x : LinkM α) (Ok : List InboundCell → α → Prop)
    (Fails : List InboundCell → Failure → Prop) : Prop where
  ok : ∀ {s taken rest a}, Ok (taken.map Prod.fst) a → s.takes = told taken ++ rest →
    x s = .ok a (s.after taken rest)
  fails : ∀ {s taken rest f}, Fails (taken.map Prod.fst) f → s.takes = told taken ++ rest →
    ∃ e, e.failure = some f ∧ x s = .error e (s.after taken rest)
  ends : ∀ s,
    (∃ taken rest a, s.takes = told taken ++ rest ∧ Ok (taken.map Prod.fst) a) ∨
      (∃ taken rest f, s.takes = told taken ++ rest ∧ Fails (taken.map Prod.fst) f) ∨
      ∃ e s', x s = .error e s' ∧ s.Breaks e s'

namespace Talks

variable {α β : Type}

theorem pure (a : α) :
    Talks (Pure.pure a) (fun cells b => cells = [] ∧ b = a) fun _ _ => False where
  ok {s taken rest _} h htakes := by
    obtain ⟨hcells, rfl⟩ := h
    cases List.map_eq_nil_iff.mp hcells
    cases (show s.takes = rest from htakes)
    exact congrArg _ (after_nil s).symm
  fails h := h.elim
  ends s := Or.inl ⟨[], s.takes, a, rfl, rfl, rfl⟩

variable {x : LinkM α}

/-- A second part goes on with the cells behind those of the first. -/
theorem bind {g : α → LinkM β} {Ok₁ : List InboundCell → α → Prop}
    {Fails₁ : List InboundCell → Failure → Prop} {Ok₂ : α → List InboundCell → β → Prop}
    {Fails₂ : α → List InboundCell → Failure → Prop} (hx : Talks x Ok₁ Fails₁)
    (hg : ∀ a, Talks (g a) (Ok₂ a) (Fails₂ a)) :
    Talks (x >>= g)
      (fun cells b => ∃ front a back, cells = front ++ back ∧ Ok₁ front a ∧ Ok₂ a back b)
      (fun cells f => Fails₁ cells f ∨
        ∃ front a back, cells = front ++ back ∧ Ok₁ front a ∧ Fails₂ a back f) where
  ok {s taken rest b} h htakes := by
    obtain ⟨front, a, back, hsplit, hfront, hback⟩ := h
    obtain ⟨taken₁, taken₂, rfl, rfl, rfl⟩ := List.map_eq_append_iff.mp hsplit
    rw [told, List.map_append, List.append_assoc] at htakes
    rw [bind_of_ok (hx.ok hfront htakes), (hg a).ok hback rfl, after_after]
  fails {s taken rest f} h htakes := by
    rcases h with hfirst | ⟨front, a, back, hsplit, hfront, hback⟩
    · obtain ⟨e, he, hrun⟩ := hx.fails hfirst htakes
      exact ⟨e, he, bind_of_error hrun⟩
    · obtain ⟨taken₁, taken₂, rfl, rfl, rfl⟩ := List.map_eq_append_iff.mp hsplit
      rw [told, List.map_append, List.append_assoc] at htakes
      obtain ⟨e, he, hrun⟩ := (hg a).fails hback
        (show (s.after taken₁ (told taken₂ ++ rest)).takes = told taken₂ ++ rest from rfl)
      refine ⟨e, he, ?_⟩
      rw [bind_of_ok (hx.ok hfront htakes)]
      exact hrun.trans (by rw [after_after])
  ends s := by
    rcases hx.ends s with ⟨taken, mid, a, htakes, hfront⟩ | ⟨taken, rest, f, htakes, hfirst⟩ |
      ⟨e, s', hrun, hbreaks⟩
    · -- the first part is through; the second one runs behind it
      have hfirst := hx.ok hfront htakes
      rcases (hg a).ends (s.after taken mid) with ⟨taken', rest, b, htakes', hback⟩ |
        ⟨taken', rest, f, htakes', hback⟩ | ⟨e, s', hrun, hbreaks⟩
      · refine Or.inl ⟨taken ++ taken', rest, b, ?_, _, a, _, List.map_append, hfront, hback⟩
        rw [htakes, told, told, List.map_append, List.append_assoc]
        exact congrArg _ htakes'
      · refine Or.inr (Or.inl ⟨taken ++ taken', rest, f, ?_,
          Or.inr ⟨_, a, _, List.map_append, hfront, hback⟩⟩)
        rw [htakes, told, told, List.map_append, List.append_assoc]
        exact congrArg _ htakes'
      · refine Or.inr (Or.inr ⟨e, s', ?_, ⟨hbreaks.router, hbreaks.cause⟩⟩)
        rw [bind_of_ok hfirst, hrun]
    · exact Or.inr (Or.inl ⟨taken, rest, f, htakes, Or.inl hfirst⟩)
    · exact Or.inr (Or.inr ⟨e, s', bind_of_error hrun, hbreaks⟩)

/-- The same program under equivalent descriptions. -/
theorem congr {Ok Ok' : List InboundCell → α → Prop}
    {Fails Fails' : List InboundCell → Failure → Prop} (h : Talks x Ok Fails)
    (hOk : ∀ cells a, Ok cells a ↔ Ok' cells a)
    (hFails : ∀ cells f, Fails cells f ↔ Fails' cells f) : Talks x Ok' Fails' := by
  obtain rfl : Ok = Ok' := funext₂ fun cells a => propext (hOk cells a)
  obtain rfl : Fails = Fails' := funext₂ fun cells f => propext (hFails cells f)
  exact h

theorem ite {p : Prop} [Decidable p] {y : LinkM α} {Ok Ok' : List InboundCell → α → Prop}
    {Fails Fails' : List InboundCell → Failure → Prop} (hx : Talks x Ok Fails)
    (hy : Talks y Ok' Fails') :
    Talks (if p then x else y) (fun cells a => p ∧ Ok cells a ∨ ¬ p ∧ Ok' cells a)
      fun cells f => p ∧ Fails cells f ∨ ¬ p ∧ Fails' cells f := by
  by_cases hp : p
  · rw [if_pos hp]
    exact hx.congr (by simp [hp]) (by simp [hp])
  · rw [if_neg hp]
    exact hy.congr (by simp [hp]) (by simp [hp])

end Talks

end Link

namespace ConnectionHandshake

open Link

/-! ## A cell -/

/-- The state after one cell. -/
theorem readConnectionControlCell_cell {s : Link} {c : InboundCell} {linkEnded : Bool}
    {rest : List Take} (h : s.takes = .cell c linkEnded :: rest) :
    readConnectionControlCell s = .ok c (s.after [(c, linkEnded)] rest) := by
  unfold readConnectionControlCell
  rw [get_bind_run, h]
  cases linkEnded with
  | true =>
    show EStateM.Result.ok c _ = _
    simp [after, ended, closeSocket]
  | false =>
    show EStateM.Result.ok c _ = _
    simp [after, ended]

theorem talks_expectCell (expectedTypes : List Nat) :
    Talks (expectCell expectedTypes) (fun cells c => cells = [c] ∧ c.command ∈ expectedTypes)
      fun cells f => ∃ c, cells = [c] ∧ c.command ∉ expectedTypes ∧ f = .refused where
  ok {s taken rest c} h htakes := by
    obtain ⟨hcells, hcommand⟩ := h
    obtain ⟨⟨_, linkEnded⟩, rfl, rfl⟩ := List.map_eq_singleton_iff.mp hcells
    unfold expectCell
    rw [readConnectionControlCell_cell htakes]
    exact if_pos hcommand
  fails {s taken rest f} h htakes := by
    obtain ⟨c, hcells, hcommand, rfl⟩ := h
    obtain ⟨⟨_, linkEnded⟩, rfl, rfl⟩ := List.map_eq_singleton_iff.mp hcells
    unfold expectCell
    rw [readConnectionControlCell_cell htakes]
    exact ⟨_, rfl, if_neg hcommand⟩
  ends s := by
    cases htakes : s.takes with
    | nil =>
      refine Or.inr (Or.inr ⟨.blocked, s, ?_, rfl, Or.inl rfl⟩)
      unfold expectCell readConnectionControlCell
      rw [get_bind_run, htakes]
      rfl
    | cons take rest =>
      cases take with
      | interrupted =>
        refine Or.inr (Or.inr ⟨connectionException (lit "ConnectionIOException"),
          closeSocket { s with takes := rest }, ?_, rfl, Or.inr ⟨rfl, rfl⟩⟩)
        unfold expectCell readConnectionControlCell
        rw [get_bind_run, htakes]
        rfl
      | cell c linkEnded =>
        by_cases hcommand : c.command ∈ expectedTypes
        · exact Or.inl ⟨[(c, linkEnded)], rest, c, rfl, rfl, hcommand⟩
        · exact Or.inr (Or.inl ⟨[(c, linkEnded)], rest, .refused, rfl, c, rfl, hcommand, rfl⟩)

/-- Reading a cell takes no other one. -/
theorem talks_readPayload {α : Type} {x : PayloadM α} {cell : InboundCell}
    (hx : ∀ {e rest}, x cell.payload = .error e rest → ∃ f, e.failure = some f) :
    Talks (readPayload x cell)
      (fun cells a => cells = [] ∧ ∃ rest, x cell.payload = .ok a rest)
      fun cells f => cells = [] ∧ ∃ e rest, x cell.payload = .error e rest ∧ e.failure = some f where
  ok {s taken rest a} h htakes := by
    obtain ⟨hcells, rest', hrun⟩ := h
    cases List.map_eq_nil_iff.mp hcells
    cases (show s.takes = rest from htakes)
    unfold readPayload
    rw [hrun, after_nil]
  fails {s taken rest f} h htakes := by
    obtain ⟨hcells, e, rest', hrun, he⟩ := h
    cases List.map_eq_nil_iff.mp hcells
    cases (show s.takes = rest from htakes)
    refine ⟨e, he, ?_⟩
    unfold readPayload
    rw [hrun, after_nil]
  ends s := by
    cases hrun : x cell.payload with
    | ok a rest => exact Or.inl ⟨[], s.takes, a, rfl, rfl, rest, rfl⟩
    | error e rest =>
      obtain ⟨f, hf⟩ := hx hrun
      exact Or.inr (Or.inl ⟨[], s.takes, f, rfl, rfl, e, rest, rfl, hf⟩)

/-- One cell of the expected type, of which the rest takes no other one. -/
theorem talks_oneCell {α : Type} {command : Nat} {g : InboundCell → LinkM α}
    {Reads : InboundCell → α → Prop} {Fails : InboundCell → Failure → Prop}
    (hg : ∀ c, Talks (g c) (fun cells a => cells = [] ∧ Reads c a)
      fun cells f => cells = [] ∧ Fails c f) :
    Talks (expectCell [command] >>= g)
      (fun cells a => ∃ c, cells = [c] ∧ c.command = command ∧ Reads c a)
      fun cells f => ∃ c, cells = [c] ∧
        (c.command ≠ command ∧ f = .refused ∨ c.command = command ∧ Fails c f) := by
  refine ((talks_expectCell _).bind hg).congr ?_ ?_
  · intro cells a
    constructor
    · rintro ⟨_, c, _, rfl, ⟨rfl, hcommand⟩, rfl, ha⟩
      exact ⟨c, rfl, List.mem_singleton.mp hcommand, ha⟩
    · rintro ⟨c, rfl, hcommand, ha⟩
      exact ⟨[c], c, [], rfl, ⟨rfl, List.mem_singleton.mpr hcommand⟩, rfl, ha⟩
  · intro cells f
    constructor
    · rintro (⟨c, rfl, hcommand, rfl⟩ | ⟨_, c, _, rfl, ⟨rfl, hcommand⟩, rfl, hfails⟩)
      · exact ⟨c, rfl, Or.inl ⟨fun h => hcommand (List.mem_singleton.mpr h), rfl⟩⟩
      · exact ⟨c, rfl, Or.inr ⟨List.mem_singleton.mp hcommand, hfails⟩⟩
    · rintro ⟨c, rfl, ⟨hcommand, rfl⟩ | ⟨hcommand, hfails⟩⟩
      · exact Or.inl ⟨c, rfl, fun h => hcommand (List.mem_singleton.mp h), rfl⟩
      · exact Or.inr ⟨[c], c, [], rfl, ⟨rfl, List.mem_singleton.mpr hcommand⟩, rfl, hfails⟩

/-! ## VERSIONS and NETINFO -/

/-- Nothing of a VERSIONS cell is refused. -/
theorem talks_receiveVersions :
    Talks receiveVersions
      (fun cells versions => ∃ c, cells = [c] ∧ c.command = Cell.VERSIONS ∧
        versions = readVersions c.payload)
      fun cells f => ∃ c, cells = [c] ∧ c.command ≠ Cell.VERSIONS ∧ f = .refused := by
  refine (talks_oneCell fun c => (Talks.pure _).congr (fun _ _ => Iff.rfl)
    fun _ _ => (iff_of_eq (and_false _)).symm).congr (fun _ _ => Iff.rfl) fun cells f => ?_
  simp only [and_false, or_false]

/-- A NETINFO cell has the format, or the client runs out of bytes. -/
theorem talks_processNetInfo (cell : InboundCell) :
    Talks (readPayload processNetInfo cell)
      (fun cells info => cells = [] ∧ NetInfoPayload cell.payload info)
      fun cells f => cells = [] ∧ (∀ info, ¬ NetInfoPayload cell.payload info) ∧ f = .stumbled := by
  have hparses := parses_processNetInfo
  refine (talks_readPayload fun hrun => ?_).congr ?_ ?_
  · cases hparses.fails hrun
    exact ⟨.stumbled, rfl⟩
  · intro cells info
    rw [processNetInfo_ok]
  · intro cells f
    constructor
    · rintro ⟨rfl, e, rest, hrun, hf⟩
      cases hparses.fails hrun
      refine ⟨rfl, fun info hinfo => ?_, (Option.some.inj hf).symm⟩
      obtain ⟨rest', hrun'⟩ := processNetInfo_ok.mpr hinfo
      cases hrun.symm.trans hrun'
    · rintro ⟨rfl, hnone, rfl⟩
      obtain ⟨rest, hrun⟩ := hparses.fails_iff.mp (show ¬ Starts NetInfoItem cell.payload by
        rintro ⟨item, info, rest, hpayload, hitem⟩
        exact hnone info ⟨item, rest, hpayload, hitem⟩)
      exact ⟨rfl, .bufferUnderflow, rest, hrun, rfl⟩

/-- How a cell fails where a NETINFO cell has to come. -/
def NetInfoCellFails (c : InboundCell) : Failure → Prop
  | .refused => c.command ≠ Cell.NETINFO
  | .stumbled => c.command = Cell.NETINFO ∧ ∀ info, ¬ NetInfoPayload c.payload info

theorem talks_recvNetinfo :
    Talks recvNetinfo
      (fun cells info => ∃ c, cells = [c] ∧ c.command = Cell.NETINFO ∧
        NetInfoPayload c.payload info)
      fun cells f => ∃ c, cells = [c] ∧ NetInfoCellFails c f := by
  refine (talks_oneCell talks_processNetInfo).congr (fun _ _ => Iff.rfl) fun cells f => ?_
  cases f <;> simp [NetInfoCellFails]

end ConnectionHandshake

namespace ConnectionHandshakeV3

open Link ConnectionHandshake

variable {C : Type} (X : X509 C)

/-! ## Version 3 -/

/-- How a CERTS cell is not accepted: it ends early, or it has two certificates of a type, one of an
unknown type, or a wrong count. -/
def CertsFail (payload : List UInt8) : Failure → Prop
  | .stumbled => CertsEndEarly X payload
  | .refused => ¬ CertsEndEarly X payload ∧ ∀ certificates, ¬ CertsPayload X payload certificates

theorem readCerts_error {payload rest : List UInt8} {e : JavaException}
    (h : readCerts X payload = .error e rest) : ∃ f, e.failure = some f := by
  rcases readCerts_ends X payload with ⟨certificates, rest', -, hrun⟩ | ⟨-, rest', hrun⟩ |
    ⟨message, rest', hrun⟩
  · cases h.symm.trans hrun
  · cases h.symm.trans hrun
    exact ⟨.stumbled, rfl⟩
  · cases h.symm.trans hrun
    exact ⟨.refused, rfl⟩

theorem readCerts_fail {payload : List UInt8} {f : Failure} :
    (∃ e rest, readCerts X payload = .error e rest ∧ e.failure = some f) ↔
      CertsFail X payload f := by
  -- both sides say how the reading of the payload ends
  unfold CertsFail
  simp only [← readCerts_short, ← readCerts_ok]
  rcases readCerts_ends X payload with ⟨certificates, rest, -, hrun⟩ | ⟨-, rest, hrun⟩ |
    ⟨message, rest, hrun⟩ <;>
    cases f <;> simp [hrun, JavaException.failure]

theorem talks_recvCerts :
    Talks (recvCerts X)
      (fun cells certificates => ∃ c, cells = [c] ∧ c.command = Cell.CERTS ∧
        CertsPayload X c.payload certificates)
      fun cells f => ∃ c, cells = [c] ∧ (c.command ≠ Cell.CERTS ∧ f = .refused ∨
        c.command = Cell.CERTS ∧ CertsFail X c.payload f) := by
  refine talks_oneCell fun c => (talks_readPayload (readCerts_error X)).congr ?_ ?_
  · intro cells certificates
    rw [readCerts_ok]
  · intro cells f
    rw [readCerts_fail]

/-- A NETINFO cell, and perhaps an AUTH_CHALLENGE cell before it. -/
def NetInfoCells (cells : List InboundCell) (netinfo : InboundCell) : Prop :=
  netinfo.command = Cell.NETINFO ∧ (cells = [netinfo] ∨
    ∃ challenge, challenge.command = Cell.AUTH_CHALLENGE ∧ cells = [challenge, netinfo])

/-- How the last cells from the peer fail. -/
inductive NetInfoFails : List InboundCell → Failure → Prop where
  | other {c : InboundCell} (notChallenge : c.command ≠ Cell.AUTH_CHALLENGE)
    (notNetinfo : c.command ≠ Cell.NETINFO) : NetInfoFails [c] .refused
  | behindChallenge {challenge c : InboundCell} (isChallenge : challenge.command = Cell.AUTH_CHALLENGE)
    (notNetinfo : c.command ≠ Cell.NETINFO) : NetInfoFails [challenge, c] .refused
  | endsEarly {cells : List InboundCell} {netinfo : InboundCell} (came : NetInfoCells cells netinfo)
    (unreadable : ∀ info, ¬ NetInfoPayload netinfo.payload info) : NetInfoFails cells .stumbled

theorem challenge_ne_netinfo {c : InboundCell} (h : c.command = Cell.AUTH_CHALLENGE) :
    c.command ≠ Cell.NETINFO := by
  rw [h]
  decide

theorem talks_recvAuthChallengeAndNetinfo :
    Talks recvAuthChallengeAndNetinfo
      (fun cells info => ∃ netinfo, NetInfoCells cells netinfo ∧
        NetInfoPayload netinfo.payload info)
      NetInfoFails := by
  refine ((talks_expectCell _).bind fun c =>
    (talks_processNetInfo c).ite talks_recvNetinfo).congr ?_ ?_
  · intro cells info
    constructor
    · rintro ⟨_, c, _, rfl, ⟨rfl, hcommand⟩,
        ⟨hnetinfo, rfl, hinfo⟩ | ⟨hother, netinfo, rfl, hnetinfo, hinfo⟩⟩
      · exact ⟨c, ⟨hnetinfo, Or.inl rfl⟩, hinfo⟩
      · have hchallenge : c.command = Cell.AUTH_CHALLENGE := by
          simpa [hother] using hcommand
        exact ⟨netinfo, ⟨hnetinfo, Or.inr ⟨c, hchallenge, rfl⟩⟩, hinfo⟩
    · rintro ⟨netinfo, ⟨hnetinfo, rfl | ⟨challenge, hchallenge, rfl⟩⟩, hinfo⟩
      · exact ⟨[netinfo], netinfo, [], rfl, ⟨rfl, by simp [hnetinfo]⟩,
          Or.inl ⟨hnetinfo, rfl, hinfo⟩⟩
      · exact ⟨[challenge], challenge, [netinfo], rfl, ⟨rfl, by simp [hchallenge]⟩,
          Or.inr ⟨challenge_ne_netinfo hchallenge, netinfo, rfl, hnetinfo, hinfo⟩⟩
  · intro cells f
    constructor
    · rintro (⟨c, rfl, hcommand, rfl⟩ | ⟨_, c, _, rfl, ⟨rfl, hcommand⟩,
        ⟨hnetinfo, rfl, hnone, rfl⟩ | ⟨hother, c', rfl, hfail⟩⟩)
      · simp only [List.mem_cons, List.not_mem_nil, or_false, not_or] at hcommand
        exact .other hcommand.1 hcommand.2
      · exact .endsEarly ⟨hnetinfo, Or.inl rfl⟩ hnone
      · have hchallenge : c.command = Cell.AUTH_CHALLENGE := by
          simpa [hother] using hcommand
        cases f with
        | refused => exact .behindChallenge hchallenge hfail
        | stumbled => exact .endsEarly ⟨hfail.1, Or.inr ⟨c, hchallenge, rfl⟩⟩ hfail.2
    · intro hfail
      cases hfail with
      | @other c hchallenge hnetinfo =>
        refine Or.inl ⟨c, rfl, ?_, rfl⟩
        simp [hchallenge, hnetinfo]
      | @behindChallenge challenge c hchallenge hnetinfo =>
        exact Or.inr ⟨[challenge], challenge, [c], rfl, ⟨rfl, by simp [hchallenge]⟩,
          Or.inr ⟨challenge_ne_netinfo hchallenge, c, rfl, hnetinfo⟩⟩
      | @endsEarly cells netinfo hcame hnone =>
        obtain ⟨hnetinfo, rfl | ⟨challenge, hchallenge, rfl⟩⟩ := hcame
        · exact Or.inr ⟨[netinfo], netinfo, [], rfl, ⟨rfl, by simp [hnetinfo]⟩,
            Or.inl ⟨hnetinfo, rfl, hnone, rfl⟩⟩
        · exact Or.inr ⟨[challenge], challenge, [netinfo], rfl, ⟨rfl, by simp [hchallenge]⟩,
            Or.inr ⟨challenge_ne_netinfo hchallenge, netinfo, rfl, hnetinfo, hnone⟩⟩

/-- The cells of a peer that is heard to the end, and the certificates among them. -/
def Received (cells : List InboundCell) (certificates : Certificates C) : Prop :=
  ∃ versions certs back netinfo info, cells = versions :: certs :: back ∧
    versions.command = Cell.VERSIONS ∧ certs.command = Cell.CERTS ∧
    CertsPayload X certs.payload certificates ∧ NetInfoCells back netinfo ∧
    NetInfoPayload netinfo.payload info

/-- How the cells of the peer fail, with the last of them. -/
inductive ReceiveFails : List InboundCell → Failure → Prop where
  | noVersions {c : InboundCell} (other : c.command ≠ Cell.VERSIONS) : ReceiveFails [c] .refused
  | noCerts {versions c : InboundCell} (isVersions : versions.command = Cell.VERSIONS)
    (other : c.command ≠ Cell.CERTS) : ReceiveFails [versions, c] .refused
  | certs {versions certs : InboundCell} {f : Failure}
    (isVersions : versions.command = Cell.VERSIONS) (isCerts : certs.command = Cell.CERTS)
    (fails : CertsFail X certs.payload f) : ReceiveFails [versions, certs] f
  | netinfo {versions certs : InboundCell} {back : List InboundCell} {f : Failure}
    {certificates : Certificates C} (isVersions : versions.command = Cell.VERSIONS)
    (isCerts : certs.command = Cell.CERTS)
    (accepted : CertsPayload X certs.payload certificates) (fails : NetInfoFails back f) :
    ReceiveFails (versions :: certs :: back) f

theorem talks_receive : Talks (receive X) (Received X) (ReceiveFails X) := by
  refine (talks_receiveVersions.bind fun _ => (talks_recvCerts X).bind fun certificates =>
    talks_recvAuthChallengeAndNetinfo.bind fun _ => Talks.pure certificates).congr ?_ ?_
  · intro cells certificates
    constructor
    · rintro ⟨_, _, _, rfl, ⟨versions, rfl, hversions, rfl⟩, _, certificates', _, rfl,
        ⟨certs, rfl, hcerts, hpayload⟩, back, info, _, rfl, ⟨netinfo, hcells, hinfo⟩, rfl, rfl⟩
      rw [List.append_nil]
      exact ⟨versions, certs, back, netinfo, info, rfl, hversions, hcerts, hpayload, hcells, hinfo⟩
    · rintro ⟨versions, certs, back, netinfo, info, rfl, hversions, hcerts, hpayload, hcells, hinfo⟩
      exact ⟨[versions], _, certs :: back, rfl, ⟨versions, rfl, hversions, rfl⟩, [certs],
        certificates, back, rfl, ⟨certs, rfl, hcerts, hpayload⟩, back, info, [],
        (List.append_nil _).symm, ⟨netinfo, hcells, hinfo⟩, rfl, rfl⟩
  · intro cells f
    constructor
    · rintro (⟨c, rfl, hother, rfl⟩ | ⟨_, _, _, rfl, ⟨versions, rfl, hversions, rfl⟩, hback⟩)
      · exact .noVersions hother
      · rcases hback with ⟨c, rfl, ⟨hother, rfl⟩ | ⟨hcerts, hfail⟩⟩ |
          ⟨_, certificates, back, rfl, ⟨certs, rfl, hcerts, hpayload⟩, hrest⟩
        · exact .noCerts hversions hother
        · exact .certs hversions hcerts hfail
        · rcases hrest with hfail | ⟨_, _, _, -, -, hfalse⟩
          · exact .netinfo hversions hcerts hpayload hfail
          · exact hfalse.elim
    · intro hfail
      cases hfail with
      | @noVersions c hother => exact Or.inl ⟨c, rfl, hother, rfl⟩
      | @noCerts versions c hversions hother =>
        exact Or.inr ⟨[versions], _, [c], rfl, ⟨versions, rfl, hversions, rfl⟩,
          Or.inl ⟨c, rfl, Or.inl ⟨hother, rfl⟩⟩⟩
      | @certs versions certs f hversions hcerts hfail =>
        exact Or.inr ⟨[versions], _, [certs], rfl, ⟨versions, rfl, hversions, rfl⟩,
          Or.inl ⟨certs, rfl, Or.inr ⟨hcerts, hfail⟩⟩⟩
      | @netinfo versions certs back f certificates hversions hcerts hpayload hfail =>
        exact Or.inr ⟨[versions], _, certs :: back, rfl, ⟨versions, rfl, hversions, rfl⟩,
          Or.inr ⟨[certs], certificates, back, rfl, ⟨certs, rfl, hcerts, hpayload⟩, Or.inl hfail⟩⟩

end ConnectionHandshakeV3

end Orchid
