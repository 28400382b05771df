import Orchid.Directory.DirectoryImpl
import Orchid.Lib.Safe

/-!
# Orchid — the consensuses a directory has been through

A directory lives through calls that offer documents and bring certificates. A call that raises
leaves the directory in the state it had reached, so a history goes on after an exception.

* **`install_spec`**: installing a document writes the router tables, and at the very end the
  consensus in force; an exception on the way leaves the latter alone.
* **`call_effect`**: a call leaves the consensus and the tables alone, or an offered document
  was verified with the certificates then held, and was not older than the one in force.
* **`consensus_history`**: so in every history each consensus was verified when it came into force,
  and valid-after times never go back.
* **`routers_verified`**: and the routers come from verified documents.
-/

namespace Orchid

open Prog

/-- The calls that update a directory. -/
inductive DirectoryCall where
  | addConsensusDocument (consensus : ConsensusDocument) (fromCache : Bool)
  | addCertificate (certificate : KeyCertificate)

namespace DirectoryImpl

/-! ## Installing a document -/

/-- Only what lists the routers has changed. -/
def Relisted (s s' : DirectoryImpl) : Prop :=
  ∃ routers directoryCaches, s' = { s with routers, directoryCaches }

theorem Relisted.order : StepOrder Relisted where
  refl s := ⟨s.routers, s.directoryCaches, rfl⟩
  trans := by
    rintro s s' s'' ⟨routers, caches, rfl⟩ ⟨routers', caches', rfl⟩
    exact ⟨routers', caches', rfl⟩

theorem Relisted.tables (f : DirectoryImpl → RouterTables) :
    Steps Relisted (modify fun s => { s with routers := f s } : DirectoryM Unit) :=
  Steps.modify fun s => ⟨f s, s.directoryCaches, rfl⟩

theorem updateOrCreateRouter_relisted (knownRouters : JMap HexDigest Nat) (status : RouterStatus)
    (hstatus : status.Complete) :
    Steps Relisted (updateOrCreateRouter knownRouters status hstatus) := by
  refine Steps.get_bind fun s => ?_
  dsimp only
  cases knownRouters.lookup (s.routerFromStatus status hstatus).identityHash with
  | none =>
    exact Relisted.order.bind (Relisted.tables _) fun _ => Relisted.order.pure _
  | some ref =>
    refine Relisted.order.bind (Relisted.order.fromExcept _) fun routers => ?_
    exact Relisted.order.bind (Relisted.tables _) fun _ => Relisted.order.pure _

theorem classifyRouter_relisted (ref : Nat) (s : DirectoryImpl) :
    Relisted s (classifyRouter ref s) := by
  unfold classifyRouter
  split
  · exact ⟨s.routers, _, rfl⟩
  · exact ⟨s.routers, _, rfl⟩

theorem listRunningRouter_relisted (knownRouters : JMap HexDigest Nat) (status : RouterStatus) :
    Steps Relisted (listRunningRouter knownRouters status) := by
  unfold listRunningRouter
  by_cases hstatus : status.Complete
  · rw [dif_pos hstatus]
    refine Relisted.order.bind (updateOrCreateRouter_relisted _ _ hstatus) fun ref => ?_
    exact Relisted.order.bind (Relisted.tables _) fun _ =>
      Steps.modify (classifyRouter_relisted ref)
  · rw [dif_neg hstatus]
    exact Relisted.order.throw _

variable (consensus : ConsensusDocument)

theorem listRouter_relisted (knownRouters : JMap HexDigest Nat)
    (status : RouterStatus) : Steps Relisted (listRouter consensus knownRouters status) := by
  have hlast : Steps Relisted (updateLastListed consensus status) := by
    refine Steps.get_bind fun s => ?_
    refine Steps.ite ?_ (Relisted.order.pure _)
    exact (Relisted.order.throw _).ite (Relisted.order.pure _)
  refine Steps.ite ?_ hlast
  exact Relisted.order.bind (listRunningRouter_relisted _ _) fun _ => hlast

/-- What installing a document does: the document comes into force, or an exception leaves the
tables half filled and the consensus as it was. -/
theorem install_spec (fromCache : Bool) (s : DirectoryImpl) :
    (∃ s₁ storedConsensus, Relisted s s₁ ∧ install consensus fromCache s =
        .ok () { s₁ with currentConsensus := some consensus, storedConsensus }) ∨
      ∃ e s₁, Relisted s s₁ ∧ install consensus fromCache s = .error e s₁ := by
  have hcleared : Relisted s (clearAll s) := ⟨_, _, rfl⟩
  have hloop : Steps Relisted (consensus.routerStatusEntries.forM
      (listRouter consensus s.routers.routersByIdentity)) :=
    Relisted.order.forM fun status _ => listRouter_relisted consensus _ status
  have hlisted := Relisted.order.trans hcleared (hloop (clearAll s))
  unfold install
  rw [get_bind_run, bind_of_ok (modify_run clearAll s), bind_run]
  cases hrun : consensus.routerStatusEntries.forM
      (listRouter consensus s.routers.routersByIdentity) (clearAll s) with
  | error e s₁ =>
    rw [hrun] at hlisted
    exact Or.inr ⟨e, s₁, hlisted, rfl⟩
  | ok u s₁ =>
    rw [hrun] at hlisted
    left
    cases fromCache with
    | true => exact ⟨s₁, s₁.storedConsensus, hlisted, rfl⟩
    | false => exact ⟨s₁, some consensus, hlisted, rfl⟩

/-- Installing touches neither the certificates nor the document that waits. -/
theorem install_keeps (fromCache : Bool) (s : DirectoryImpl) :
    (final (install consensus fromCache s)).directoryServers = s.directoryServers ∧
      (final (install consensus fromCache s)).consensusWaitingForCertificates =
        s.consensusWaitingForCertificates := by
  rcases install_spec consensus fromCache s with
    ⟨s₁, stored, ⟨routers, caches, rfl⟩, hrun⟩ | ⟨e, s₁, ⟨routers, caches, rfl⟩, hrun⟩
  · rw [hrun]
    exact ⟨rfl, rfl⟩
  · rw [hrun]
    exact ⟨rfl, rfl⟩

/-! ## Documents that can be installed -/

/-- The document has a valid-after time, and its entries the fields of their `r` lines. -/
structure Installable (doc : ConsensusDocument) : Prop where
  validAfter : doc.validAfter.isSome
  entries : ∀ status ∈ doc.routerStatusEntries, status.Complete

/-- The table names objects of the directory, each by its identity. -/
def Knows (knownRouters : JMap HexDigest Nat) (s : DirectoryImpl) : Prop :=
  ∀ identity ref, knownRouters.lookup identity = some ref →
    ∃ r, s.routers.objects[ref]? = some r ∧ r.identityHash = identity

variable {knownRouters : JMap HexDigest Nat} {status : RouterStatus} {s : DirectoryImpl}

theorem updateOrCreateRouter_safe (hstatus : status.Complete) :
    Safe (Knows knownRouters) (fun _ => False) (updateOrCreateRouter knownRouters status hstatus)
      fun _ => True := by
  intro s hknows
  let router := s.routerFromStatus status hstatus
  unfold updateOrCreateRouter
  rw [get_bind_run]
  cases hlookup : knownRouters.lookup router.identityHash with
  | none =>
    refine ⟨fun identity ref href => ?_, trivial⟩
    obtain ⟨r, hr, hidentity⟩ := hknows identity ref href
    have hlt : ref < s.routers.objects.length := (List.getElem?_eq_some_iff.mp hr).1
    refine ⟨r, ?_, hidentity⟩
    show (s.routers.objects ++ [router])[ref]? = some r
    rw [List.getElem?_append_left hlt]
    exact hr
  | some known =>
    obtain ⟨old, hold, hidentity⟩ := hknows _ known hlookup
    obtain ⟨routers, hupdate, hobjects⟩ := RouterTables.updateStatus_ok hold hidentity
    dsimp only
    rw [hupdate]
    refine ⟨fun identity ref href => ?_, trivial⟩
    obtain ⟨r, hr, hr'⟩ := hknows identity ref href
    have hlt : ref < s.routers.objects.length := (List.getElem?_eq_some_iff.mp hr).1
    show ∃ r, routers.objects[ref]? = some r ∧ r.identityHash = identity
    rw [hobjects, List.getElem?_set]
    rcases eq_or_ne known ref with rfl | hsame
    · rw [hold, Option.some.injEq] at hr
      subst hr
      rw [if_pos rfl, if_pos hlt]
      exact ⟨router, rfl, hidentity.symm.trans hr'⟩
    · rw [if_neg hsame]
      exact ⟨r, hr, hr'⟩

theorem listRunningRouter_safe (hstatus : status.Complete) :
    Safe (Knows knownRouters) (fun _ => False) (listRunningRouter knownRouters status)
      fun _ => True := by
  unfold listRunningRouter
  rw [dif_pos hstatus]
  refine (updateOrCreateRouter_safe hstatus).bind fun ref _ => ?_
  refine Safe.bind (Safe.modify fun s hs => ?_) fun _ _ => Safe.modify fun s hs => ?_
  · simpa [Knows] using hs
  unfold classifyRouter
  split
  · exact hs
  · exact hs

variable {consensus : ConsensusDocument}

theorem listRouter_safe (hafter : consensus.validAfter.isSome) (hstatus : status.Complete) :
    Safe (Knows knownRouters) (fun _ => False) (listRouter consensus knownRouters status)
      fun _ => True := by
  have hlast : Safe (Knows knownRouters) (fun _ => False) (updateLastListed consensus status)
      fun _ => True := by
    refine Safe.get.bind fun s _ => Safe.when fun _ => Safe.when fun hnone => ?_
    rw [← Option.not_isSome, hafter] at hnone
    cases hnone
  exact Safe.ite (fun _ => (listRunningRouter_safe hstatus).bind fun _ _ => hlast) fun _ => hlast

/-- An installable document comes into force. -/
theorem install_returns (hdoc : Installable consensus) (fromCache : Bool) (s : DirectoryImpl) :
    ∃ s₁ storedConsensus, Relisted s s₁ ∧ install consensus fromCache s =
      .ok () { s₁ with currentConsensus := some consensus, storedConsensus } := by
  rcases install_spec consensus fromCache s with hok | ⟨e, s₁, -, hrun⟩
  · exact hok
  · -- the tables of the directory name its own objects, so no round of the loop raises
    have hknows : Knows s.routers.routersByIdentity (clearAll s) := s.routers.keyed
    obtain ⟨_, s', hloop, -⟩ := (Safe.forM fun status hmem =>
      listRouter_safe hdoc.validAfter (hdoc.entries status hmem)).returns hknows
    unfold install at hrun
    rw [get_bind_run, bind_of_ok (modify_run clearAll s), bind_of_ok hloop] at hrun
    cases fromCache with
    | true | false => cases hrun

/-! ## One call -/

variable (P : Platform)

/-- A call made at a time. -/
def perform (now : Int) : DirectoryCall → DirectoryM Unit
  | .addConsensusDocument consensus fromCache => addConsensusDocument P now consensus fromCache
  | .addCertificate certificate => addCertificate P now certificate

def afterCall (s : DirectoryImpl) (call : Int × DirectoryCall) : DirectoryImpl :=
  final (perform P call.1 call.2 s)

/-- The document that a call may bring into force: the one offered, or the one that waits. -/
inductive Offered (s : DirectoryImpl) : DirectoryCall → ConsensusDocument → Prop where
  | document (consensus : ConsensusDocument) (fromCache : Bool) :
      Offered s (.addConsensusDocument consensus fromCache) consensus
  | waiting (certificate : KeyCertificate) {consensus : ConsensusDocument}
      (hwaiting : s.consensusWaitingForCertificates = some consensus) :
      Offered s (.addCertificate certificate) consensus

/-- `verifySignatures` answers `STATUS_VERIFIED` with the certificates held. -/
def Verified (now : Int) (s : DirectoryImpl) (doc : ConsensusDocument) : Prop :=
  ∃ st, doc.verifySignatures P now doc.authorityEntries ⟨s.directoryServers, []⟩ =
    .ok .STATUS_VERIFIED st

/-- The document is not older than the consensus in force. -/
def NotOlder (doc : ConsensusDocument) (s : DirectoryImpl) : Prop :=
  ∀ current, s.currentConsensus = some current →
    ∃ t t', current.validAfter = some t ∧ doc.validAfter = some t' ∧ t ≤ t'

/-- The consensus in force and the tables of its routers are as before. -/
structure Unmoved (s s' : DirectoryImpl) : Prop where
  currentConsensus : s'.currentConsensus = s.currentConsensus
  routers : s'.routers = s.routers
  directoryCaches : s'.directoryCaches = s.directoryCaches

/-- The document was verified and is not older. It comes into force, unless installing it
raises. -/
structure Moved (now : Int) (doc : ConsensusDocument) (s s' : DirectoryImpl) : Prop where
  verified : Verified P now s' doc
  notOlder : NotOlder doc s
  currentConsensus : s'.currentConsensus = some doc ∨ s'.currentConsensus = s.currentConsensus

variable {P} {now : Int} {s s' : DirectoryImpl} {consensus : ConsensusDocument}

theorem notOlder_of_supersedes (hnew : s.supersedes consensus = .ok false) :
    NotOlder consensus s := by
  intro current hcurrent
  unfold supersedes at hnew
  rw [hcurrent] at hnew
  obtain ⟨same, -, hnew⟩ := except_bind_eq_ok.mp hnew
  cases same with
  | true => cases hnew
  | false =>
    unfold ConsensusDocument.isBefore at hnew
    cases hafter : consensus.validAfter with
    | none => simp [hafter] at hnew
    | some t' =>
      cases hcurrentAfter : current.validAfter with
      | none => simp [hafter, hcurrentAfter] at hnew
      | some t =>
        simp only [hafter, hcurrentAfter, Bool.false_eq_true, if_false, Except.ok.injEq,
          decide_eq_false_iff_not] at hnew
        exact ⟨t, t', rfl, rfl, by omega⟩

/-- Lookups made on the way do not change what `verifySignatures` answers. -/
theorem verified_of_looked {servers' : List DirectoryServer} (hlooked : s.Looked now servers')
    (hverdict : s.verdict P now consensus = .ok .STATUS_VERIFIED)
    (hservers : s'.directoryServers = servers') : Verified P now s' consensus := by
  have hcomputes : Computes (ConsensusDocument.Looked now s.directoryServers)
      (consensus.verifySignatures P now consensus.authorityEntries)
      (s.verdict P now consensus) := ConsensusDocument.verifySignatures_computes _
  have hstart : ConsensusDocument.Looked now s.directoryServers ⟨s'.directoryServers, []⟩ := by
    rw [hservers]
    exact hlooked
  rw [hverdict] at hcomputes
  exact hcomputes.returns hstart

/-- What an offered document does to the consensus in force. -/
theorem Offer.effect {fromCache : Bool} {r : EStateM.Result JavaException DirectoryImpl Unit}
    (h : Offer P now consensus fromCache s r) :
    Unmoved s (final r) ∨ Moved P now consensus s (final r) := by
  cases h with
  | superseded hold | incomparable hraise | unverifiable hnew hlooked hverdict
  | failed hnew hlooked hverdict | pending required hnew hlooked hverdict =>
    exact Or.inl ⟨rfl, rfl, rfl⟩
  | @verified servers' required hnew hlooked hverdict =>
    right
    let examined := requireCertificates required { s with directoryServers := servers' }
    rcases install_spec consensus fromCache examined with
      ⟨s₁, stored, ⟨routers, caches, rfl⟩, hrun⟩ | ⟨e, s₁, ⟨routers, caches, rfl⟩, hrun⟩
    · rw [hrun]
      exact ⟨verified_of_looked hlooked hverdict rfl, notOlder_of_supersedes hnew, Or.inl rfl⟩
    · rw [hrun]
      exact ⟨verified_of_looked hlooked hverdict rfl, notOlder_of_supersedes hnew, Or.inr rfl⟩

variable {certificate : KeyCertificate}

/-- A certificate alone moves nothing. -/
theorem Receipt.unmoved {r : EStateM.Result JavaException DirectoryImpl (Option ConsensusDocument)}
    (h : Receipt P now certificate s r) : Unmoved s (final r) := by
  have hsame : ∀ {s'}, Added P certificate s s' → Unmoved s s' := by
    rintro s' ⟨required', hauthority, hserver, hadd⟩
    exact ⟨rfl, rfl, rfl⟩
  cases h with
  | refused | unknown => exact ⟨rfl, rfl, rfl⟩
  | stored hadded hidle => exact hsame hadded
  | unverifiable hadded | failed hadded | pending required hadded | completed hadded =>
    exact ⟨(hsame hadded).1, (hsame hadded).2, (hsame hadded).3⟩

variable {doc : ConsensusDocument}

/-- What a certificate hands on is the waiting document. -/
theorem Receipt.waiting (h : Receipt P now certificate s (.ok (some doc) s')) :
    s.consensusWaitingForCertificates = some doc := by
  cases h with
  | completed hadded hrequired hwaiting => exact hwaiting

variable {s₁ : DirectoryImpl}

theorem Unmoved.trans (h : Unmoved s s₁) (h' : Unmoved s₁ s') : Unmoved s s' where
  currentConsensus := h'.currentConsensus.trans h.currentConsensus
  routers := h'.routers.trans h.routers
  directoryCaches := h'.directoryCaches.trans h.directoryCaches

theorem Unmoved.moved (h : Unmoved s s₁)
    (hmoved : Moved P now doc s₁ s') : Moved P now doc s s' where
  verified := hmoved.verified
  notOlder := by
    intro current hcurrent
    exact hmoved.notOlder current (h.currentConsensus.trans hcurrent)
  currentConsensus := by
    rw [← h.currentConsensus]
    exact hmoved.currentConsensus

theorem addCertificate_effect (certificate : KeyCertificate) (s : DirectoryImpl) :
    Unmoved s (final (addCertificate P now certificate s)) ∨
      ∃ doc, s.consensusWaitingForCertificates = some doc ∧
        Moved P now doc s (final (addCertificate P now certificate s)) := by
  have hreceipt := receiveCertificate_receipt P now certificate s
  have hunmoved := hreceipt.unmoved
  unfold addCertificate
  rw [bind_run]
  cases hrun : receiveCertificate P now certificate s with
  | error e s₁ =>
    rw [hrun] at hunmoved
    exact Or.inl hunmoved
  | ok found s₁ =>
    rw [hrun] at hunmoved hreceipt
    cases found with
    | none => exact Or.inl hunmoved
    | some doc =>
      -- the document is offered again; if that returns, it waits no longer
      have hwaiting := hreceipt.waiting
      have heffect := (addConsensusDocument_offer P now doc false s₁).effect
      dsimp only
      rw [bind_run]
      cases hoffer : addConsensusDocument P now doc false s₁ with rw [hoffer] at heffect
      | error e s₂ =>
        rcases heffect with hnone | hmoved
        · exact Or.inl (hunmoved.trans hnone)
        · exact Or.inr ⟨doc, hwaiting, hunmoved.moved hmoved⟩
      | ok u s₂ =>
        rcases heffect with hnone | hmoved
        · have hboth := hunmoved.trans hnone
          exact Or.inl ⟨hboth.1, hboth.2, hboth.3⟩
        · have hboth := hunmoved.moved hmoved
          exact Or.inr ⟨doc, hwaiting, hboth.1, hboth.2, hboth.3⟩

variable (P : Platform)

/-- **One call.** It moves nothing, or a document it may bring into force is verified with the
certificates then held and is not older than the consensus in force. -/
theorem call_effect (s : DirectoryImpl) (now : Int) (call : DirectoryCall) :
    Unmoved s (afterCall P s (now, call)) ∨
      ∃ doc, Offered s call doc ∧ Moved P now doc s (afterCall P s (now, call)) := by
  cases call with
  | addConsensusDocument consensus fromCache =>
    rcases (addConsensusDocument_offer P now consensus fromCache s).effect with hnone | hmoved
    · exact Or.inl hnone
    · exact Or.inr ⟨consensus, Offered.document consensus fromCache, hmoved⟩
  | addCertificate certificate =>
    have heffect : Unmoved s (final (addCertificate P now certificate s)) ∨ _ :=
      addCertificate_effect certificate s
    rcases heffect with hnone | ⟨doc, hwaiting, hmoved⟩
    · exact Or.inl hnone
    · exact Or.inr ⟨doc, Offered.waiting certificate hwaiting, hmoved⟩

/-! ## Histories -/

def afterCalls (P : Platform) (s : DirectoryImpl) (calls : List (Int × DirectoryCall)) :
    DirectoryImpl :=
  calls.foldl (afterCall P) s

/-- A consensus in force is kept, or followed by one with no earlier valid-after time. -/
def Follows (s s' : DirectoryImpl) : Prop :=
  ∀ current, s.currentConsensus = some current →
    ∃ current', s'.currentConsensus = some current' ∧
      (current' = current ∨
        ∃ t t', current.validAfter = some t ∧ current'.validAfter = some t' ∧ t ≤ t')

theorem Follows.refl (s : DirectoryImpl) : Follows s s :=
  fun current hcurrent => ⟨current, hcurrent, Or.inl rfl⟩

theorem Follows.trans {s'' : DirectoryImpl} (h : Follows s s') (h' : Follows s' s'') :
    Follows s s'' := by
  intro current hcurrent
  obtain ⟨current', hcurrent', hstep⟩ := h current hcurrent
  obtain ⟨current'', hcurrent'', hstep'⟩ := h' current' hcurrent'
  refine ⟨current'', hcurrent'', ?_⟩
  rcases hstep with rfl | ⟨t, t', ht, ht', hle⟩
  · exact hstep'
  · rcases hstep' with rfl | ⟨u, u', hu, hu', hle'⟩
    · exact Or.inr ⟨t, t', ht, ht', hle⟩
    · cases ht'.symm.trans hu
      exact Or.inr ⟨t, u', ht, hu', by omega⟩

theorem call_follows (s : DirectoryImpl) (call : Int × DirectoryCall) :
    Follows s (afterCall P s call) := by
  intro current hcurrent
  rcases call_effect P s call.1 call.2 with hnone | ⟨doc, -, hmoved⟩
  · exact ⟨current, hnone.currentConsensus.trans hcurrent, Or.inl rfl⟩
  · rcases hmoved.currentConsensus with hnew | hsame
    · exact ⟨doc, hnew, Or.inr (hmoved.notOlder current hcurrent)⟩
    · exact ⟨current, hsame.trans hcurrent, Or.inl rfl⟩

/-- Induction on the calls: valid-after times never go back. -/
theorem calls_follow (s : DirectoryImpl) (calls : List (Int × DirectoryCall)) :
    Follows s (afterCalls P s calls) := by
  induction calls generalizing s with
  | nil => exact Follows.refl s
  | cons call calls ih => exact (call_follows P s call).trans (ih (afterCall P s call))

/-- **The history of a directory.** Take any calls made one after the other, and any one of them:

* if it changes the consensus in force, then to a document it may bring into force, for which
  `verifySignatures` answers `STATUS_VERIFIED` with the certificates then held;
* if the document it offers is not verified then, or is older than the consensus in force, the
  call changes neither the consensus nor the router tables;
* and the valid-after times go back neither in this call nor in all that follow. -/
theorem consensus_history (P : Platform) (start : DirectoryImpl)
    (before : List (Int × DirectoryCall)) (now : Int) (call : DirectoryCall)
    (after : List (Int × DirectoryCall)) :
    let s := afterCalls P start before
    let s' := afterCall P s (now, call)
    (s'.currentConsensus ≠ s.currentConsensus →
      ∃ doc, Offered s call doc ∧ s'.currentConsensus = some doc ∧ Verified P now s' doc) ∧
    ((∀ doc, Offered s call doc → ¬ Verified P now s' doc ∨ ¬ NotOlder doc s) → Unmoved s s') ∧
    Follows s (afterCalls P s' after) := by
  intro s s'
  refine ⟨?_, ?_, ?_⟩
  · intro hchanged
    rcases call_effect P s now call with hnone | ⟨doc, hoffered, hmoved⟩
    · exact absurd hnone.currentConsensus hchanged
    · rcases hmoved.currentConsensus with hnew | hsame
      · exact ⟨doc, hoffered, hnew, hmoved.verified⟩
      · exact absurd hsame hchanged
  · intro hrejected
    rcases call_effect P s now call with hnone | ⟨doc, hoffered, hmoved⟩
    · exact hnone
    · rcases hrejected doc hoffered with hunverified | hold
      · exact absurd hmoved.verified hunverified
      · exact absurd hmoved.notOlder hold
  · exact (call_follows P s (now, call)).trans (calls_follow P s' after)

/-! ## Where routers come from -/

/-- The entry lists a router as running and valid. -/
def Enlists (doc : ConsensusDocument) (status : RouterStatus) : Prop :=
  status ∈ doc.routerStatusEntries ∧
    (status.hasFlag (lit "Running") && status.hasFlag (lit "Valid")) = true

/-- A router object was there before, or the document lists it. -/
def Brings (doc : ConsensusDocument) (s s' : DirectoryImpl) : Prop :=
  ∀ r ∈ s'.routers.objects, r ∈ s.routers.objects ∨ Enlists doc r.status

theorem Brings.order : StepOrder (Brings doc) where
  refl _ _ := Or.inl
  trans h h' r hr := (h' r hr).elim (h r) Or.inr

theorem listRunningRouter_brings {status : RouterStatus} (knownRouters : JMap HexDigest Nat)
    (h : Enlists doc status) : Steps (Brings doc) (listRunningRouter knownRouters status) := by
  unfold listRunningRouter
  split
  · rename_i hstatus
    refine Brings.order.bind (fun s => ?_) fun ref => Brings.order.bind
      (Steps.modify fun s r hr => Or.inl ?_) fun _ => Steps.modify fun s r hr => Or.inl ?_
    · unfold updateOrCreateRouter
      rw [get_bind_run]
      cases knownRouters.lookup (s.routerFromStatus status hstatus).identityHash with
      | none =>
        intro r hr
        rcases List.mem_append.mp hr with hold | hnew
        · exact Or.inl hold
        · rw [List.mem_singleton.mp hnew]
          exact Or.inr h
      | some ref =>
        dsimp only
        cases hupdate : s.routers.updateStatus ref (s.routerFromStatus status hstatus) with
        | error e => exact fun _ => Or.inl
        | ok t =>
          intro r hr
          unfold RouterTables.updateStatus at hupdate
          split at hupdate
          · cases hupdate
          · split at hupdate <;> cases hupdate
            rcases List.mem_or_eq_of_mem_set hr with hold | rfl
            · exact Or.inl hold
            · exact Or.inr h
    · exact RouterTables.addRouter_objects s.routers ref ▸ hr
    · unfold classifyRouter at hr
      split at hr <;> exact hr
  · exact Brings.order.throw _

theorem addConsensusDocument_brings (fromCache : Bool) :
    Steps (Brings doc) (addConsensusDocument P now doc fromCache) := by
  have hlast : ∀ status, Steps (Brings doc) (updateLastListed doc status) := fun status =>
    Steps.get_bind fun s => Steps.ite ((Brings.order.throw _).ite (Brings.order.pure _))
      (Brings.order.pure _)
  have hinstall : Steps (Brings doc) (install doc fromCache) := by
    refine Steps.get_bind fun s => Brings.order.bind (Steps.modify fun _ _ => Or.inl) fun _ => ?_
    refine Brings.order.bind (Brings.order.forM fun status hmem => ?_) fun _ => ?_
    · unfold listRouter
      split
      · rename_i hflags
        exact Brings.order.bind (listRunningRouter_brings _ ⟨hmem, hflags⟩) fun _ => hlast status
      · exact hlast status
    · cases fromCache with
      | true | false => exact fun _ _ => Or.inl
  intro s
  have hoffer := addConsensusDocument_offer P now doc fromCache s
  generalize addConsensusDocument P now doc fromCache s = r at hoffer ⊢
  cases hoffer with
  | superseded | incomparable | unverifiable | failed | pending => exact fun _ => Or.inl
  | verified => exact hinstall _

/-- The document that a call may bring into force is the only one that it takes routers from. -/
theorem call_brings {call : DirectoryCall} (h : Offered s call doc) :
    Brings doc s (afterCall P s (now, call)) := by
  cases h with
  | document => exact addConsensusDocument_brings P _ s
  | waiting certificate hwaiting =>
    have hreceipt := receiveCertificate_receipt P now certificate s
    have hunmoved := hreceipt.unmoved
    show Brings doc s (final (addCertificate P now certificate s))
    unfold addCertificate
    rw [bind_run]
    cases hrun : receiveCertificate P now certificate s with
      rw [hrun] at hunmoved hreceipt
    | error e s₁ => exact fun r hr => Or.inl (hunmoved.routers ▸ hr)
    | ok found s₁ =>
      have hsame : Brings doc s s₁ := fun r hr => Or.inl (hunmoved.routers ▸ hr)
      cases found with
      | none => exact hsame
      | some found =>
        cases hwaiting.symm.trans hreceipt.waiting
        refine Brings.order.trans hsame
          (Brings.order.bind (addConsensusDocument_brings P false) ?_ s₁)
        exact fun _ => Steps.modify fun _ _ => Or.inl

/-- A call offered a document that lists the router, and that was verified then. -/
def Introduced (start : DirectoryImpl) (calls : List (Int × DirectoryCall)) (r : RouterImpl) :
    Prop :=
  ∃ before now call after doc, calls = before ++ (now, call) :: after ∧
    Offered (afterCalls P start before) call doc ∧
    Verified P now (afterCall P (afterCalls P start before) (now, call)) doc ∧ Enlists doc r.status

/-- **Routers come from verified documents**, in every history. -/
theorem routers_verified (start : DirectoryImpl) (calls : List (Int × DirectoryCall))
    (r : RouterImpl) (hr : r ∈ (afterCalls P start calls).routers.objects) :
    r ∈ start.routers.objects ∨ Introduced P start calls r := by
  induction calls generalizing start with
  | nil => exact Or.inl hr
  | cons call calls ih =>
    -- a router of the later calls is explained by them, one of the first call by its document
    rcases ih (afterCall P start call) hr with
      hfirst | ⟨before, now, later, after, doc, rfl, hlater⟩
    · rcases call_effect P start call.1 call.2 with hnone | ⟨doc, hoffered, hmoved⟩
      · exact Or.inl (hnone.routers ▸ hfirst)
      · rcases call_brings P hoffered r hfirst with hold | hentry
        · exact Or.inl hold
        · exact Or.inr ⟨[], _, _, calls, doc, rfl, hoffered, hmoved.verified, hentry⟩
    · exact Or.inr ⟨call :: before, now, later, after, doc, rfl, hlater⟩

/-- The sample consensus, with an entry. -/
def sampleListing : ConsensusDocument :=
  { sampleDocument goodTail with
    routerStatusEntries := [{ nickname := some (lit "relay"), identity := some sampleIdentity
                              address := some ⟨0⟩, flags := [lit "Running", lit "Valid"] }] }

theorem routers_verified_sample :
    ∃ r, Introduced Platform.checksum (create sampleServers)
      [(5, .addConsensusDocument sampleListing false)] r := by
  have hlisted : (afterCalls Platform.checksum (create sampleServers)
      [(5, .addConsensusDocument sampleListing false)]).routers.objects.length = 1 := by
    decide +kernel
  obtain ⟨r, hr⟩ := List.exists_mem_of_length_pos (hlisted.symm ▸ Nat.one_pos)
  exact ⟨r, (routers_verified Platform.checksum _ _ r hr).resolve_left List.not_mem_nil⟩

end DirectoryImpl

end Orchid
