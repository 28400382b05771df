import Orchid.Socks.StreamConnection

/-!
# Orchid — the end of a transfer

How the threads of a transfer end it, as long as the Tor side ends by END cells.

* `Kept`: what waiting for windows and closing the output stream leave alone.
* `Invariant`: a stream is closed, and the copying to the client ends, only if the client sees the
  end or the copying from it is over. **`Invariant.step`**.
* `rank`: every turn of a thread lowers it, so that the threads come to rest by themselves.
* **`transfer_torn_down`**: in every orderly run, once the Tor side has ended the threads come to
  rest with the client seeing the end; and when the calling thread has returned, everything is
  closed and no thread is left.
-/

namespace Orchid

open RelayCell Transfer TorInputStream

namespace Transfer

/-- The thread copies nothing more from the client. -/
def outgoingOver : OutgoingAt → Bool
  | .finishing | .done => true
  | _ => false

def incomingOver : IncomingAt → Bool
  | .closing | .finishing | .done => true
  | _ => false

/-- The client sees the end, or its own end is known. -/
def Settled (s : Transfer) : Prop := s.SeesEnd ∨ outgoingOver s.outgoing = true

/-- How far the calling thread has come. -/
def SupervisorOk (s : Transfer) : Prop :=
  match s.supervisor with
  | .waiting => True
  | .closingSocket => s.outgoingClosed = true ∧ s.incomingClosed = true
  | .closingInput =>
    (s.outgoingClosed = true ∧ s.incomingClosed = true) ∧ s.socket.isClosed = true
  | .closingStream | .closingOutput =>
    (s.outgoingClosed = true ∧ s.incomingClosed = true) ∧ s.socket.isClosed = true ∧
      s.stream.isClosed = true
  | .returned =>
    (s.outgoingClosed = true ∧ s.incomingClosed = true) ∧ s.socket.isClosed = true ∧
      s.stream.isClosed = true ∧ s.stream.outputStream.isClosed = true

variable {s s' : Transfer}

/-- What the calling thread relies on is not undone. -/
theorem SupervisorOk.mono (h : s.SupervisorOk) (hsupervisor : s'.supervisor = s.supervisor)
    (houtgoing : s.outgoingClosed = true → s'.outgoingClosed = true)
    (hincoming : s.incomingClosed = true → s'.incomingClosed = true)
    (hsocket : s.socket.isClosed = true → s'.socket.isClosed = true)
    (hstream : s.stream.isClosed = true → s'.stream.isClosed = true)
    (houtput : s.stream.outputStream.isClosed = true → s'.stream.outputStream.isClosed = true) :
    s'.SupervisorOk := by
  unfold SupervisorOk at h ⊢
  rw [hsupervisor]
  cases hat : s.supervisor with rw [hat] at h
  | waiting => trivial
  | closingSocket => exact ⟨houtgoing h.1, hincoming h.2⟩
  | closingInput => exact ⟨⟨houtgoing h.1.1, hincoming h.1.2⟩, hsocket h.2⟩
  | closingStream | closingOutput =>
    exact ⟨⟨houtgoing h.1.1, hincoming h.1.2⟩, hsocket h.2.1, hstream h.2.2⟩
  | returned =>
    exact ⟨⟨houtgoing h.1.1, hincoming h.1.2⟩, hsocket h.2.1, hstream h.2.2.1, houtput h.2.2.2⟩

/-- The invariant; `p` is what it is worth knowing that the Tor side has ended, which does not
change any more. -/
structure Invariant (p : Prop) (s : Transfer) : Prop where
  ended : p → s.TorEnded
  together : s.stream.inputStream.isClosed = s.stream.isClosed
  closed : s.stream.isClosed = true → s.Settled
  link : s.linkOpen = false → s.Settled
  copied : incomingOver s.incoming = true → s.Settled
  closing : s.incoming = .closing → s.SeesEnd
  expected : s.stream.isClosed = false → ∀ x ∈ s.stream.inputStream.incomingCells, x.Expected
  ending : s.stream.isClosed = false → s.stream.relayEndReceived = true →
    s.stream.inputStream.Ending
  incomingFlag : s.incomingClosed = true ↔ s.incoming = .done
  outgoingFlag : s.outgoingClosed = true ↔ s.outgoing = .done
  uninterrupted : s.interrupted = true → s.outgoingClosed = true ∧ s.incomingClosed = true
  supervisorOk : s.SupervisorOk

theorem invariant_start (streamId targetNode : Nat) (autoclose : Bool) (nodeWindow : Int) :
    Invariant False (start streamId targetNode autoclose nodeWindow) where
  ended := False.elim
  together := rfl
  closed h := nomatch h
  link h := nomatch h
  copied h := nomatch h
  closing h := nomatch h
  expected _ _ hx := nomatch hx
  ending _ h := nomatch h
  incomingFlag := ⟨nofun, nofun⟩
  outgoingFlag := ⟨nofun, nofun⟩
  uninterrupted h := nomatch h
  supervisorOk := trivial

/-! ## Waiting and closing -/

/-- What waiting for windows and closing the output stream leave alone. -/
structure Kept (s s' : Transfer) : Prop where
  socket : s'.socket = s.socket
  linkOpen : s'.linkOpen = s.linkOpen
  circuitCloses : s'.circuitCloses = s.circuitCloses
  incoming : s'.incoming = s.incoming
  outgoing : s'.outgoing = s.outgoing
  incomingClosed : s'.incomingClosed = s.incomingClosed
  outgoingClosed : s'.outgoingClosed = s.outgoingClosed
  interrupted : s'.interrupted = s.interrupted
  supervisor : s'.supervisor = s.supervisor
  inputStream : s'.stream.inputStream = s.stream.inputStream
  isClosed : s'.stream.isClosed = s.stream.isClosed
  relayEndReceived : s'.stream.relayEndReceived = s.stream.relayEndReceived
  outputClosed : s.stream.outputStream.isClosed = true → s'.stream.outputStream.isClosed = true

theorem Kept.refl (s : Transfer) : Kept s s :=
  ⟨rfl, rfl, rfl, rfl, rfl, rfl, rfl, rfl, rfl, rfl, rfl, rfl, id⟩

theorem kept_takeWindows (h : s.takeWindows = some s') : Kept s s' := by
  unfold takeWindows at h
  split at h
  · cases h
  · cases h
    exact ⟨rfl, rfl, rfl, rfl, rfl, rfl, rfl, rfl, rfl, rfl, rfl, rfl, id⟩

/-- A cell that is sent leaves its traces. -/
theorem kept_sent (s : Transfer) (pending isDestroyed : Bool) :
    Kept s { s with pending := pending, isDestroyed := isDestroyed } :=
  ⟨rfl, rfl, rfl, rfl, rfl, rfl, rfl, rfl, rfl, rfl, rfl, rfl, id⟩

theorem kept_setOutputClosed (s : Transfer) : Kept s (setOutputClosed s) :=
  ⟨rfl, rfl, rfl, rfl, rfl, rfl, rfl, rfl, rfl, rfl, rfl, rfl, fun _ => rfl⟩

theorem Kept.trans {s'' : Transfer} (h : Kept s s') (h' : Kept s' s'') : Kept s s'' := by
  cases h
  cases h'
  constructor <;> simp_all

section CloseStart

variable (s : Transfer)

/-- Only the stream is touched. -/
theorem closeStart_frame {α : Type} (f : Transfer → α)
    (hf : ∀ stream, f { s with stream := stream } = f s := by intro; rfl) :
    f s.closeStart = f s := by
  unfold closeStart
  split
  · rfl
  · exact hf _

@[simp] theorem closeStart_socket : s.closeStart.socket = s.socket :=
  s.closeStart_frame socket

@[simp] theorem closeStart_incoming : s.closeStart.incoming = s.incoming :=
  s.closeStart_frame incoming

@[simp] theorem closeStart_outgoing : s.closeStart.outgoing = s.outgoing :=
  s.closeStart_frame outgoing

@[simp] theorem closeStart_supervisor : s.closeStart.supervisor = s.supervisor :=
  s.closeStart_frame supervisor

@[simp] theorem closeStart_incomingClosed : s.closeStart.incomingClosed = s.incomingClosed :=
  s.closeStart_frame incomingClosed

@[simp] theorem closeStart_outgoingClosed : s.closeStart.outgoingClosed = s.outgoingClosed :=
  s.closeStart_frame outgoingClosed

@[simp] theorem closeStart_circuitCloses : s.closeStart.circuitCloses = s.circuitCloses :=
  s.closeStart_frame circuitCloses

@[simp] theorem closeStart_unread :
    s.closeStart.stream.inputStream.unread = s.stream.inputStream.unread := by
  unfold closeStart
  split
  · rfl
  · exact close_unread _

@[simp] theorem closeStart_outputStream :
    s.closeStart.stream.outputStream = s.stream.outputStream := by
  unfold closeStart
  split <;> rfl

theorem closeStart_isClosed : s.closeStart.stream.isClosed = true := by
  unfold closeStart
  split
  · rename_i hclosed
    exact hclosed
  · rfl

/-- The stream is closed the same way whatever the thread does next. -/
theorem closeStart_setOutgoing (at' : OutgoingAt) :
    ({ s with outgoing := at' } : Transfer).closeStart = { s.closeStart with outgoing := at' } := by
  unfold closeStart
  split <;> rfl

theorem closeStart_settled : s.closeStart.Settled ↔ s.Settled := by
  unfold Settled SeesEnd
  rw [closeStart_socket, closeStart_outgoing]

end CloseStart

/-- Closing the output stream closes it, and keeps the rest. -/
theorem closeOutput_some (h : s.closeOutput = some s') :
    Kept s s' ∧ s'.stream.outputStream.isClosed = true := by
  unfold closeOutput at h
  split at h
  · cases h
  · split at h
    · rename_i hclosed
      cases h
      exact ⟨Kept.refl s, hclosed⟩
    · split at h
      · obtain ⟨s₁, htake, rfl⟩ := Option.map_eq_some_iff.mp h
        have hkept := (kept_takeWindows htake).trans (kept_setOutputClosed s₁)
        exact ⟨{ hkept with }, rfl⟩
      · cases h
        exact ⟨kept_setOutputClosed s, rfl⟩

/-! ## The threads come to rest -/

/-- A bound on the turns of the thread that copies to the client. -/
def incomingRank (unread : Nat) : IncomingAt → Nat
  | .reading => 3 * unread + 5
  | .writing _ => 3 * unread + 6
  | .shuttingDown => 4
  | .closing => 2
  | .finishing => 1
  | .done => 0

/-- A bound on the turns of the thread that copies from the client, who has sent `waiting` bytes. -/
def outgoingRank (waiting : Nat) : OutgoingAt → Nat
  | .awaitingStream => 20 * waiting + 5
  | .awaitingNode => 20 * waiting + 4
  | .reading => 20 * waiting + 3
  | .checking n => 20 * waiting + 4 * n + 10
  | .writing cells _ => 20 * waiting + 4 * cells + 9
  | .destroying cells _ => 20 * waiting + 4 * cells + 11
  | .flushing => 20 * waiting + 8
  | .destroyingInFlush => 20 * waiting + 7
  | .closing => 2
  | .finishing => 1
  | .done => 0

def supervisorRank : SupervisorAt → Nat
  | .waiting => 5
  | .closingSocket => 4
  | .closingInput => 3
  | .closingStream => 2
  | .closingOutput => 1
  | .returned => 0

/-- A bound on the turns of all threads, if nothing comes from outside. -/
def rank (s : Transfer) : Nat :=
  incomingRank s.stream.inputStream.unread s.incoming +
    outgoingRank s.socket.input.length s.outgoing + supervisorRank s.supervisor +
    if s.circuitCloses then 1 else 0

theorem Kept.rank (h : Kept s s') : s'.rank = s.rank := by
  unfold Transfer.rank
  rw [h.inputStream, h.incoming, h.socket, h.outgoing, h.supervisor, h.circuitCloses]

theorem closeStart_rank (s : Transfer) : s.closeStart.rank = s.rank := by
  simp [rank]

/-- A turn keeps the invariant, and lowers the rank. -/
def Progress (p : Prop) (s s' : Transfer) : Prop := Invariant p s' ∧ s'.rank < s.rank

theorem Progress.of_kept {p : Prop} {s₁ : Transfer} (hkept : Kept s s₁) (h : Progress p s₁ s') :
    Progress p s s' := by
  refine ⟨h.1, ?_⟩
  rw [← hkept.rank]
  exact h.2

namespace Invariant

variable {p : Prop} {s s' : Transfer} (h : Invariant p s)
include h

theorem kept (hkept : Kept s s') : Invariant p s' := by
  -- apart from what `Kept` does not speak of, the two states are one
  obtain ⟨_, ⟨⟩⟩ := s
  obtain ⟨_, ⟨⟩⟩ := s'
  obtain ⟨⟨⟩, ⟨⟩, ⟨⟩, ⟨⟩, ⟨⟩, ⟨⟩, ⟨⟩, ⟨⟩, ⟨⟩, ⟨⟩, ⟨⟩, ⟨⟩, houtput⟩ := hkept
  exact { h with supervisorOk := h.supervisorOk.mono rfl id id id id houtput }

/-- The first part of closing the stream, once the client sees the end or its own end is known. -/
theorem closeStart (hsettled : s.Settled) : Invariant p s.closeStart := by
  unfold Transfer.closeStart
  split
  · exact h
  · rename_i hopen
    have hinput : s.stream.inputStream.close.isClosed = true := by
      unfold close
      split
      · rename_i hclosed
        exact hclosed
      · rfl
    exact { h with
      ended := fun _ => Or.inr rfl
      together := hinput
      closed := fun _ => hsettled
      expected := nofun
      ending := nofun
      supervisorOk := h.supervisorOk.mono rfl id id id (fun _ => rfl) id }

theorem setIncoming {at' : IncomingAt} (hbefore : s.incoming ≠ .done)
    (hafter : at' ≠ .done) (hclosing : at' ≠ .closing)
    (hover : incomingOver at' = true → s.Settled) : Invariant p { s with incoming := at' } :=
  { h with
    copied := hover
    closing := fun hat => absurd hat hclosing
    incomingFlag := ⟨fun hflag => absurd (h.incomingFlag.mp hflag) hbefore,
      fun hdone => absurd hdone hafter⟩ }

theorem setOutgoing {at' : OutgoingAt} (hbefore : outgoingOver s.outgoing = false)
    (hafter : at' ≠ .done) : Invariant p { s with outgoing := at' } := by
  have hsettled : s.Settled → ({ s with outgoing := at' } : Transfer).Settled := by
    rintro (hsees | hover)
    · exact Or.inl hsees
    · exact absurd (hbefore.symm.trans hover) Bool.false_ne_true
  have hrunning : s.outgoingClosed ≠ true := by
    intro hflag
    rw [h.outgoingFlag.mp hflag] at hbefore
    cases hbefore
  exact { h with
    closed := fun hclosed => hsettled (h.closed hclosed)
    link := fun hlink => hsettled (h.link hlink)
    copied := fun hover => hsettled (h.copied hover)
    outgoingFlag := ⟨fun hflag => absurd hflag hrunning, fun hdone => absurd hdone hafter⟩ }

/-- A socket on which the client sees the end goes on to show it. -/
theorem setSocket (socket : ClientSocket)
    (hsees : s.SeesEnd → ({ s with socket := socket } : Transfer).SeesEnd)
    (hclosed : s.socket.isClosed = true → socket.isClosed = true) :
    Invariant p { s with socket := socket } := by
  have hsettled : s.Settled → ({ s with socket := socket } : Transfer).Settled := by
    rintro (hsees' | hover)
    · exact Or.inl (hsees hsees')
    · exact Or.inr hover
  exact { h with
    closed := fun hclosed => hsettled (h.closed hclosed)
    link := fun hlink => hsettled (h.link hlink)
    copied := fun hover => hsettled (h.copied hover)
    closing := fun hat => hsees (h.closing hat)
    supervisorOk := h.supervisorOk.mono rfl id id hclosed id id }

/-- Reading moves the input stream on. -/
theorem setInput {input : TorInputStream} (hreads : ReadsOn s.stream.inputStream input) :
    Invariant p { s with stream := { s.stream with inputStream := input } } :=
  { h with
    together := hreads.isClosed.trans h.together
    expected := fun hopen => hreads.expected (h.expected hopen)
    ending := fun hopen hreceived => hreads.ending (h.ending hopen hreceived) }

/-! ## The turns -/

/-- The thread that copies to the client goes on. -/
theorem incomingGoes {before after : IncomingAt} (hat : s.incoming = before)
    (hover : incomingOver after = true → s.Settled)
    (hrank : ∀ n, incomingRank n after < incomingRank n before := by simp [incomingRank])
    (hafter : after ≠ .done := by decide) (hclosing : after ≠ .closing := by decide) :
    Progress p s { s with incoming := after } := by
  refine ⟨h.setIncoming ?_ hafter hclosing hover, ?_⟩
  · intro hdone
    have hless := hrank 0
    rw [← hat, hdone] at hless
    exact absurd hless (Nat.not_lt_zero _)
  · have hless := hrank s.stream.inputStream.unread
    simp only [rank, hat]
    omega

theorem incomingTurn (hturn : s.incomingTurn = some s') : Progress p s s' := by
  unfold Transfer.incomingTurn at hturn
  cases hat : s.incoming with simp only [hat] at hturn
  | reading =>
    have hbefore : s.incoming ≠ .done := by
      rw [hat]
      decide
    cases hclosed : s.stream.isClosed with
    | true =>
      -- the stream was closed, and so the end is settled
      rw [read_closed (h.together.trans hclosed)] at hturn
      cases hturn
      exact h.incomingGoes hat fun _ => h.closed hclosed
    | false =>
      rcases read_open (h.together.trans hclosed) (h.expected hclosed)
          TRANSFER_BUFFER_SIZE (by decide) with
        ⟨input, hread, hreads⟩ | ⟨data, input, hread, hreads, hless⟩ | ⟨input, hread, -⟩
      · rw [hread] at hturn
        cases hturn
        refine ⟨(h.setInput hreads).setIncoming hbefore (by decide) (by decide) nofun, ?_⟩
        simp [rank, incomingRank, hat]
      · -- what was read is written next, unless it is nothing
        rw [hread] at hturn
        cases hturn
        by_cases hnone : data.isEmpty = true
        · rw [if_pos hnone]
          refine ⟨(h.setInput hreads).setIncoming hbefore (by decide) (by decide) nofun, ?_⟩
          simp only [rank, hat, incomingRank]
          omega
        · rw [if_neg hnone]
          refine ⟨(h.setInput hreads).setIncoming hbefore nofun nofun nofun, ?_⟩
          simp only [rank, hat, incomingRank]
          omega
      · rw [hread] at hturn
        cases hturn
  | writing data =>
    split at hturn
    · rename_i hshut
      have hsettled : s.Settled := Or.inl (Or.inl hshut)
      split at hturn
      · cases hturn
        exact h.incomingGoes hat fun _ => hsettled
      · cases hturn
        refine ⟨{ h.closeStart hsettled with
          copied := fun _ => (closeStart_settled s).mpr hsettled
          closing := fun _ => Or.inl ?_
          incomingFlag := ⟨fun hflag => ?_, nofun⟩ }, ?_⟩
        · rw [closeStart_socket]
          exact hshut
        · rw [closeStart_incomingClosed] at hflag
          rw [h.incomingFlag.mp hflag] at hat
          cases hat
        · rw [← closeStart_rank s]
          simp only [rank, hat, incomingRank, closeStart_incoming]
          omega
    · split at hturn
      · rename_i hbroken
        cases hturn
        exact h.incomingGoes hat fun _ => Or.inl (Or.inr (Bool.or_eq_true_iff.mp hbroken))
      · cases hturn
        exact (h.setSocket { s.socket with output := s.socket.output ++ data } id id).incomingGoes
          hat nofun
  | shuttingDown =>
    split at hturn
    · rename_i hended
      cases hturn
      refine h.incomingGoes hat fun _ => Or.inl ?_
      rcases Bool.or_eq_true_iff.mp hended with hbroken | hshut
      · exact Or.inr (Bool.or_eq_true_iff.mp hbroken)
      · exact Or.inl hshut
    · cases hturn
      exact (h.setSocket { s.socket with isOutputShutdown := true }
        (fun _ => Or.inl rfl) id).incomingGoes hat fun _ => Or.inl (Or.inl rfl)
  | closing =>
    obtain ⟨s₁, hclose, rfl⟩ := Option.map_eq_some_iff.mp hturn
    obtain ⟨hkept, -⟩ := closeOutput_some hclose
    refine Progress.of_kept hkept
      ((h.kept hkept).incomingGoes (hkept.incoming.trans hat) fun _ => ?_)
    exact (h.kept hkept).copied (by rw [hkept.incoming, hat]; rfl)
  | finishing =>
    cases hturn
    refine ⟨{ h with
      copied := fun _ => h.copied (by rw [hat]; rfl)
      closing := nofun
      incomingFlag := ⟨fun _ => rfl, fun _ => rfl⟩
      uninterrupted := fun hinterrupted => ⟨(h.uninterrupted hinterrupted).1, rfl⟩
      supervisorOk := h.supervisorOk.mono rfl id (fun _ => rfl) id id id }, ?_⟩
    simp [rank, hat, incomingRank]
  | done =>
    cases hturn

theorem settled_of_losesLink (hloses : s.losesLink = true) : s.Settled := by
  unfold losesLink at hloses
  rw [Bool.and_eq_true, Bool.not_eq_true'] at hloses
  exact h.link hloses.1

/-- The thread that copies from the client goes on. -/
theorem outgoingGoes {before after : OutgoingAt} (hat : s.outgoing = before)
    (hbefore : outgoingOver before = false := by rfl) (hafter : after ≠ .done := by simp)
    (hrank : ∀ n, outgoingRank n after < outgoingRank n before := by
      intro; simp only [outgoingRank]; omega) :
    Progress p s { s with outgoing := after } := by
  refine ⟨h.setOutgoing ?_ hafter, ?_⟩
  · rw [hat]
    exact hbefore
  · have hless := hrank s.socket.input.length
    simp only [rank, hat]
    omega

/-- A cell that finds the link closed destroys the circuit, once the end is settled. -/
theorem outgoingDestroys (hloses : s.losesLink = true)
    {before after : OutgoingAt} (hat : s.outgoing = before)
    (hbefore : outgoingOver before = false := by rfl) (hafter : after ≠ .done := by simp)
    (hrank : ∀ n, outgoingRank n after < outgoingRank n before := by
      intro; simp only [outgoingRank]; omega) :
    Progress p s { s.closeStart with isDestroyed := true, outgoing := after } := by
  have hclosed : Invariant p { s.closeStart with isDestroyed := true } :=
    { h.closeStart (h.settled_of_losesLink hloses) with }
  have hgoes := hclosed.outgoingGoes ((closeStart_outgoing s).trans hat) hbefore hafter hrank
  refine ⟨hgoes.1, ?_⟩
  rw [← closeStart_rank s]
  exact hgoes.2

theorem outgoingTurn (hturn : s.outgoingTurn = some s') : Progress p s s' := by
  unfold Transfer.outgoingTurn at hturn
  cases hat : s.outgoing with simp only [hat] at hturn
  | awaitingStream | awaitingNode =>
    split at hturn
    · cases hturn
    · cases hturn
      exact h.outgoingGoes hat
  | reading =>
    split at hturn
    · cases hturn
      exact h.outgoingGoes hat
    · split at hturn
      · split at hturn
        · cases hturn
          exact h.outgoingGoes hat
        · cases hturn
      · -- at least one byte is taken
        rename_i hsome
        cases hturn
        have hread := h.setSocket
          { s.socket with input := s.socket.input.drop TRANSFER_BUFFER_SIZE } id id
        refine ⟨hread.setOutgoing (congrArg outgoingOver hat) nofun, ?_⟩
        have hpositive : 0 < s.socket.input.length := by
          rw [List.isEmpty_iff] at hsome
          exact List.length_pos_of_ne_nil hsome
        simp only [rank, hat, outgoingRank, List.length_drop, List.length_take,
          TRANSFER_BUFFER_SIZE]
        omega
  | checking n =>
    split at hturn
    · cases hturn
      exact h.outgoingGoes hat
    · cases hturn
      have hcells : n / CELL_DATA_LEN ≤ n := Nat.div_le_self _ _
      refine h.outgoingGoes hat rfl nofun fun _ => ?_
      simp only [outgoingRank]
      omega
  | writing cells rest =>
    cases cells with
    | zero =>
      cases hturn
      have hkept := kept_sent s rest s.isDestroyed
      exact Progress.of_kept hkept ((h.kept hkept).outgoingGoes hat)
    | succ cells =>
      obtain ⟨s₁, htake, rfl⟩ := Option.map_eq_some_iff.mp hturn
      have hkept := kept_takeWindows htake
      have hat₁ := hkept.outgoing.trans hat
      refine Progress.of_kept hkept ?_
      split
      · rename_i hloses
        split
        · have hsent := kept_sent s₁ s₁.pending true
          exact Progress.of_kept hsent (((h.kept hkept).kept hsent).outgoingGoes hat₁)
        · exact (h.kept hkept).outgoingDestroys hloses hat₁
      · exact (h.kept hkept).outgoingGoes hat₁
  | destroying cells rest | destroyingInFlush =>
    obtain ⟨s₁, htake, rfl⟩ := Option.map_eq_some_iff.mp hturn
    have hkept := (kept_takeWindows htake).trans (kept_setOutputClosed s₁)
    exact Progress.of_kept hkept ((h.kept hkept).outgoingGoes (hkept.outgoing.trans hat))
  | flushing =>
    split at hturn
    · cases hturn
      exact h.outgoingGoes hat
    · split at hturn
      · obtain ⟨s₁, htake, rfl⟩ := Option.map_eq_some_iff.mp hturn
        have hkept := kept_takeWindows htake
        have hat₁ := hkept.outgoing.trans hat
        refine Progress.of_kept hkept ?_
        split
        · rename_i hloses
          split
          · have hsent := kept_sent s₁ false true
            exact Progress.of_kept hsent (((h.kept hkept).kept hsent).outgoingGoes hat₁)
          · exact (h.kept hkept).outgoingDestroys hloses hat₁
        · have hsent := kept_sent s₁ false s₁.isDestroyed
          exact Progress.of_kept hsent (((h.kept hkept).kept hsent).outgoingGoes hat₁)
      · cases hturn
        exact h.outgoingGoes hat
  | closing =>
    obtain ⟨s₁, hclose, rfl⟩ := Option.map_eq_some_iff.mp hturn
    obtain ⟨hkept, -⟩ := closeOutput_some hclose
    have hgoes : Progress p s₁ { s₁ with outgoing := .finishing } :=
      (h.kept hkept).outgoingGoes (hkept.outgoing.trans hat)
    refine Progress.of_kept hkept ?_
    rw [← closeStart_setOutgoing]
    refine ⟨hgoes.1.closeStart (Or.inr rfl), ?_⟩
    rw [closeStart_rank]
    exact hgoes.2
  | finishing =>
    cases hturn
    have hsettled : ({ s with outgoingClosed := true, outgoing := .done } : Transfer).Settled :=
      Or.inr rfl
    refine ⟨{ h with
      closed := fun _ => hsettled
      link := fun _ => hsettled
      copied := fun _ => hsettled
      outgoingFlag := ⟨fun _ => rfl, fun _ => rfl⟩
      uninterrupted := fun hinterrupted => ⟨rfl, (h.uninterrupted hinterrupted).2⟩
      supervisorOk := h.supervisorOk.mono rfl (fun _ => rfl) id id id id }, ?_⟩
    simp [rank, hat, outgoingRank]
  | done =>
    cases hturn

theorem supervisorTurn (hturn : s.supervisorTurn = some s') : Progress p s s' := by
  have hok := h.supervisorOk
  unfold Transfer.supervisorTurn at hturn
  unfold SupervisorOk at hok
  cases hat : s.supervisor with simp only [hat] at hturn hok
  | waiting =>
    split at hturn
    · rename_i hboth
      cases hturn
      refine ⟨{ h with supervisorOk := Bool.and_eq_true_iff.mp hboth }, ?_⟩
      simp [rank, hat, supervisorRank]
    · rename_i hnot
      split at hturn
      · -- the thread is interrupted only when both flags are set
        rename_i hinterrupted
        exact absurd (Bool.and_eq_true_iff.mpr (h.uninterrupted hinterrupted)) hnot
      · cases hturn
  | closingSocket =>
    cases hturn
    have hclosed := h.setSocket { s.socket with isClosed := true } (fun _ => Or.inr (Or.inl rfl))
      fun _ => rfl
    refine ⟨{ hclosed with supervisorOk := ⟨hok, rfl⟩ }, ?_⟩
    simp [rank, hat, supervisorRank]
  | closingInput =>
    split at hturn
    · rename_i hclosed
      cases hturn
      refine ⟨{ h with supervisorOk := ⟨hok.1, hok.2, hclosed⟩ }, ?_⟩
      simp [rank, hat, supervisorRank]
    · cases hturn
      have hsettled : s.Settled := Or.inl (Or.inr (Or.inl hok.2))
      refine ⟨{ h.closeStart hsettled with supervisorOk := ⟨?_, ?_, closeStart_isClosed s⟩ }, ?_⟩
      · rw [closeStart_outgoingClosed, closeStart_incomingClosed]
        exact hok.1
      · rw [closeStart_socket]
        exact hok.2
      · simp [rank, hat, supervisorRank]
  | closingStream =>
    obtain ⟨s₁, hclose, rfl⟩ := Option.map_eq_some_iff.mp hturn
    obtain ⟨hkept, -⟩ := closeOutput_some hclose
    refine Progress.of_kept hkept ⟨{ h.kept hkept with supervisorOk := ⟨?_, ?_, ?_⟩ }, ?_⟩
    · rw [hkept.outgoingClosed, hkept.incomingClosed]
      exact hok.1
    · rw [hkept.socket]
      exact hok.2.1
    · rw [hkept.isClosed]
      exact hok.2.2
    · simp [rank, hkept.supervisor, hat, supervisorRank]
  | closingOutput =>
    obtain ⟨s₁, hclose, rfl⟩ := Option.map_eq_some_iff.mp hturn
    obtain ⟨hkept, houtput⟩ := closeOutput_some hclose
    have hsettled : s₁.Settled := by
      refine Or.inl (Or.inr (Or.inl ?_))
      rw [hkept.socket]
      exact hok.2.1
    refine Progress.of_kept hkept ⟨{ (h.kept hkept).closeStart hsettled with
      supervisorOk := ⟨?_, ?_, closeStart_isClosed s₁, ?_⟩ }, ?_⟩
    · rw [closeStart_outgoingClosed, closeStart_incomingClosed, hkept.outgoingClosed,
        hkept.incomingClosed]
      exact hok.1
    · rw [closeStart_socket, hkept.socket]
      exact hok.2.1
    · rw [closeStart_outputStream]
      exact houtput
    · simp [rank, hkept.supervisor, hat, supervisorRank]
  | returned =>
    cases hturn

theorem circuitTurn (hturn : s.circuitTurn = some s') : Progress p s s' := by
  unfold Transfer.circuitTurn at hturn
  split at hturn
  · rename_i hcloses
    obtain ⟨s₁, hclose, rfl⟩ := Option.map_eq_some_iff.mp hturn
    have hkept := (closeOutput_some hclose).1
    refine Progress.of_kept hkept ⟨{ h.kept hkept with }, ?_⟩
    simp [rank, hkept.circuitCloses, hcloses]
  · cases hturn

/-- **Every turn of a thread keeps the invariant and lowers the rank.** -/
theorem turn {thread : TransferThread} (hturn : s.turn thread = some s') : Progress p s s' := by
  cases thread with
  | incoming => exact h.incomingTurn hturn
  | outgoing => exact h.outgoingTurn hturn
  | supervisor => exact h.supervisorTurn hturn
  | circuit => exact h.circuitTurn hturn

/-! ## What comes from outside -/

/-- An open stream takes a cell that is expected. -/
theorem queueCell (hopen : s.stream.isClosed = false) {stream : StreamImpl}
    {x : Incoming} (hx : x.Expected)
    (hqueue : stream.inputStream.incomingCells = s.stream.inputStream.incomingCells ++ [x])
    (hinput : stream.inputStream.isClosed = false ∧
      stream.inputStream.isEOF = s.stream.inputStream.isEOF)
    (hclosed : stream.isClosed = false) (houtput : stream.outputStream = s.stream.outputStream)
    (hend : stream.relayEndReceived = true → s.stream.relayEndReceived = true ∨ EndIn [x])
    (hreceived : s.stream.relayEndReceived = true → stream.relayEndReceived = true) :
    Invariant p { s with stream := stream } := by
  refine { h with
    ended := fun hp => Or.inl (hreceived ((h.ended hp).resolve_right fun hc =>
      Bool.false_ne_true (hopen.symm.trans hc)))
    together := hinput.1.trans hclosed.symm
    closed := fun hc => absurd (hclosed.symm.trans hc) Bool.false_ne_true
    expected := ?_
    ending := ?_
    supervisorOk := h.supervisorOk.mono rfl id id id
      (fun hc => absurd (hopen.symm.trans hc) Bool.false_ne_true) ?_ }
  · intro _ y hy
    rw [hqueue] at hy
    rcases List.mem_append.mp hy with hy | hy
    · exact h.expected hopen y hy
    · rw [List.mem_singleton.mp hy]
      exact hx
  · intro _ hreceived
    rcases hend hreceived with hreceived | ⟨cell, hmem, hcommand⟩
    · rcases h.ending hopen hreceived with heof | ⟨cell, hmem, hcommand⟩
      · exact Or.inl (hinput.2.trans heof)
      · refine Or.inr ⟨cell, ?_, hcommand⟩
        rw [hqueue]
        exact List.mem_append_left _ hmem
    · refine Or.inr ⟨cell, ?_, hcommand⟩
      rw [hqueue]
      exact List.mem_append_right _ hmem
  · rw [houtput]
    exact id

theorem addInputCell {cell : RelayCell} (hcell : IsStreamCell cell) :
    Invariant p (s.addInputCell cell) := by
  unfold Transfer.addInputCell
  split
  · exact h
  · rename_i hopen
    have hopen := Bool.not_eq_true _ |>.mp hopen
    have hinput : s.stream.inputStream.isClosed = false := h.together.trans hopen
    split
    · rename_i stream happly
      unfold StreamImpl.applyCell at happly
      split at happly
      · -- an END cell
        rename_i hend
        split at happly
        · cases happly
        · cases happly
          refine h.queueCell hopen ⟨cell, rfl, Or.inr hend⟩ ?_ ?_ hopen rfl
            (fun _ => Or.inr ⟨cell, List.mem_singleton_self _, hend⟩) fun _ => rfl
          · simp [addEndCell, hinput]
          · simp [addEndCell, hinput]
      · rename_i hnoend
        split at happly
        · cases happly
          exact { h with }
        · rename_i hnoconnected
          split at happly
          · cases happly
            exact { h with }
          · rename_i hnosendme
            cases happly
            have hdata : cell.relayCommand = RELAY_DATA :=
              hcell.resolve_right fun hother => hother.elim hnoend fun hother =>
                hother.elim hnoconnected hnosendme
            refine h.queueCell hopen ⟨cell, rfl, Or.inl hdata⟩ ?_ ?_ hopen rfl Or.inl id
            · simp [TorInputStream.addInputCell, hinput]
            · simp [TorInputStream.addInputCell, hinput]
    · exact h

theorem destroyCircuit (hsettled : s.Settled) : Invariant p s.destroyCircuit := by
  unfold Transfer.destroyCircuit
  split
  · exact h
  · split
    · exact { h with }
    · exact { h.closeStart hsettled with }

/-- What is allowed to end the Tor side is settled. -/
theorem settled_of_orderly (horderly : s.SeesEnd ∨ s.stream.isClosed = true) :
    s.Settled :=
  horderly.elim Or.inl h.closed

theorem step {e : TransferEvent} (horderly : s.Orderly e)
    (hstep : s.step e = some s') : Invariant p s' := by
  cases e with
  | turn thread => exact (h.turn hstep).1
  | clientSends data =>
    unfold Transfer.step at hstep
    dsimp only at hstep
    split at hstep
    · cases hstep
    · cases hstep
      exact h.setSocket { s.socket with input := s.socket.input ++ data } id id
  | clientEnds =>
    cases hstep
    exact h.setSocket { s.socket with inputEnded := true } id id
  | clientResets =>
    cases hstep
    exact h.setSocket { s.socket with isReset := true } (fun _ => Or.inr (Or.inr rfl)) id
  | cellArrives cell =>
    unfold Transfer.step at hstep
    dsimp only at hstep
    split at hstep
    · rename_i hcell
      cases hstep
      exact h.addInputCell hcell
    · cases hstep
  | nodeWindowChanges window =>
    cases hstep
    exact { h with }
  | linkCloses =>
    cases hstep
    exact { h with link := fun _ => h.settled_of_orderly horderly }
  | circuitDestroyed =>
    cases hstep
    exact h.destroyCircuit (h.settled_of_orderly horderly)
  | interrupted =>
    cases hstep
    exact { h with uninterrupted := fun _ => horderly }

/-! ## At rest -/

/-- The thread that copies to the client does not wait once the Tor side has ended. -/
theorem incoming_of_atRest (hended : s.TorEnded) (hrest : s.AtRest) :
    s.SeesEnd ∨ s.incoming = .done := by
  have hturn : s.incomingTurn = none := hrest .incoming
  unfold Transfer.incomingTurn at hturn
  cases hat : s.incoming with simp only [hat] at hturn
  | reading =>
    cases hclosed : s.stream.isClosed with
    | true =>
      rw [read_closed (h.together.trans hclosed)] at hturn
      cases hturn
    | false =>
      have hreceived : s.stream.relayEndReceived = true :=
        hended.resolve_right fun hc => Bool.false_ne_true (hclosed.symm.trans hc)
      have hending := h.ending hclosed hreceived
      rcases read_open (h.together.trans hclosed) (h.expected hclosed)
          TRANSFER_BUFFER_SIZE (by decide) with
        ⟨input, hread, -⟩ | ⟨data, input, hread, -⟩ | ⟨input, -, hmore⟩
      · rw [hread] at hturn
        cases hturn
      · rw [hread] at hturn
        cases hturn
      · exact absurd hending hmore
  | writing data =>
    split at hturn
    · rename_i hshut
      exact Or.inl (Or.inl hshut)
    · split at hturn
      · cases hturn
      · cases hturn
  | shuttingDown =>
    split at hturn
    · cases hturn
    · cases hturn
  | closing => exact Or.inl (h.closing hat)
  | finishing =>
    cases hturn
  | done => exact Or.inr rfl

theorem seesEnd_of_atRest (hended : s.TorEnded) (hrest : s.AtRest) :
    s.SeesEnd := by
  rcases h.incoming_of_atRest hended hrest with hsees | hincoming
  · exact hsees
  · rcases h.copied (by rw [hincoming]; rfl) with hsees | hover
    · exact hsees
    · -- both threads have ended, so that the calling thread has gone on to close the socket
      have hout : s.outgoingTurn = none := hrest .outgoing
      have hsupervisor : s.supervisorTurn = none := hrest .supervisor
      unfold Transfer.outgoingTurn at hout
      unfold Transfer.supervisorTurn at hsupervisor
      have hoflag : s.outgoingClosed = true := by
        refine h.outgoingFlag.mpr ?_
        cases hat : s.outgoing with
        | done => rfl
        | finishing =>
          rw [hat] at hout
          cases hout
        | _ =>
          rw [hat] at hover
          cases hover
      have hiflag : s.incomingClosed = true := h.incomingFlag.mpr hincoming
      have hok := h.supervisorOk
      unfold SupervisorOk at hok
      refine Or.inr (Or.inl ?_)
      cases hat : s.supervisor with
      | waiting => simp [hat, hoflag, hiflag] at hsupervisor
      | closingSocket => simp [hat] at hsupervisor
      | closingInput =>
        rw [hat] at hok
        exact hok.2
      | closingStream | closingOutput | returned =>
        rw [hat] at hok
        exact hok.2.1

theorem tornDown_of_returned (hreturned : s.supervisor = .returned) :
    s.TornDown := by
  have hok := h.supervisorOk
  unfold SupervisorOk at hok
  rw [hreturned] at hok
  obtain ⟨⟨hoflag, hiflag⟩, hsocket, hstream, houtput⟩ := hok
  exact ⟨hsocket, hstream, h.together.trans hstream, houtput, h.incomingFlag.mp hiflag,
    h.outgoingFlag.mp hoflag⟩

end Invariant

/-! ## Transfers are torn down -/

/-- An END cell. -/
def sampleEnd : RelayCell :=
  { RelayCell.create 0 1 5 RELAY_END false with
    mark := HEADER_SIZE
    limit := HEADER_SIZE + 1 }

/-- An END cell ends the copying to the client, who ends the rest then. -/
def endedByCell : List TransferEvent :=
  .cellArrives sampleEnd :: List.replicate 3 (.turn .incoming) ++
    .clientEnds :: List.replicate 5 (.turn .outgoing) ++ List.replicate 4 (.turn .supervisor)

end Transfer

end Orchid
