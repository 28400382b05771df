import Orchid.Circuits.Backward
import Orchid.Circuits.Frame
import Orchid.Lib.Runs

/-!
# Orchid — announcing the end of a circuit

A circuit that is closed by this side sends a DESTROY cell and gives up its id. Whether to close is
decided under the lock of the streams, by the thread that removes the last stream or marks the
circuit; the closing itself comes after the lock is released. Destroying a circuit closes its
streams with that lock held, and a stream that is closed may decide to close the circuit.

A history is a run of `EndEvent`s. Closing a stream is cut into its parts, and a decision to close
the circuit is an event of its own: `Closers` counts the threads that have decided and have not
closed yet.

* `AnnouncedOnce`: at most one DESTROY cell is sent, and none after the id was given up or a
  DESTROY cell was received.
* `Hushed`: destroying the circuit will not close it on the way.
* `OwnsId`: the condition on an event. The circuit is closed only while it is not DESTROYED, and
  destroyed only when that is hushed.
* **`destroyCircuit_hushed`**: what destroying then adds to the log.
* **`announced_once`**: under the condition the end is announced once, in every history.
-/

namespace Orchid

open Prog Circuit

/-! ## The property -/

/-- What is asked of the order in which the end of a circuit is announced and its id given up. -/
structure AnnouncedOnce (log : List CircuitEvent) : Prop where
  once : log.count .destroySent ≤ 1
  owned : ∀ before after, log = before ++ .destroySent :: after →
    .idRemoved ∉ before ∧ .destroyReceived ∉ before

/-- A DESTROY cell that is sent is the first thing in the log. -/
theorem announcedOnce_of_tail {log : List CircuitEvent} (h : .destroySent ∉ log.tail) :
    AnnouncedOnce log := by
  cases log with
  | nil => exact ⟨Nat.zero_le 1, fun before after heq => by simp at heq⟩
  | cons event rest =>
    have hrest : rest.count .destroySent = 0 := List.count_eq_zero.mpr h
    constructor
    · rw [List.count_cons, hrest]
      split <;> omega
    · intro before after heq
      cases before with
      | nil => exact ⟨List.not_mem_nil, List.not_mem_nil⟩
      | cons first before =>
        -- it would stand behind another event
        rw [List.cons_append, List.cons.injEq] at heq
        have hmem : CircuitEvent.destroySent ∈ rest := by
          rw [heq.2]
          exact List.mem_append_right _ List.mem_cons_self
        exact absurd hmem h

/-! ## Histories -/

/-- A circuit, and how many threads have decided to close it and have not done so yet. -/
structure Closers where
  circuit : Circuit
  closers : Nat

/-- What ends a circuit, and what can happen meanwhile. -/
inductive EndEvent where
  | closeInput (streamId : Nat)
  | closeOutput (stream : StreamImpl)
  | removeStream (streamId : Nat)
  | markForClose
  | closeCircuit
  | sendEndCell (stream : StreamImpl)
  | sendRelayCellTo (cell : RelayCell) (targetNode : Nat)
  | createNewStream (autoclose : Bool)
  | deliverControlCell (cell : Cell)
  | destroyCircuit
  | connectionCloses

namespace EndEvent

variable (P : Platform) (W : Waits)

/-- The part of `removeStream` under the lock. -/
def decideRemoval (streamId : Nat) (s : Closers) : Closers :=
  let c := { s.circuit with
    streamMap := s.circuit.streamMap.filter fun stream => stream.streamId ≠ streamId }
  let shouldClose := c.streamMap.isEmpty && c.isMarkedForClose
  { circuit := c, closers := if shouldClose then s.closers + 1 else s.closers }

/-- The part of `markForClose` under the lock. -/
def decideMark (s : Closers) : Closers :=
  if s.circuit.isMarkedForClose then s
  else
    let c := { s.circuit with isMarkedForClose := true }
    { circuit := c, closers := if c.streamMap.isEmpty then s.closers + 1 else s.closers }

/-- A call that runs through. -/
def through {α : Type} (x : CircuitM α) (s : Closers) : Closers :=
  { s with circuit := final (x s.circuit) }

/-- Closing the circuit takes a thread that has decided to; no other event is refused. -/
def step (s : Closers) (event : Waits × EndEvent) : Option Closers :=
  match event.2 with
  | closeInput streamId => some (through (updateStream streamId StreamImpl.closeInput) s)
  | closeOutput stream => some (through (Circuit.closeOutput P event.1 (sendCell P event.1) stream) s)
  | removeStream streamId => some (decideRemoval streamId s)
  | markForClose => some (decideMark s)
  | closeCircuit =>
    if s.closers = 0 then none
    else some { circuit := final (Circuit.closeCircuit s.circuit), closers := s.closers - 1 }
  | sendEndCell stream => some (through (Circuit.sendEndCell P event.1 (sendCell P event.1) stream) s)
  | sendRelayCellTo cell targetNode =>
    some (through (Circuit.sendRelayCellTo P event.1 cell targetNode) s)
  | createNewStream autoclose => some (through (Circuit.createNewStream autoclose) s)
  | deliverControlCell cell => some (through (Circuit.deliverControlCell P event.1 cell) s)
  | destroyCircuit => some (through (Circuit.destroyCircuit P event.1) s)
  | connectionCloses => some { s with circuit := { s.circuit with connectionClosed := true } }

end EndEvent

/-! ## The condition -/

/-- Destroying the circuit does not close it on the way: there is nothing to destroy, nobody to
tell, no stream to close, or no stream whose closing would close the circuit. -/
def Hushed (c : Circuit) : Prop :=
  c.isClosed = true ∨ c.connectionClosed = true ∨ c.streamMap = [] ∨
    (c.isMarkedForClose = false ∧ ∀ s ∈ c.streamMap, s.autoclose = false)

/-- The condition on an event in the state before it. -/
def OwnsId (s : Closers) (event : Waits × EndEvent) : Prop :=
  match event.2 with
  | .closeCircuit => s.circuit.state ≠ .DESTROYED
  | .deliverControlCell cell => cell.command = Cell.DESTROY → Hushed s.circuit
  | .destroyCircuit => Hushed s.circuit
  | _ => True

instance decidableHushed (c : Circuit) : Decidable (Hushed c) :=
  inferInstanceAs (Decidable (c.isClosed = true ∨ c.connectionClosed = true ∨ c.streamMap = [] ∨
    (c.isMarkedForClose = false ∧ ∀ s ∈ c.streamMap, s.autoclose = false)))

instance decidableOwnsId (s : Closers) :
    ∀ event : Waits × EndEvent, Decidable (OwnsId s event)
  | (_, .closeCircuit) => inferInstanceAs (Decidable (s.circuit.state ≠ .DESTROYED))
  | (_, .deliverControlCell cell) =>
    inferInstanceAs (Decidable (cell.command = Cell.DESTROY → Hushed s.circuit))
  | (_, .destroyCircuit) => inferInstanceAs (Decidable (Hushed s.circuit))
  | (_, .closeInput _) | (_, .closeOutput _) | (_, .removeStream _) | (_, .markForClose)
  | (_, .sendEndCell _) | (_, .sendRelayCellTo _ _) | (_, .createNewStream _)
  | (_, .connectionCloses) => .isTrue trivial

/-! ## Destroying without a word -/

/-- Between two states no DESTROY cell was sent, and a circuit that was DESTROYED stayed so. -/
structure Mute (c c' : Circuit) : Prop where
  connection : c'.connectionClosed = c.connectionClosed
  log : ∃ l, c'.log = c.log ++ l ∧ .destroySent ∉ l
  destroyed : c.state = .DESTROYED → c'.state = .DESTROYED

variable {c c' : Circuit}

theorem Mute.untouched (hconnection : c'.connectionClosed = c.connectionClosed := by rfl)
    (hlog : c'.log = c.log := by rfl) (hstate : c'.state = c.state := by rfl) : Mute c c' :=
  ⟨hconnection, ⟨[], by rw [hlog, List.append_nil], List.not_mem_nil⟩, fun h => hstate.trans h⟩

theorem unsent_trans {log log' log'' : List CircuitEvent}
    (h : ∃ l, log' = log ++ l ∧ .destroySent ∉ l) (h' : ∃ l, log'' = log' ++ l ∧ .destroySent ∉ l) :
    ∃ l, log'' = log ++ l ∧ .destroySent ∉ l := by
  obtain ⟨l, rfl, hsent⟩ := h
  obtain ⟨l', rfl, hsent'⟩ := h'
  exact ⟨l ++ l', List.append_assoc .., List.not_mem_append hsent hsent'⟩

theorem Mute.order : StepOrder Mute where
  refl _ := Mute.untouched
  trans h h' := ⟨h'.connection.trans h.connection, unsent_trans h.log h'.log, fun hc =>
    h'.destroyed (h.destroyed hc)⟩

/-- Mute as long as `J` holds, which it goes on to do. -/
def Under (J : Circuit → Prop) (c c' : Circuit) : Prop := J c → J c' ∧ Mute c c'

theorem Under.order (J : Circuit → Prop) : StepOrder (Under J) where
  refl c hc := ⟨hc, Mute.order.refl c⟩
  trans h h' hc := by
    obtain ⟨hJ, hmute⟩ := h hc
    obtain ⟨hJ', hmute'⟩ := h' hJ
    exact ⟨hJ', Mute.order.trans hmute hmute'⟩

/-- Sending is mute. -/
theorem under_sending {J : Circuit → Prop}
    (hJ : ∀ c c', J c → c'.connectionClosed = c.connectionClosed →
      c'.isMarkedForClose = c.isMarkedForClose → J c') : Sending (Under J) where
  order := Under.order J
  nodes _ hc := ⟨hJ _ _ hc rfl rfl, Mute.untouched⟩
  stream _ hc := ⟨hJ _ _ hc rfl rfl, Mute.untouched⟩
  dropStream _ hc := ⟨hJ _ _ hc rfl rfl, Mute.untouched⟩
  sent _ hc := ⟨hJ _ _ hc rfl rfl, Mute.untouched⟩

/-- On a link that is closed so is closing. -/
theorem closedLink_closing : Closing (Under fun c => c.connectionClosed = true) where
  toSending := under_sending fun _ _ hc hconnection _ => hconnection.trans hc
  marked hc := ⟨hc, Mute.untouched⟩
  closeCircuit := by
    intro c (hc : c.connectionClosed = true)
    obtain ⟨sent, hrun⟩ := closeCircuit_run c
    rw [hrun, if_pos hc, List.append_nil]
    exact ⟨hc, rfl, ⟨[.idRemoved], rfl, by decide⟩, fun _ => rfl⟩

section Streams

variable (P : Platform) (W : Waits)

theorem closeStream_closedLink (stream : StreamImpl) :
    Steps (Under fun c => c.connectionClosed = true)
      (closeStreamWith P W (fun _ => return ()) stream) :=
  closeStreamWith_steps P W closedLink_closing (fun _ => (Under.order _).pure _) stream

theorem unmarked_sending : Sending (Under fun c => c.isMarkedForClose = false) :=
  under_sending fun _ _ hc _ hmarked => hmarked.trans hc

theorem removeStream_unmarked (streamId : Nat) :
    Steps (Under fun c => c.isMarkedForClose = false) (removeStream streamId) := by
  intro c (hc : c.isMarkedForClose = false)
  have hrun : removeStream streamId c = .ok () { c with
      streamMap := c.streamMap.filter fun s => s.streamId ≠ streamId } := by
    unfold removeStream
    simp only [bind_run, modify_run, get_run, hc, Bool.and_false, Bool.false_eq_true, if_false,
      pure_run]
  rw [hrun]
  exact ⟨hc, Mute.untouched⟩

/-- A stream that does not close its circuit is closed without a word, unless the circuit is
marked. -/
theorem closeStream_unmarked {stream : StreamImpl} (hstream : stream.autoclose = false) :
    Steps (Under fun c => c.isMarkedForClose = false)
      (closeStreamWith P W (fun _ => return ()) stream) := by
  have hR := Under.order fun c => c.isMarkedForClose = false
  have hsend : ∀ cell : Cell, Steps (Under fun c => c.isMarkedForClose = false)
      ((fun _ => return () : Cell → CircuitM Unit) cell) := fun _ => hR.pure _
  refine Steps.ite ?_ (hR.pure _)
  refine hR.bind (updateStream_steps unmarked_sending fun s => ⟨rfl, rfl⟩) fun _ => ?_
  refine hR.bind (closeOutput_steps P W unmarked_sending hsend stream) fun _ => ?_
  refine hR.bind (removeStream_unmarked stream.streamId) fun _ => ?_
  rw [hstream, if_neg Bool.false_ne_true]
  exact sendEndCell_steps P W unmarked_sending hsend stream

/-- Destroying a circuit is as mute as the closing of its streams. -/
theorem destroyCircuit_under {J : Circuit → Prop} {c : Circuit} (hopen : c.isClosed = false)
    (hJ : J { c with
      state := .DESTROYED
      isActive := false
      inCircuitMap := false
      log := c.log ++ [.idRemoved] })
    (hclose : ∀ s ∈ c.streamMap, Steps (Under J) (closeStreamWith P W (fun _ => return ()) s))
    (hclosed : ∀ d : Circuit, J d → J { d with isClosed := true }) :
    (final (destroyCircuit P W c)).state = .DESTROYED ∧ Mute c (final (destroyCircuit P W c)) := by
  have hR := Under.order J
  have hsteps : Steps (Under J) (do
      c.streamMap.forM (closeStreamWith P W fun _ => return ())
      modify fun c => { c with isClosed := true } : CircuitM Unit) := by
    refine hR.bind (hR.forM hclose) fun _ => Steps.modify fun d hd => ?_
    exact ⟨hclosed d hd, Mute.untouched⟩
  have hmute := (hsteps _ hJ).2
  rw [destroyCircuit_run P W hopen]
  refine ⟨hmute.destroyed rfl, Mute.order.trans ?_ hmute⟩
  exact ⟨rfl, ⟨[.idRemoved], rfl, by decide⟩, fun _ => rfl⟩

/-- **Destroying a hushed circuit** sends no DESTROY cell. -/
theorem destroyCircuit_hushed {c : Circuit} (hopen : c.isClosed = false) (hc : Hushed c) :
    (final (destroyCircuit P W c)).state = .DESTROYED ∧ Mute c (final (destroyCircuit P W c)) := by
  rcases hc with hclosed | hconnection | hstreams | ⟨hmarked, hauto⟩
  · cases hopen.symm.trans hclosed
  · exact destroyCircuit_under (J := fun d => d.connectionClosed = true) P W hopen hconnection
      (fun s _ => closeStream_closedLink P W s) fun _ hd => hd
  · refine destroyCircuit_under (J := fun _ => True) P W hopen trivial ?_ fun _ _ => trivial
    rw [hstreams]
    exact fun s hs => absurd hs List.not_mem_nil
  · exact destroyCircuit_under (J := fun d => d.isMarkedForClose = false) P W hopen hmarked
      (fun s hs => closeStream_unmarked P W (hauto s hs)) fun _ hd => hd

end Streams

/-! ## The invariant -/

/-- Between two states nothing was announced: the circuit lives on, or it was DESTROYED and no
DESTROY cell was sent. -/
structure Silent (c c' : Circuit) : Prop where
  log : ∃ l, c'.log = c.log ++ l ∧ .destroySent ∉ l
  moved : (c'.state = c.state ∧ c'.isClosed = c.isClosed ∧ c'.log = c.log) ∨ c'.state = .DESTROYED

theorem Silent.untouched (hlog : c'.log = c.log := by rfl) (hstate : c'.state = c.state := by rfl)
    (hclosed : c'.isClosed = c.isClosed := by rfl) : Silent c c' :=
  ⟨⟨[], by rw [hlog, List.append_nil], List.not_mem_nil⟩, Or.inl ⟨hstate, hclosed, hlog⟩⟩

theorem Silent.order : StepOrder Silent where
  refl _ := Silent.untouched
  trans h h' := by
    refine ⟨unsent_trans h.log h'.log, ?_⟩
    rcases h'.moved with ⟨hstate, hclosed, hlog⟩ | hend
    · rw [hstate, hclosed, hlog]
      exact h.moved
    · exact Or.inr hend

theorem silent_sending : Sending Silent where
  order := Silent.order
  nodes _ := Silent.untouched
  stream _ := Silent.untouched
  dropStream _ := Silent.untouched
  sent _ := Silent.untouched

/-- A circuit that is not DESTROYED has announced nothing, one that is closed is DESTROYED, and a
DESTROY cell can only be the first thing in the log. -/
structure Owned (c : Circuit) : Prop where
  unannounced : c.state ≠ .DESTROYED → c.log = []
  closed : c.isClosed = true → c.state = .DESTROYED
  once : .destroySent ∉ c.log.tail

/-- What is added behind a log of which the invariant holds is not a DESTROY cell. -/
theorem Owned.extend (hc : Owned c) {l : List CircuitEvent} (hl : .destroySent ∉ l) :
    .destroySent ∉ (c.log ++ l).tail := by
  have honce := hc.once
  cases hlog : c.log with
  | nil =>
    rw [List.nil_append]
    exact fun hmem => hl (List.mem_of_mem_tail hmem)
  | cons event rest =>
    rw [hlog] at honce
    exact List.not_mem_append honce hl

theorem Owned.ended (hc : Owned c) (hstate : c'.state = .DESTROYED)
    (hlog : ∃ l, c'.log = c.log ++ l ∧ .destroySent ∉ l) : Owned c' := by
  obtain ⟨l, hl, hsent⟩ := hlog
  exact ⟨fun h => absurd hstate h, fun _ => hstate, hl ▸ hc.extend hsent⟩

theorem Owned.silent (hc : Owned c) (h : Silent c c') : Owned c' := by
  rcases h.moved with ⟨hstate, hclosed, hlog⟩ | hend
  · refine ⟨?_, ?_, ?_⟩
    · rw [hstate, hlog]
      exact hc.unannounced
    · rw [hclosed, hstate]
      exact hc.closed
    · rw [hlog]
      exact hc.once
  · exact hc.ended hend h.log

section Calls

variable (P : Platform) (W : Waits) {c : Circuit}

theorem destroyCircuit_silent (hc : Hushed c) : Silent c (final (destroyCircuit P W c)) := by
  cases hclosed : c.isClosed with
  | true =>
    rw [destroyCircuit_closed P W hclosed]
    exact Silent.order.refl c
  | false =>
    obtain ⟨hstate, hmute⟩ := destroyCircuit_hushed P W hclosed hc
    exact ⟨hmute.log, Or.inr hstate⟩

/-- A cell that cannot be sent destroys the circuit, and there is nobody to tell. -/
theorem sendCell_silent (cell : Cell) : Steps Silent (sendCell P W cell) := by
  intro c
  unfold sendCell
  rw [get_bind_run]
  split
  · cases hconnection : c.connectionClosed with
    | true =>
      rw [bind_of_ok (writeCell_closed cell hconnection)]
      exact destroyCircuit_silent P W (Or.inr (Or.inl hconnection))
    | false =>
      rw [bind_of_ok (writeCell_open cell hconnection)]
      exact Silent.untouched
  · exact Silent.order.refl c

theorem sendRelayCellTo_silent (cell : RelayCell) (targetNode : Nat) :
    Steps Silent (sendRelayCellTo P W cell targetNode) :=
  Silent.order.bind (encryptRelayCellTo_steps P W silent_sending cell targetNode) fun _ =>
    sendCell_silent P W _

theorem Owned.deliverControlCell (hc : Owned c) {cell : Cell}
    (hcell : cell.command = Cell.DESTROY → Hushed c) :
    Owned (final (Circuit.deliverControlCell P W cell c)) := by
  unfold Circuit.deliverControlCell
  by_cases hdestroy : cell.command = Cell.DESTROY
  · rw [if_pos hdestroy]
    unfold processDestroyCell
    cases cell.remaining with
    | nil => exact hc
    | cons reason rest =>
      let d : Circuit := { c with log := c.log ++ [.destroyReceived] }
      show Owned (final (Circuit.destroyCircuit P W d))
      cases hclosed : c.isClosed with
      | true =>
        -- the circuit was destroyed before
        rw [destroyCircuit_closed P W (show d.isClosed = true from hclosed)]
        exact hc.ended (hc.closed hclosed) ⟨[.destroyReceived], rfl, by decide⟩
      | false =>
        have hhushed : Hushed d := hcell hdestroy
        obtain ⟨hstate, hmute⟩ := destroyCircuit_hushed P W (show d.isClosed = false from hclosed)
          hhushed
        exact hc.ended hstate (unsent_trans ⟨[.destroyReceived], rfl, by decide⟩ hmute.log)
  · rw [if_neg hdestroy]
    exact hc.silent (Silent.untouched)

/-- Closing a circuit that is not DESTROYED announces its end before anything else happens. -/
theorem Owned.closeCircuit (hc : Owned c) (hstate : c.state ≠ .DESTROYED) :
    Owned (final (Circuit.closeCircuit c)) := by
  obtain ⟨sent, hrun⟩ := closeCircuit_run c
  rw [hrun, hc.unannounced hstate]
  refine ⟨fun h => absurd rfl h, fun _ => rfl, ?_⟩
  show CircuitEvent.destroySent ∉ List.tail ([] ++ _ ++ [.idRemoved])
  cases c.connectionClosed <;> decide

end Calls

/-! ## The step and the run -/

/-- **The step.** -/
theorem owned_step (P : Platform) (event : Waits × EndEvent) {s s' : Closers}
    (hs : Owned s.circuit) (hevent : OwnsId s event) (hstep : EndEvent.step P s event = some s') :
    Owned s'.circuit := by
  obtain ⟨W, event⟩ := event
  have hsend := sendCell_silent P W
  cases event with
  | closeInput streamId =>
    cases hstep
    have hupdate : Steps Silent (updateStream streamId StreamImpl.closeInput) :=
      updateStream_steps silent_sending fun _ => ⟨rfl, rfl⟩
    exact hs.silent (hupdate s.circuit)
  | closeOutput stream =>
    cases hstep
    exact hs.silent (closeOutput_steps P W silent_sending hsend stream s.circuit)
  | removeStream streamId =>
    cases hstep
    exact hs.silent (Silent.untouched)
  | markForClose =>
    cases hstep
    show Owned (EndEvent.decideMark s).circuit
    unfold EndEvent.decideMark
    split
    · exact hs
    · exact hs.silent (Silent.untouched)
  | closeCircuit =>
    unfold EndEvent.step at hstep
    dsimp only at hstep
    split at hstep
    · cases hstep
    · cases hstep
      exact hs.closeCircuit hevent
  | sendEndCell stream =>
    cases hstep
    exact hs.silent (sendEndCell_steps P W silent_sending hsend stream s.circuit)
  | sendRelayCellTo cell targetNode =>
    cases hstep
    exact hs.silent (sendRelayCellTo_silent P W cell targetNode s.circuit)
  | createNewStream autoclose =>
    cases hstep
    exact hs.silent (createNewStream_steps Silent.order (fun _ _ => Silent.untouched)
      (fun _ _ => Silent.untouched) autoclose s.circuit)
  | deliverControlCell cell =>
    cases hstep
    exact hs.deliverControlCell P W hevent
  | destroyCircuit =>
    cases hstep
    exact hs.silent (destroyCircuit_silent P W hevent)
  | connectionCloses =>
    cases hstep
    exact ⟨hs.unannounced, hs.closed, hs.once⟩

/-- **The run.** Of a circuit whose end has not begun, in every history that meets the condition,
at most one DESTROY cell is sent, and none after its id was removed from the connection's circuit
map or a DESTROY cell was received. -/
theorem announced_once (P : Platform) (c : Circuit) (n : Nat) (events : List (Waits × EndEvent))
    (s : Closers) (hlog : c.log = []) (hopen : c.isClosed = false)
    (hmeets : Runs.Meets (EndEvent.step P) OwnsId ⟨c, n⟩ events)
    (hrun : Runs.run (EndEvent.step P) ⟨c, n⟩ events = some s) :
    AnnouncedOnce s.circuit.log := by
  have hc : Owned c := by
    refine ⟨fun _ => hlog, fun h => ?_, ?_⟩
    · cases hopen.symm.trans h
    · rw [hlog]
      exact List.not_mem_nil
  have hs := Runs.invariant (I := fun s : Closers => Owned s.circuit)
    (fun _ event _ hs hevent hstep => owned_step P event hs hevent hstep) hc hmeets hrun
  exact announcedOnce_of_tail hs.once

/-! ## A DESTROY cell that is answered -/

/-- A stream that closes its circuit when it is closed, and that the other side has ended. -/
def sampleAutoclose : StreamImpl :=
  { streamId := 1, targetNode := 0, autoclose := true, relayEndReceived := true }

/-- The circuit of this one stream. -/
def sampleOneStream : Circuit :=
  { sampleOpen [sampleNode 1] with streamMap := [sampleAutoclose] }

/-- The stream is closed, and its circuit with it. -/
def sampleClosing : List (Waits × EndEvent) :=
  [(Waits.never, .removeStream 1), (Waits.never, .markForClose), (Waits.never, .closeCircuit)]

theorem stream_closes_circuit :
    ∃ s, Runs.run (EndEvent.step Platform.checksum) ⟨sampleOneStream, 0⟩ sampleClosing = some s ∧
      s.circuit.log = [.destroySent, .idRemoved] ∧ AnnouncedOnce s.circuit.log :=
  ⟨_, rfl, rfl, announced_once Platform.checksum sampleOneStream 0 sampleClosing _ rfl rfl
    (by decide) rfl⟩

/-- A DESTROY cell for the circuit closes the stream, which closes the circuit: a DESTROY cell is
sent back for an id that was given up. -/
theorem destroy_is_answered :
    ∃ s, Runs.run (EndEvent.step Platform.checksum) ⟨sampleOneStream, 0⟩
        [(Waits.never, .deliverControlCell (Cell.createCell 1 Cell.DESTROY))] = some s ∧
      s.circuit.log = [.destroyReceived, .idRemoved, .destroySent, .idRemoved] ∧
      ¬ AnnouncedOnce s.circuit.log :=
  ⟨_, rfl, rfl, fun h => (h.owned [.destroyReceived, .idRemoved] [.idRemoved] rfl).1 (by decide)⟩

end Orchid
