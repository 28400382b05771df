import Orchid.Circuits.Attribution
import Orchid.Circuits.SendFailure

/-!
# Orchid — the life of a circuit

The state of a circuit is set from three sides: by the task that builds it, by the thread that
reads its cells, and by the manager, which also keeps the set of active circuits. The setters of
`CircuitStatus` set what they are told to, in any state.

A life is a run of `LifeEvent`s on a circuit as its constructor leaves it.

* `CircuitState.Forward`: UNCONNECTED, BUILDING, OPEN, and two ends.
* `InOrder`: the condition on an event. A build ends only while the circuit is BUILDING, what can
  destroy a circuit is not done to one that FAILED, and a manager stops while it is asked to add
  or to destroy only circuits that are bound.
* **`alive_step`**: what one event can do to the state and to the active set.
* **`life_moves_forward`**: in every life in order the state moves forward, and the circuit is
  active while it is BUILDING or OPEN and at no other time.
-/

namespace Orchid

open Prog Circuit CircuitExtender CircuitState CircuitBuildTask

/-! ## States -/

namespace CircuitState

/-- How far a circuit has come. -/
def rank : CircuitState → Nat
  | .UNCONNECTED => 0
  | .BUILDING => 1
  | .OPEN => 2
  | .FAILED => 3
  | .DESTROYED => 3

/-- The state stays or moves forward. -/
def Forward (s s' : CircuitState) : Prop := s' = s ∨ s.rank < s'.rank

instance decidableForward (s s' : CircuitState) : Decidable (Forward s s') :=
  inferInstanceAs (Decidable (s' = s ∨ s.rank < s'.rank))

theorem Forward.refl (s : CircuitState) : Forward s s := Or.inl rfl

theorem Forward.trans {s s' s'' : CircuitState} (h : Forward s s') (h' : Forward s' s'') :
    Forward s s'' := by
  rcases h with rfl | hlt
  · exact h'
  · rcases h' with rfl | hlt'
    · exact Or.inr hlt
    · exact Or.inr (Nat.lt_trans hlt hlt')

end CircuitState

/-! ## Lives -/

/-- What happens to a circuit between its construction and its end. -/
inductive LifeEvent where
  | buildStart
  | bindToConnection (circuitId : Nat)
  | buildCompleted
  | buildFailed (outcome : BuildOutcome) (hasConnection : Bool)
  | call (io : CircuitCall)
  | destroyCircuit
  | connectionCloses
  | startBuildingCircuits
  | stopBuildingCircuits (killCircuits : Bool)

namespace LifeEvent

variable (P : Platform) (W : Waits)

/-- A call through `CircuitIO`, which a circuit that is not bound does not have yet. -/
def onIO (x : CircuitM Unit) (c : Circuit) : Circuit := if c.isBound then final (x c) else c

/-- `stopBuildingCircuits`: with `killCircuits` the circuits of the active set are destroyed. -/
def stop (killCircuits : Bool) (c : Circuit) : Circuit :=
  let c := { c with managerIsBuilding := false }
  if killCircuits && c.isActive then final (Circuit.destroy P W c) else c

/-- The circuit after an event, whether the call that makes it returned or raised. -/
def apply (c : Circuit) : LifeEvent → Circuit
  | buildStart => final (notifyCircuitBuildStart P W c)
  | bindToConnection circuitId => final (CircuitBuildTask.bindToConnection circuitId c)
  | buildCompleted => final (notifyCircuitBuildCompleted c)
  | buildFailed outcome hasConnection => CircuitBuildTask.buildFailed outcome hasConnection c
  | .call io => onIO (io.program P W) c
  | destroyCircuit => final (Circuit.destroy P W c)
  | connectionCloses => { c with connectionClosed := true }
  | startBuildingCircuits => { c with managerIsBuilding := true }
  | stopBuildingCircuits killCircuits => stop P W killCircuits c

def step (c : Circuit) (event : Waits × LifeEvent) : Option Circuit :=
  some (apply P event.1 c event.2)

end LifeEvent

/-- The circuit can be destroyed: if it is active it is bound, and if it is bound it has not
FAILED. -/
def Killable (c : Circuit) : Prop :=
  (c.isActive = true → c.isBound = true) ∧ (c.isBound = true → c.state ≠ .FAILED)

/-- The condition on an event in the state before it. -/
def InOrder (c : Circuit) (event : Waits × LifeEvent) : Prop :=
  match event.2 with
  | .buildStart => c.state = .UNCONNECTED → c.managerIsBuilding = true ∨ c.isBound = true
  | .buildCompleted => c.state = .BUILDING
  | .buildFailed _ _ => c.state = .BUILDING
  | .call _ => c.isBound = true → c.state ≠ .FAILED
  | .destroyCircuit => Killable c
  | .stopBuildingCircuits true => c.isActive = true → c.isBound = true
  | _ => True

instance decidableInOrder (c : Circuit) :
    ∀ event : Waits × LifeEvent, Decidable (InOrder c event)
  | (_, .buildStart) => inferInstanceAs (Decidable (c.state = .UNCONNECTED → _))
  | (_, .buildCompleted) => inferInstanceAs (Decidable (c.state = .BUILDING))
  | (_, .buildFailed _ _) => inferInstanceAs (Decidable (c.state = .BUILDING))
  | (_, .call _) => inferInstanceAs (Decidable (c.isBound = true → c.state ≠ .FAILED))
  | (_, .destroyCircuit) =>
    inferInstanceAs (Decidable ((c.isActive = true → c.isBound = true) ∧
      (c.isBound = true → c.state ≠ .FAILED)))
  | (_, .stopBuildingCircuits true) =>
    inferInstanceAs (Decidable (c.isActive = true → c.isBound = true))
  | (_, .stopBuildingCircuits false) | (_, .bindToConnection _) | (_, .connectionCloses)
  | (_, .startBuildingCircuits) => .isTrue trivial

/-! ## What the calls on a circuit do to its life -/

/-- Between two states the circuit was destroyed, or nothing of its life was changed. -/
structure Lived (c c' : Circuit) : Prop where
  isBound : c'.isBound = c.isBound
  moved : (c'.state = c.state ∧ c'.isActive = c.isActive ∧ c'.isClosed = c.isClosed) ∨
    (c'.state = .DESTROYED ∧ c'.isActive = false)

variable {c c' : Circuit}

theorem Lived.untouched (hbound : c'.isBound = c.isBound := by rfl)
    (hstate : c'.state = c.state := by rfl) (hactive : c'.isActive = c.isActive := by rfl)
    (hclosed : c'.isClosed = c.isClosed := by rfl) : Lived c c' :=
  ⟨hbound, Or.inl ⟨hstate, hactive, hclosed⟩⟩

theorem Lived.order : StepOrder Lived where
  refl _ := Lived.untouched
  trans h h' := by
    refine ⟨h'.isBound.trans h.isBound, ?_⟩
    rcases h'.moved with ⟨hstate', hactive', hclosed'⟩ | hend
    · -- the second part changed nothing: what the first one did stands
      rw [hstate', hactive', hclosed']
      exact h.moved
    · exact Or.inr hend

/-- What ends a circuit does not unbind it. -/
theorem Write.isBound (h : Write c c') : c'.isBound = c.isBound := by
  cases h <;> rfl

theorem closeCircuit_lived : Steps Lived closeCircuit := by
  intro c
  obtain ⟨sent, hrun⟩ := closeCircuit_run c
  rw [hrun]
  exact ⟨rfl, Or.inr ⟨rfl, rfl⟩⟩

theorem destroyCircuit_lived (P : Platform) (W : Waits) : Steps Lived (destroyCircuit P W) := by
  intro c
  refine ⟨(destroyCircuit_steps P W Writes.ending c).lift (StepOrder.unchanged _)
    fun _ _ => Write.isBound, ?_⟩
  cases hclosed : c.isClosed with
  | true =>
    rw [destroyCircuit_closed P W hclosed]
    exact Or.inl ⟨rfl, rfl, hclosed⟩
  | false => exact Or.inr (destroyCircuit_dead P W hclosed)

theorem lived_destroying : Destroying Lived where
  order := Lived.order
  nodes _ := Lived.untouched
  stream _ := Lived.untouched
  dropStream _ := Lived.untouched
  sent _ := Lived.untouched
  marked := Lived.untouched
  closeCircuit := closeCircuit_lived
  destroyCircuit := destroyCircuit_lived

section Calls

variable (P : Platform) (W : Waits)

/-- A stream that takes note of a cell does not end the circuit, unless its answer does. -/
theorem addInputCell_lived (stream : StreamImpl) (cell : RelayCell) :
    Steps Lived (addInputCell P W stream cell) := by
  have hR := Lived.order
  have hsendme : ∀ s, Steps Lived (considerSendingStreamSendme P W s) := fun s =>
    considerSendingStreamSendme_steps P W lived_destroying s
  refine Steps.ite ?_ (hR.pure _)
  refine hR.bind (hR.fromExcept _) fun stream' => ?_
  refine hR.bind (Steps.modify fun c => Lived.untouched) fun _ => ?_
  refine hR.bind (Steps.modify fun c => Lived.untouched) fun _ => ?_
  refine (Steps.ite ?_ (hsendme stream')).ite (hR.pure _)
  exact hR.bind (hR.throw _) fun _ => hsendme stream'

theorem processRelayDataCell_lived (cell : RelayCell) :
    Steps Lived (processRelayDataCell P W cell) := by
  have hR := Lived.order
  refine hR.bind (countDataCell_steps P W lived_destroying cell) fun _ => ?_
  refine Steps.get_bind fun c => ?_
  split
  · exact hR.pure _
  · exact addInputCell_lived P W _ cell

theorem dispatchRelayCell_lived (cell : RelayCell) : Steps Lived (dispatchRelayCell P W cell) := by
  have hR := Lived.order
  unfold dispatchRelayCell
  split
  · exact Steps.modify fun c => Lived.untouched
  · exact processRelayDataCell_lived P W cell
  · exact (processRelayDataCell_lived P W cell).ite
      (processCircuitSendme_steps lived_destroying.toSending cell)
  · exact hR.bind (destroyCircuit_lived P W) fun _ => hR.throw _
  · exact hR.pure _

theorem deliverRelayCell_lived (cell : Cell) : Steps Lived (deliverRelayCell P W cell) := by
  have hR := Lived.order
  refine hR.bind (decryptRelayCell_steps P W lived_destroying cell) fun relayCell => ?_
  have hlog : Steps Lived (logRelayCell relayCell) := (hR.throw _).ite (hR.pure _)
  exact hR.bind hlog fun _ => dispatchRelayCell_lived P W relayCell

theorem finishExtend_lived (hs : Handshakes) (kind : ExtendKind) (target : Router) :
    Steps Lived (CircuitExtender.finishExtend hs kind target) := by
  have hR := Lived.order
  refine finishExtend_steps hR (fun _ _ => Lived.untouched) ?_ hs kind target
  intro r keys response
  refine hR.bind (getFinalCircuitNode_steps hR) fun final => ?_
  refine hR.bind (hR.fromExcept _) fun node => ?_
  refine hR.bind (Steps.modify fun c => Lived.untouched) fun _ => ?_
  exact hR.bind (Steps.modify fun c => Lived.untouched) fun _ => hR.pure _

/-- Every call on a circuit that is bound, apart from its destruction by the manager. -/
theorem program_lived {call : CircuitCall} (hcall : call ≠ .destroy) :
    Steps Lived (call.program P W) := by
  cases call with
  | deliverRelayCell cell => exact deliverRelayCell_lived P W cell
  | finishExtend hs kind target => exact discard_steps (finishExtend_lived hs kind target)
  | destroy => exact absurd rfl hcall
  | _ =>
    exact program_steps P W lived_destroying (fun _ _ => Lived.untouched)
      (fun _ _ => Lived.untouched) (fun _ _ => Lived.untouched) (fun _ _ => Lived.untouched)
      nofun nofun nofun

end Calls

/-! ## The invariant -/

/-- The circuit is active while it is BUILDING or OPEN, and a closed circuit is DESTROYED. -/
structure Alive (c : Circuit) : Prop where
  active : c.isActive = isConnectedOrBuilding c
  closed : c.isClosed = true → c.state = .DESTROYED

theorem Dead.alive (h : Dead c) : Alive c := by
  obtain ⟨hstate, hactive⟩ := h
  refine ⟨?_, fun _ => hstate⟩
  unfold isConnectedOrBuilding
  rw [hactive, hstate]
  decide

theorem Dead.forward (h : Dead c') (hstate : c.state ≠ .FAILED) : Forward c.state c'.state := by
  rw [h.1]
  cases hc : c.state with
  | FAILED => exact absurd hc hstate
  | UNCONNECTED | BUILDING | OPEN | DESTROYED => decide

/-- An active circuit is BUILDING or OPEN. -/
theorem Alive.of_active (hc : Alive c) (hactive : c.isActive = true) :
    c.state = .OPEN ∨ c.state = .BUILDING := by
  have h := hc.active
  rw [hactive] at h
  unfold isConnectedOrBuilding at h
  simpa using h.symm

/-- The later circuit is alive, and its state comes no earlier. -/
abbrev Onward (c c' : Circuit) : Prop := Alive c' ∧ Forward c.state c'.state

theorem Alive.lived (hc : Alive c) (h : Lived c c') (hstate : c.state ≠ .FAILED) : Onward c c' := by
  rcases h.moved with ⟨hsame, hactive, hclosed⟩ | hdead
  · refine ⟨⟨?_, ?_⟩, Or.inl hsame⟩
    · have hsource := hc.active
      unfold isConnectedOrBuilding at hsource ⊢
      rw [hactive, hsame]
      exact hsource
    · rw [hclosed, hsame]
      exact hc.closed
  · exact ⟨Dead.alive hdead, Dead.forward hdead hstate⟩

/-- The active set is left by a circuit that is at its end. -/
theorem Alive.leave (hc : Alive c) (hactive : c.isActive = false) :
    Alive { c with isActive := false } :=
  ⟨hactive ▸ hc.active, hc.closed⟩

theorem Alive.destroy (P : Platform) (W : Waits) (hc : Alive c) (hkill : Killable c) :
    Onward c (final (Circuit.destroy P W c)) := by
  obtain ⟨hbound, hfailed⟩ := hkill
  unfold Circuit.destroy
  simp only [bind_run, get_run]
  cases hio : c.isBound with
  | false =>
    -- nothing happens to the state: the circuit was not active
    have hactive : c.isActive = false := by
      cases h : c.isActive with
      | false => rfl
      | true => cases hio.symm.trans (hbound h)
    exact ⟨hc.leave hactive, Forward.refl _⟩
  | true =>
    simp only [if_true]
    cases hclosed : c.isClosed with
    | true =>
      rw [bind_of_ok (destroyCircuit_closed P W hclosed)]
      have hactive : c.isActive = false := by
        rw [hc.active]
        unfold isConnectedOrBuilding
        rw [hc.closed hclosed]
        decide
      exact ⟨hc.leave hactive, Forward.refl _⟩
    | false =>
      have hdead := destroyCircuit_dead P W hclosed
      cases hrun : destroyCircuit P W c with rw [hrun] at hdead
      | error e c' =>
        rw [bind_of_error hrun]
        exact ⟨Dead.alive hdead, Dead.forward hdead (hfailed hio)⟩
      | ok u c' =>
        rw [bind_of_ok hrun]
        have hend : Dead { c' with isActive := false } := ⟨hdead.1, rfl⟩
        exact ⟨hend.alive, hend.forward (hfailed hio)⟩

/-! ## The step and the run -/

theorem Alive.buildStart (P : Platform) (W : Waits) (hc : Alive c)
    (hmanager : c.state = .UNCONNECTED → c.managerIsBuilding = true ∨ c.isBound = true) :
    Onward c (final (notifyCircuitBuildStart P W c)) := by
  unfold notifyCircuitBuildStart
  simp only [bind_run, get_run]
  by_cases hstate : c.state = .UNCONNECTED
  · have hbegun : Alive { c with state := .BUILDING, isActive := true } := by
      refine ⟨rfl, fun hclosed => ?_⟩
      cases hstate.symm.trans (hc.closed hclosed)
    have hfirst : Forward c.state .BUILDING := by
      rw [hstate]
      decide
    rw [if_neg (not_not.mpr hstate)]
    simp only [bind_run, modify_run, get_run]
    by_cases hstopped : (!c.managerIsBuilding) = true
    · -- the manager was stopped: the circuit is destroyed, for which it must be bound
      have hbound : c.isBound = true := by
        rcases hmanager hstate with h | h
        · rw [h] at hstopped
          cases hstopped
        · exact h
      have hkill : Killable { c with state := .BUILDING, isActive := true } :=
        ⟨fun _ => hbound, fun _ hfailed => nomatch hfailed⟩
      rw [if_pos hstopped]
      obtain ⟨halive, hforward⟩ := hbegun.destroy P W hkill
      exact ⟨halive, hfirst.trans hforward⟩
    · rw [if_neg hstopped]
      exact ⟨hbegun, hfirst⟩
  · rw [if_pos hstate]
    exact ⟨hc, Forward.refl _⟩

theorem Alive.bindToConnection (hc : Alive c) (circuitId : Nat) :
    Onward c (final (bindToConnection circuitId c)) := by
  unfold CircuitBuildTask.bindToConnection
  simp only [bind_run, get_run]
  cases c.isBound with
  | true => exact ⟨hc, Forward.refl _⟩
  | false => exact ⟨⟨hc.active, hc.closed⟩, Forward.refl _⟩

/-- The end of a build that is still going on. -/
theorem Alive.ofBuild (hc : Alive c) (hstate : c.state = .BUILDING)
    (hactive : c'.isActive = isConnectedOrBuilding c') (hclosed : c'.isClosed = c.isClosed)
    (hend : c'.state = .OPEN ∨ c'.state = .FAILED) : Onward c c' := by
  refine ⟨⟨hactive, fun h => ?_⟩, ?_⟩
  · cases hstate.symm.trans (hc.closed (hclosed ▸ h))
  · rw [hstate]
    rcases hend with h | h
    all_goals
      rw [h]
      decide

theorem Alive.call (P : Platform) (W : Waits) (hc : Alive c) (io : CircuitCall)
    (hstate : c.isBound = true → c.state ≠ .FAILED) :
    Onward c (LifeEvent.onIO (io.program P W) c) := by
  unfold LifeEvent.onIO
  by_cases hbound : c.isBound = true
  · rw [if_pos hbound]
    by_cases hdestroy : io = .destroy
    · rw [hdestroy]
      exact hc.destroy P W ⟨fun _ => hbound, hstate⟩
    · exact hc.lived (program_lived P W hdestroy c) (hstate hbound)
  · rw [if_neg hbound]
    exact ⟨hc, Forward.refl _⟩

theorem Alive.stop (P : Platform) (W : Waits) (hc : Alive c) (killCircuits : Bool)
    (hbound : killCircuits = true → c.isActive = true → c.isBound = true) :
    Onward c (LifeEvent.stop P W killCircuits c) := by
  have hstopped : Alive { c with managerIsBuilding := false } := ⟨hc.active, hc.closed⟩
  unfold LifeEvent.stop
  by_cases hkill : (killCircuits && c.isActive) = true
  · rw [Bool.and_eq_true] at hkill
    have hkillable : Killable { c with managerIsBuilding := false } := by
      refine ⟨fun h => hbound hkill.1 h, fun _ hfailed => ?_⟩
      -- a circuit of the active set has not failed
      rcases hc.of_active hkill.2 with hstate | hstate
      all_goals cases hstate.symm.trans hfailed
    rw [if_pos (show (killCircuits && c.isActive) = true by rw [hkill.1, hkill.2]; rfl)]
    exact hstopped.destroy P W hkillable
  · rw [if_neg hkill]
    exact ⟨hstopped, Forward.refl _⟩

/-- **The step.** An event in order moves the circuit forward and keeps it active while it is
alive. -/
theorem alive_step (P : Platform) (event : Waits × LifeEvent) (hc : Alive c)
    (hevent : InOrder c event) (hstep : LifeEvent.step P c event = some c') : Onward c c' := by
  obtain ⟨W, event⟩ := event
  cases hstep
  cases event with
  | buildStart => exact hc.buildStart P W hevent
  | bindToConnection circuitId => exact hc.bindToConnection circuitId
  | buildCompleted =>
    have hactive : c.isActive = true := by
      rw [hc.active]
      unfold isConnectedOrBuilding
      rw [show c.state = .BUILDING from hevent]
      decide
    exact hc.ofBuild hevent hactive rfl (Or.inl rfl)
  | buildFailed outcome hasConnection =>
    -- with or without a connection the circuit is FAILED and has left the active set
    show Onward c (CircuitBuildTask.buildFailed outcome hasConnection c)
    unfold CircuitBuildTask.buildFailed
    repeat' split
    all_goals exact hc.ofBuild hevent rfl rfl (Or.inr rfl)
  | call io => exact hc.call P W io hevent
  | destroyCircuit => exact hc.destroy P W hevent
  | connectionCloses | startBuildingCircuits =>
    exact ⟨⟨hc.active, hc.closed⟩, Forward.refl _⟩
  | stopBuildingCircuits killCircuits =>
    refine hc.stop P W killCircuits fun hkill => ?_
    rw [hkill] at hevent
    exact hevent

theorem alive_create (currentStreamId : Nat) (managerIsBuilding connectionClosed : Bool)
    (created : List Cell) (extended : List RelayCell) :
    Alive (Circuit.create currentStreamId managerIsBuilding connectionClosed created extended) :=
  ⟨rfl, fun h => nomatch h⟩

theorem alive_run (P : Platform) {events : List (Waits × LifeEvent)} (hc : Alive c)
    (hmeets : Runs.Meets (LifeEvent.step P) InOrder c events)
    (hrun : Runs.run (LifeEvent.step P) c events = some c') : Onward c c' := by
  -- forward from the first state on, by transitivity
  refine Runs.invariant (I := Onward c) ?_ ⟨hc, Forward.refl _⟩ hmeets hrun
  rintro d event d' ⟨hd, hforward⟩ hevent hstep
  obtain ⟨hd', hforward'⟩ := alive_step P event hd hevent hstep
  exact ⟨hd', hforward.trans hforward'⟩

/-- **The run.** In every life in order, from any state it passes through to any later one the
state of the circuit moves forward, and the circuit is in the active set if and only if it is
BUILDING or OPEN. -/
theorem life_moves_forward (P : Platform) (currentStreamId : Nat)
    (managerIsBuilding connectionClosed : Bool) (created : List Cell) (extended : List RelayCell)
    (before after : List (Waits × LifeEvent)) (c c' : Circuit)
    (hmeets : Runs.Meets (LifeEvent.step P) InOrder
      (Circuit.create currentStreamId managerIsBuilding connectionClosed created extended)
      (before ++ after))
    (hbefore : Runs.run (LifeEvent.step P)
      (Circuit.create currentStreamId managerIsBuilding connectionClosed created extended) before =
        some c)
    (hafter : Runs.run (LifeEvent.step P) c after = some c') :
    Forward c.state c'.state ∧ (c'.isActive = true ↔ c'.state = .BUILDING ∨ c'.state = .OPEN) := by
  obtain ⟨hfirst, hlast⟩ := hmeets.split hbefore
  have hc := (alive_run P (alive_create _ _ _ _ _) hfirst hbefore).1
  obtain ⟨hc', hforward⟩ := alive_run P hc hlast hafter
  refine ⟨hforward, ?_⟩
  rw [hc'.active]
  unfold isConnectedOrBuilding
  simp [or_comm]

/-! ## A destroyed circuit that is opened -/

/-- A circuit of a manager that builds circuits. -/
def sampleCreated : Circuit := Circuit.create 1 true false [] []

/-- A DESTROY cell for the circuit. -/
def sampleDestroy : Waits × LifeEvent :=
  (Waits.never, .call (.deliverControlCell (Cell.createCell 1 Cell.DESTROY)))

/-- The build of a circuit up to its connection. -/
def sampleStart : List (Waits × LifeEvent) :=
  [(Waits.never, .buildStart), (Waits.never, .bindToConnection 1)]

theorem opened_then_destroyed :
    ∃ c c', Runs.run (LifeEvent.step Platform.checksum) sampleCreated sampleStart = some c ∧
      Runs.run (LifeEvent.step Platform.checksum) c
        [(Waits.never, .buildCompleted), sampleDestroy] = some c' ∧
      c.state = .BUILDING ∧ c'.state = .DESTROYED ∧ Forward c.state c'.state ∧
      (c'.isActive = true ↔ c'.state = .BUILDING ∨ c'.state = .OPEN) :=
  ⟨_, _, rfl, rfl, rfl, rfl, life_moves_forward Platform.checksum 1 true false [] [] sampleStart
    [(Waits.never, .buildCompleted), sampleDestroy] _ _ (by decide) rfl rfl⟩

/-- The DESTROY cell comes before the build task is done: the circuit is destroyed, and then it is
OPEN, and nobody's. -/
theorem destroyed_then_opened :
    ∃ c c', Runs.run (LifeEvent.step Platform.checksum) sampleCreated
        (sampleStart ++ [sampleDestroy]) = some c ∧
      Runs.run (LifeEvent.step Platform.checksum) c [(Waits.never, .buildCompleted)] = some c' ∧
      c.state = .DESTROYED ∧ c'.state = .OPEN ∧ c'.isActive = false ∧
      ¬ Forward c.state c'.state ∧
      ¬ (c'.isActive = true ↔ c'.state = .BUILDING ∨ c'.state = .OPEN) :=
  ⟨_, _, rfl, rfl, rfl, rfl, rfl, by decide, by decide⟩

end Orchid
