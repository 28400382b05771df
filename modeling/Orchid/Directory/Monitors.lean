import Mathlib
import Orchid.Directory.PendingConsensus
import Orchid.Lib.Locks

/-!
# Orchid — the monitors of the directory

`addConsensusDocument` holds the monitor of the directory and takes that of the trusted authorities
to check the signatures. `addCertificate` holds the second, and if the certificate completes a
waiting document it calls `addConsensusDocument` and so takes the first. Here any number of threads
make these calls, one segment of code at a time, and whoever wants a monitor waits until it is free.

* A thread is where it is in a call (`CallPosition`), which says what it holds and what it wants.
* `alone`: a thread by itself computes the calls of the directory's model.
* **`updates_return`**: as long as no document is on its way to be checked while a certificate
  completes another, no threads wait for each other, and all calls return.
* **`updates_deadlock`**: otherwise two threads can wait for each other for ever.
-/

namespace Orchid

open Prog Sample DirectoryImpl

/-! ## Threads -/

inductive Monitor where
  | directory
  | trustedAuthorities
deriving DecidableEq

inductive UpdateCall where
  | addConsensusDocument (consensus : ConsensusDocument) (fromCache : Bool)
  | addCertificate (certificate : KeyCertificate)
  | storeCertificates

/-- How far `addConsensusDocument` has come: to the monitor of the directory, to the tests under
it, to the monitor of the authorities, to the check of the signatures, to the rest. -/
inductive OfferStage where
  | enter
  | compare
  | verify
  | examine
  | install
deriving DecidableEq

/-- Where a thread is. The document is offered by a call of its own or, `nested`, by
`addCertificate`, which then forgets the waiting document (`clear`). -/
inductive CallPosition where
  | between
  | offer (nested : Bool) (stage : OfferStage) (consensus : ConsensusDocument) (fromCache : Bool)
  | addCertificate (certificate : KeyCertificate)
  | receive (certificate : KeyCertificate)
  | clear
  | storeCertificates
  | collect

namespace CallPosition

/-- The monitor a thread is about to enter. -/
def wants : CallPosition → Option Monitor
  | .offer _ .enter _ _ => some .directory
  | .offer _ .verify _ _ => some .trustedAuthorities
  | .addCertificate _ => some .trustedAuthorities
  | .storeCertificates => some .trustedAuthorities
  | _ => none

/-- The monitors a thread is in. -/
def holds : Monitor → CallPosition → Bool
  | .directory, .offer _ stage _ _ => stage ≠ .enter
  | .trustedAuthorities, .offer nested stage _ _ => nested || stage = .examine
  | .trustedAuthorities, .receive _ => true
  | .trustedAuthorities, .clear => true
  | .trustedAuthorities, .collect => true
  | _, _ => false

/-- Where a call begins. -/
def start : UpdateCall → CallPosition
  | .addConsensusDocument consensus fromCache => .offer false .enter consensus fromCache
  | .addCertificate certificate => .addCertificate certificate
  | .storeCertificates => .storeCertificates

/-- Behind the monitor that was wanted. -/
def entered : CallPosition → CallPosition
  | .offer nested .enter consensus fromCache => .offer nested .compare consensus fromCache
  | .offer nested .verify consensus fromCache => .offer nested .examine consensus fromCache
  | .addCertificate certificate => .receive certificate
  | .storeCertificates => .collect
  | position => position

/-- Where `addConsensusDocument` returns to. -/
def offered (nested : Bool) : CallPosition := if nested then .clear else .between

/-- The segment of code up to the next monitor or the end of the call, which is reached by an
exception as well; either way the monitors are left. -/
def proceed (P : Platform) (now : Int) (directory : DirectoryImpl) :
    CallPosition → CallPosition × DirectoryImpl
  | .offer nested .compare consensus fromCache =>
    match directory.supersedes consensus with
    | .ok true => (offered nested, directory)
    | .ok false => (.offer nested .verify consensus fromCache, directory)
    | .error _ => (.between, directory)
  | .offer nested .examine consensus fromCache =>
    match examine P now consensus directory with
    | .ok true directory => (.offer nested .install consensus fromCache, directory)
    | .ok false directory => (offered nested, directory)
    | .error _ directory => (.between, directory)
  | .offer nested .install consensus fromCache =>
    match install consensus fromCache directory with
    | .ok _ directory => (offered nested, directory)
    | .error _ directory => (.between, directory)
  | .receive certificate =>
    match receiveCertificate P now certificate directory with
    | .ok none directory => (.between, directory)
    | .ok (some waiting) directory => (.offer true .enter waiting false, directory)
    | .error _ directory => (.between, directory)
  | .clear => (.between, { directory with consensusWaitingForCertificates := none })
  | .collect => (.between, final (DirectoryImpl.storeCertificates now directory))
  | position => (position, directory)

end CallPosition

/-- A thread, with the calls it is still to make. -/
structure UpdateThread where
  position : CallPosition := .between
  calls : List UpdateCall

/-- The directory and all threads that update it. -/
structure DirectoryUpdates where
  directory : DirectoryImpl
  threads : List UpdateThread

namespace DirectoryUpdates

/-- A monitor may be entered if nobody is in it, and once more by a thread that is. -/
def mayEnter (s : DirectoryUpdates) (position : CallPosition) (monitor : Monitor) : Bool :=
  position.holds monitor || s.threads.all fun thread => !thread.position.holds monitor

/-- The thread at a position of the list moves on, at a time; none if it cannot. -/
def step (P : Platform) (s : DirectoryUpdates) (event : Nat × Int) : Option DirectoryUpdates :=
  match s.threads[event.1]? with
  | none => none
  | some ⟨.between, []⟩ => none
  | some ⟨.between, call :: calls⟩ =>
    some { s with threads := s.threads.set event.1 ⟨.start call, calls⟩ }
  | some ⟨position, calls⟩ =>
    match position.wants with
    | some monitor =>
      if s.mayEnter position monitor then
        some { s with threads := s.threads.set event.1 ⟨position.entered, calls⟩ }
      else none
    | none =>
      let (position, directory) := position.proceed P event.2 s.directory
      some ⟨directory, s.threads.set event.1 ⟨position, calls⟩⟩

/-- Threads with calls to make. -/
def start (directory : DirectoryImpl) (calls : List (List UpdateCall)) : DirectoryUpdates :=
  ⟨directory, calls.map fun calls => { calls }⟩

/-! ## What one step can do -/

/-- The moves of a thread. -/
inductive Move (P : Platform) (s : DirectoryUpdates) (i : Nat) (now : Int) :
    DirectoryUpdates → Prop where
  | starts {call : UpdateCall} {calls : List UpdateCall}
      (hthread : s.threads[i]? = some ⟨.between, call :: calls⟩) :
      Move P s i now { s with threads := s.threads.set i ⟨.start call, calls⟩ }
  | enters {position : CallPosition} {calls : List UpdateCall} {monitor : Monitor}
      (hthread : s.threads[i]? = some ⟨position, calls⟩)
      (hwants : position.wants = some monitor) (hmay : s.mayEnter position monitor = true) :
      Move P s i now { s with threads := s.threads.set i ⟨position.entered, calls⟩ }
  | proceeds {position : CallPosition} {calls : List UpdateCall}
      (hthread : s.threads[i]? = some ⟨position, calls⟩) (hbusy : position ≠ .between)
      (hwants : position.wants = none) :
      Move P s i now ⟨(position.proceed P now s.directory).2,
        s.threads.set i ⟨(position.proceed P now s.directory).1, calls⟩⟩

variable {P : Platform} {s s' : DirectoryUpdates} {i : Nat} {now : Int}

/-- A thread in the middle of a call. -/
theorem step_busy {position : CallPosition} {calls : List UpdateCall}
    (hthread : s.threads[i]? = some ⟨position, calls⟩) (hbusy : position ≠ .between) :
    step P s (i, now) =
      match position.wants with
      | some monitor =>
        if s.mayEnter position monitor then
          some { s with threads := s.threads.set i ⟨position.entered, calls⟩ }
        else none
      | none =>
        some ⟨(position.proceed P now s.directory).2,
          s.threads.set i ⟨(position.proceed P now s.directory).1, calls⟩⟩ := by
  unfold step
  rw [hthread]
  cases position with
  | between => exact absurd rfl hbusy
  | _ => rfl

theorem step_move (hstep : step P s (i, now) = some s') : Move P s i now s' := by
  cases hthread : s.threads[i]? with
  | none =>
    simp only [step, hthread] at hstep
    cases hstep
  | some thread =>
    obtain ⟨position, calls⟩ := thread
    rcases eq_or_ne position .between with rfl | hidle
    · cases calls with simp only [step, hthread] at hstep
      | nil =>
        cases hstep
      | cons call calls =>
        cases hstep
        exact .starts hthread
    · rw [step_busy hthread hidle] at hstep
      cases hwants : position.wants with rw [hwants] at hstep
      | none =>
        cases hstep
        exact .proceeds hthread hidle hwants
      | some monitor =>
        dsimp only at hstep
        split at hstep
        · rename_i hmay
          cases hstep
          exact .enters hthread hwants hmay
        · cases hstep

/-! ## One thread alone

A thread that nobody disturbs computes the calls of `DirectoryImpl`. -/

/-- What a call computes. -/
def perform (P : Platform) (now : Int) : UpdateCall → DirectoryM Unit
  | .addConsensusDocument consensus fromCache =>
    addConsensusDocument P now consensus fromCache
  | .addCertificate certificate => addCertificate P now certificate
  | .storeCertificates => storeCertificates now

/-- Some events lead from one state to the other. -/
def Reaches (P : Platform) (s s' : DirectoryUpdates) : Prop :=
  ∃ events, Runs.run (step P) s events = some s'

theorem Reaches.trans {s'' : DirectoryUpdates} (h : Reaches P s s') (h' : Reaches P s' s'') :
    Reaches P s s'' := by
  obtain ⟨events, hrun⟩ := h
  obtain ⟨events', hrun'⟩ := h'
  exact ⟨events ++ events', Runs.run_append.mpr ⟨s', hrun, hrun'⟩⟩

/-- The only thread, in its last call. -/
def lone (directory : DirectoryImpl) (position : CallPosition) : DirectoryUpdates :=
  ⟨directory, [⟨position, []⟩]⟩

variable {monitor : Monitor}

theorem lone_enters {position : CallPosition} (directory : DirectoryImpl)
    (hwants : position.wants = some monitor) :
    Reaches P (lone directory position) (lone directory position.entered) := by
  have hbusy : position ≠ .between := by
    rintro rfl
    cases hwants
  have hmay : (lone directory position).mayEnter position monitor = true := by
    simp [mayEnter, lone]
  refine ⟨[(0, 0)], Runs.run_cons.mpr ⟨_, ?_, rfl⟩⟩
  rw [step_busy rfl hbusy, hwants]
  show (if _ then _ else none) = _
  rw [if_pos hmay]
  rfl

variable (now : Int)

theorem lone_proceeds (directory : DirectoryImpl) (position : CallPosition)
    (hbusy : position ≠ .between) (hwants : position.wants = none) :
    Reaches P (lone directory position)
      (lone (position.proceed P now directory).2 (position.proceed P now directory).1) := by
  refine ⟨[(0, now)], Runs.run_cons.mpr ⟨_, ?_, rfl⟩⟩
  rw [step_busy rfl hbusy, hwants]
  rfl

/-- Where the result of the nested or the outer call leaves the thread. -/
def loneAfter (nested : Bool) :
    EStateM.Result JavaException DirectoryImpl Unit → DirectoryUpdates
  | .ok _ directory => lone directory (.offered nested)
  | .error _ directory => lone directory .between

theorem lone_offer (directory : DirectoryImpl) (nested : Bool)
    (consensus : ConsensusDocument) (fromCache : Bool) :
    Reaches P (lone directory (.offer nested .enter consensus fromCache))
      (loneAfter nested
        (addConsensusDocument P now consensus fromCache directory)) := by
  refine (lone_enters directory rfl).trans ?_
  refine (lone_proceeds now directory (.offer nested .compare consensus fromCache)
    (by simp) rfl).trans ?_
  cases hsupersedes : directory.supersedes consensus with
  | error e =>
    simp only [CallPosition.proceed, addConsensusDocument, bind_run, get_run,
      hsupersedes, fromExcept_error]
    exact ⟨[], rfl⟩
  | ok superseded =>
    cases superseded with
    | true =>
      simp only [CallPosition.proceed, addConsensusDocument, bind_run, get_run,
        hsupersedes, fromExcept_ok, if_true, pure_run]
      exact ⟨[], rfl⟩
    | false =>
      rw [addConsensusDocument_examined P now fromCache hsupersedes]
      simp only [CallPosition.proceed, hsupersedes, bind_run]
      refine (lone_enters directory rfl).trans ?_
      refine (lone_proceeds now directory
        (.offer nested .examine consensus fromCache) (by simp) rfl).trans ?_
      simp only [CallPosition.proceed]
      cases examine P now consensus directory with
      | error e directory' => exact ⟨[], rfl⟩
      | ok verified directory' =>
        cases verified with
        | false => exact ⟨[], rfl⟩
        | true =>
          refine (lone_proceeds now directory'
            (.offer nested .install consensus fromCache) (by simp) rfl).trans ?_
          simp only [CallPosition.proceed, if_true]
          cases install consensus fromCache directory' with
          | ok | error => exact ⟨[], rfl⟩

theorem lone_addCertificate (directory : DirectoryImpl) (certificate : KeyCertificate) :
    Reaches P (lone directory (.addCertificate certificate))
      (lone (final (addCertificate P now certificate directory)) .between) := by
  refine (lone_enters directory rfl).trans ?_
  refine (lone_proceeds now directory (.receive certificate) (by simp) rfl).trans ?_
  simp only [CallPosition.proceed, addCertificate, bind_run]
  cases receiveCertificate P now certificate directory with
  | error e directory' => exact ⟨[], rfl⟩
  | ok completed directory' =>
    cases completed with
    | none => exact ⟨[], rfl⟩
    | some waiting =>
      refine (lone_offer now directory' true waiting false).trans ?_
      simp only [bind_run]
      cases addConsensusDocument P now waiting false directory' with
      | error e directory'' => exact ⟨[], rfl⟩
      | ok _ directory'' =>
        exact lone_proceeds now directory'' .clear (by simp) rfl

/-- **A call that nobody disturbs** leaves the directory as the call of the model does. -/
theorem alone (directory : DirectoryImpl) (call : UpdateCall) :
    Reaches P (start directory [[call]])
      (lone (final (perform P now call directory)) .between) := by
  have hstart : Reaches P (start directory [[call]]) (lone directory (.start call)) :=
    ⟨[(0, 0)], rfl⟩
  refine hstart.trans ?_
  cases call with
  | addConsensusDocument consensus fromCache =>
    refine (lone_offer now directory false consensus fromCache).trans ?_
    simp only [perform]
    cases addConsensusDocument P now consensus fromCache directory with
    | ok _ directory' => exact ⟨[], rfl⟩
    | error e directory' => exact ⟨[], rfl⟩
  | addCertificate certificate => exact lone_addCertificate now directory certificate
  | storeCertificates =>
    refine (lone_enters directory rfl).trans ?_
    exact lone_proceeds now directory .collect (by simp) rfl

/-! ## Work

Every step lowers what is left to do, so a run cannot go on for ever. -/

end DirectoryUpdates

/-- A bound on the steps to the end of the call. -/
def CallPosition.work : CallPosition → Nat
  | .between => 0
  | .clear => 1
  | .collect => 1
  | .storeCertificates => 2
  | .offer _ .install _ _ => 2
  | .offer _ .examine _ _ => 3
  | .offer _ .verify _ _ => 4
  | .offer _ .compare _ _ => 5
  | .offer _ .enter _ _ => 6
  | .receive _ => 7
  | .addCertificate _ => 8

/-- With nine steps for a call that is still to be made. -/
def UpdateThread.work (thread : UpdateThread) : Nat :=
  thread.position.work + 9 * thread.calls.length

namespace CallPosition

theorem work_start (call : UpdateCall) : (start call).work < 9 := by
  cases call <;> simp [start, work]

theorem work_entered {position : CallPosition}
    (hwants : position.wants = some monitor) : position.entered.work < position.work := by
  cases position with
  | offer nested stage consensus fromCache =>
    cases stage <;> cases hwants <;> simp [entered, work]
  | addCertificate | storeCertificates => simp [entered, work]
  | _ => cases hwants

theorem work_offered (nested : Bool) : (offered nested).work < 2 := by
  cases nested <;> simp [offered, work]

/-- The cases are the segments, with every way out of each. -/
theorem work_proceed (P : Platform) (now : Int) (directory : DirectoryImpl)
    {position : CallPosition} (hbusy : position ≠ .between) (hwants : position.wants = none) :
    (position.proceed P now directory).1.work < position.work := by
  cases position with
  | between => exact absurd rfl hbusy
  | addCertificate | storeCertificates => cases hwants
  | clear | collect => exact Nat.one_pos
  | receive certificate =>
    simp only [proceed]
    split <;> simp [work]
  | offer nested stage consensus fromCache =>
    have hoffered := work_offered nested
    cases stage with
    | enter | verify => cases hwants
    | install =>
      simp only [proceed]
      split
      · exact hoffered
      · simp [work]
    | compare | examine =>
      simp only [proceed]
      split
      -- one of the two answers returns, the other goes on
      all_goals first
        | exact Nat.lt_trans hoffered (by simp [work])
        | simp [work]

end CallPosition

namespace DirectoryUpdates

/-- All the work that is left. -/
def work (s : DirectoryUpdates) : Nat := (s.threads.map UpdateThread.work).sum

variable {P : Platform} {s s' : DirectoryUpdates} {i : Nat} {now : Int}

theorem work_step (hstep : step P s (i, now) = some s') : s'.work < s.work := by
  cases step_move hstep with
  | starts hthread =>
    rename_i call calls
    apply Lists.sum_map_set_lt hthread
    have hstart := CallPosition.work_start call
    show (CallPosition.start call).work + 9 * calls.length < 0 + 9 * (calls.length + 1)
    omega
  | enters hthread hwants hmay =>
    apply Lists.sum_map_set_lt hthread
    exact Nat.add_lt_add_right (CallPosition.work_entered hwants) _
  | proceeds hthread hbusy hwants =>
    apply Lists.sum_map_set_lt hthread
    exact Nat.add_lt_add_right (CallPosition.work_proceed P now s.directory hbusy hwants) _

theorem work_start (directory : DirectoryImpl) (calls : List (List UpdateCall)) :
    (start directory calls).work = 9 * (calls.map List.length).sum := by
  unfold work start
  induction calls with
  | nil => rfl
  | cons first calls ih =>
    simp only [List.map_cons, List.sum_cons, ih]
    show 0 + 9 * first.length + _ = _
    omega

/-! ## What is asked

The two calls want the monitors in opposite orders, so what is asked is that a thread on the one
way does not meet a thread on the other. -/

end DirectoryUpdates

/-- A thread that has completed the waiting document, holds the authorities and wants the
directory. -/
def CallPosition.completing : CallPosition → Bool
  | .offer true .enter _ _ => true
  | _ => false

/-- A thread that holds the directory and may come to want the authorities. -/
def CallPosition.checksNext : CallPosition → Bool
  | .offer false .compare _ _ => true
  | .offer false .verify _ _ => true
  | _ => false

/-- With the certificate the waiting document is verified. -/
def DirectoryImpl.completes (P : Platform) (now : Int) (certificate : KeyCertificate)
    (directory : DirectoryImpl) : Bool :=
  match receiveCertificate P now certificate directory with
  | .ok (some _) _ => true
  | _ => false

namespace DirectoryUpdates

/-- What is asked of a step: a certificate completes the waiting document only while no other
document is on its way to be checked, and no call of `addConsensusDocument` enters the directory
before the completed document has. -/
def KeepsOrder (P : Platform) (s : DirectoryUpdates) (event : Nat × Int) : Prop :=
  match s.threads[event.1]? with
  | some ⟨.receive certificate, _⟩ =>
    s.directory.completes P event.2 certificate = true →
      ∀ thread ∈ s.threads, thread.position.checksNext = false
  | some ⟨.offer false .enter _ _, _⟩ =>
    ∀ thread ∈ s.threads, thread.position.completing = false
  | _ => True

instance (P : Platform) (s : DirectoryUpdates) (event : Nat × Int) :
    Decidable (KeepsOrder P s event) := by
  unfold KeepsOrder
  split <;> infer_instance

/-- One thread wants a monitor that another is in. -/
def WaitsFor (s : DirectoryUpdates) (i j : Nat) : Prop :=
  i ≠ j ∧ ∃ thread thread' monitor, s.threads[i]? = some thread ∧ s.threads[j]? = some thread' ∧
    thread.position.wants = some monitor ∧ thread'.position.holds monitor = true

/-- All calls have returned. -/
def Returned (s : DirectoryUpdates) : Prop :=
  ∀ thread ∈ s.threads, thread.position = .between ∧ thread.calls = []

/-! ## The invariant -/

/-- The lock of a thread, one monitor at a time. -/
def lock (monitor : Monitor) (thread : UpdateThread) : Option Monitor :=
  if thread.position.holds monitor then some monitor else none

structure Inv (s : DirectoryUpdates) : Prop where
  exclusive : ∀ monitor, Locks.Exclusive (lock monitor) s.threads
  apart : ∀ thread ∈ s.threads, ∀ thread' ∈ s.threads, thread.position.completing = true →
    thread'.position.checksNext = false

variable {P : Platform} {s s' : DirectoryUpdates} {i j : Nat} {now : Int} {thread : UpdateThread}

theorem lock_eq_some {lock' : Monitor} :
    lock monitor thread = some lock' ↔ thread.position.holds monitor = true ∧ monitor = lock' := by
  unfold lock
  split
  · rename_i hholds
    simp [hholds]
  · rename_i hnot
    simp [hnot]

variable {thread' : UpdateThread}

theorem Inv.holder_unique (h : s.Inv)
    (hi : s.threads[i]? = some thread) (hj : s.threads[j]? = some thread')
    (hholds : thread.position.holds monitor = true)
    (hholds' : thread'.position.holds monitor = true) : i = j :=
  h.exclusive monitor i j thread thread' monitor hi hj (lock_eq_some.mpr ⟨hholds, rfl⟩)
    (lock_eq_some.mpr ⟨hholds', rfl⟩)

end DirectoryUpdates

namespace CallPosition

theorem holds_start (monitor : Monitor) (call : UpdateCall) :
    (start call).holds monitor = false := by
  cases call <;> cases monitor <;> rfl

variable {monitor : Monitor} {position : CallPosition}

/-- Behind a monitor a thread is in it, and in those it was in before. -/
theorem holds_entered {monitor' : Monitor} (hwants : position.wants = some monitor)
    (hholds : position.entered.holds monitor' = true) :
    position.holds monitor' = true ∨ monitor' = monitor := by
  cases position with
  | offer nested stage consensus fromCache =>
    cases stage <;> cases hwants <;> cases monitor' <;> simp_all [entered, holds]
  | addCertificate | storeCertificates =>
    cases hwants; cases monitor' <;> simp_all [entered, holds]
  | _ => cases hwants

/-- A segment enters no monitor. -/
theorem holds_proceed (P : Platform) (now : Int) (directory : DirectoryImpl)
    (hwants : position.wants = none)
    (hholds : (position.proceed P now directory).1.holds monitor = true) :
    position.holds monitor = true := by
  cases position with
  | between => exact hholds
  | addCertificate | storeCertificates => cases hwants
  | clear | collect => cases monitor <;> cases hholds
  | receive certificate =>
    simp only [proceed] at hholds
    split at hholds <;> cases monitor <;> simp_all [holds]
  | offer nested stage consensus fromCache =>
    cases stage with
    | enter | verify => cases hwants
    | compare | examine | install =>
      simp only [proceed] at hholds
      split at hholds <;> cases nested <;> cases monitor <;> simp_all [holds, offered]

theorem not_checksNext_of_completing (h : position.completing = true) :
    position.checksNext = false := by
  cases position with
  | offer nested stage consensus fromCache =>
    cases nested <;> cases stage <;> first | rfl | cases h
  | _ => cases h

theorem completing_start (call : UpdateCall) : (start call).completing = false := by
  cases call <;> rfl

theorem checksNext_start (call : UpdateCall) : (start call).checksNext = false := by
  cases call <;> rfl

theorem completing_entered (hwants : position.wants = some monitor) :
    position.entered.completing = false := by
  cases position with
  | offer nested stage consensus fromCache =>
    cases stage <;> cases hwants <;> cases nested <;> rfl
  | addCertificate | storeCertificates => rfl
  | _ => cases hwants

theorem checksNext_entered (hwants : position.wants = some monitor)
    (hchecks : position.entered.checksNext = true) :
    ∃ consensus fromCache, position = .offer false .enter consensus fromCache := by
  cases position with
  | offer nested stage consensus fromCache =>
    cases stage with
    | enter =>
      cases nested with
      | true => cases hchecks
      | false => exact ⟨consensus, fromCache, rfl⟩
    | verify => cases nested <;> cases hchecks
    | _ => cases hwants
  | addCertificate | storeCertificates => cases hchecks
  | _ => cases hwants

variable {directory : DirectoryImpl}

theorem completing_proceed {P : Platform} {now : Int} (hwants : position.wants = none)
    (hcompleting : (position.proceed P now directory).1.completing = true) :
    ∃ certificate, position = .receive certificate ∧
      directory.completes P now certificate = true := by
  cases position with
  | receive certificate =>
    refine ⟨certificate, rfl, ?_⟩
    simp only [proceed] at hcompleting
    unfold completes
    split at hcompleting
    · cases hcompleting
    · rename_i hreceived
      rw [hreceived]
    · cases hcompleting
  | offer nested stage consensus fromCache =>
    cases stage with
    | enter | verify => cases hwants
    | compare | examine | install =>
      simp only [proceed] at hcompleting
      split at hcompleting <;> cases nested <;> simp_all [completing, offered]
  | addCertificate | storeCertificates => cases hwants
  | _ => cases hcompleting

theorem checksNext_proceed {P : Platform} {now : Int} (hwants : position.wants = none)
    (hchecks : (position.proceed P now directory).1.checksNext = true) :
    position.checksNext = true := by
  cases position with
  | receive certificate =>
    simp only [proceed] at hchecks
    split at hchecks <;> cases hchecks
  | offer nested stage consensus fromCache =>
    cases stage with
    | enter | verify => cases hwants
    | compare | examine | install =>
      simp only [proceed] at hchecks
      split at hchecks <;> cases nested <;> simp_all [checksNext, offered]
  | addCertificate | storeCertificates => cases hwants
  | _ => cases hchecks

end CallPosition

namespace DirectoryUpdates

variable {P : Platform} {s s' : DirectoryUpdates} {i j : Nat} {now : Int}

variable {thread : UpdateThread} {monitor : Monitor} {position : CallPosition}

/-- A thread moves on: to monitors it was in or that are free, and not across another's way. -/
theorem Inv.set (h : s.Inv) (directory : DirectoryImpl)
    (hi : s.threads[i]? = some thread) (hholds : ∀ monitor, thread'.position.holds monitor = true →
      thread.position.holds monitor = true ∨
        s.threads.all (fun thread => !thread.position.holds monitor) = true)
    (hcompleting : thread'.position.completing = true →
      ∀ other ∈ s.threads, other.position.checksNext = false)
    (hchecks : thread'.position.checksNext = true →
      ∀ other ∈ s.threads, other.position.completing = false) :
    (⟨directory, s.threads.set i thread'⟩ : DirectoryUpdates).Inv where
  exclusive := by
    intro monitor
    apply (h.exclusive monitor).set hi
    intro monitor' hlock
    obtain ⟨hnow, rfl⟩ := lock_eq_some.mp hlock
    rcases hholds monitor hnow with hbefore | hfree
    · exact Or.inl (lock_eq_some.mpr ⟨hbefore, rfl⟩)
    · right
      intro other hother hlocked
      have hnot := List.all_eq_true.mp hfree other hother
      rw [(lock_eq_some.mp hlocked).1] at hnot
      cases hnot
  apart := by
    intro t ht t' ht' htcompleting
    rcases List.mem_or_eq_of_mem_set ht with hold | rfl
    · rcases List.mem_or_eq_of_mem_set ht' with hold' | rfl
      · exact h.apart t hold t' hold' htcompleting
      · cases hnext : t'.position.checksNext with
        | false => rfl
        | true =>
          have hnot := hchecks hnext t hold
          cases htcompleting.symm.trans hnot
    · rcases List.mem_or_eq_of_mem_set ht' with hold' | rfl
      · exact hcompleting htcompleting t' hold'
      · exact CallPosition.not_checksNext_of_completing htcompleting

/-- **One step.** -/
theorem inv_step (h : s.Inv) (horder : KeepsOrder P s (i, now))
    (hstep : step P s (i, now) = some s') : s'.Inv := by
  cases step_move hstep with
  | starts hthread =>
    rename_i call calls
    apply h.set s.directory hthread
    · intro monitor hholds
      rw [CallPosition.holds_start] at hholds
      cases hholds
    · intro hcompleting
      rw [CallPosition.completing_start] at hcompleting
      cases hcompleting
    · intro hchecks
      rw [CallPosition.checksNext_start] at hchecks
      cases hchecks
  | enters hthread hwants hmay =>
    rename_i position calls monitor
    apply h.set s.directory hthread
    · intro monitor' hholds
      rcases CallPosition.holds_entered hwants hholds with hbefore | rfl
      · exact Or.inl hbefore
      · exact (Bool.or_eq_true _ _).mp hmay
    · intro hcompleting
      rw [CallPosition.completing_entered hwants] at hcompleting
      cases hcompleting
    · intro hchecks
      obtain ⟨consensus, fromCache, rfl⟩ := CallPosition.checksNext_entered hwants hchecks
      simp only [KeepsOrder, hthread] at horder
      exact horder
  | proceeds hthread hbusy hwants =>
    rename_i position calls
    apply h.set _ hthread
    · intro monitor hholds
      exact Or.inl (CallPosition.holds_proceed P now s.directory hwants hholds)
    · intro hcompleting
      obtain ⟨certificate, rfl, hcompletes⟩ := CallPosition.completing_proceed hwants hcompleting
      simp only [KeepsOrder, hthread] at horder
      exact horder hcompletes
    · intro hchecks other hother
      have hbefore := CallPosition.checksNext_proceed hwants hchecks
      cases hcompleting : other.position.completing with
      | false => rfl
      | true =>
        have hnot := h.apart other hother _ (List.mem_of_getElem? hthread) hcompleting
        cases hbefore.symm.trans hnot

/-! ## Who waits for whom

Along `WaitsFor` the rank falls: whoever is waited for is in a monitor, and a thread that waits
although it is in a monitor waits for one that does not wait. -/

/-- Not waiting, waiting in a monitor, waiting outside. -/
def rank (position : CallPosition) : Nat :=
  match position.wants with
  | none => 0
  | some monitor =>
    if position.holds monitor then 0
    else if position.holds .directory || position.holds .trustedAuthorities then 1
    else 2

theorem rank_le_one (hholds : position.holds monitor = true) : rank position ≤ 1 := by
  unfold rank
  cases position.wants with
  | none => simp
  | some wanted =>
    cases monitor <;> simp only [hholds, Bool.true_or, Bool.or_true, if_true] <;> split <;> simp

/-- The two ways of waiting in a monitor. -/
theorem rank_eq_one (h : rank position = 1) :
    (∃ consensus fromCache, position = .offer true .enter consensus fromCache) ∨
      (∃ consensus fromCache, position = .offer false .verify consensus fromCache) := by
  cases position with
  | offer nested stage consensus fromCache =>
    cases nested <;> cases stage <;> simp_all [rank, CallPosition.wants, CallPosition.holds]
  | _ => simp_all [rank, CallPosition.wants, CallPosition.holds]

theorem rank_pos (hwants : position.wants = some monitor) (hnot : position.holds monitor = false) :
    rank position = 1 ∨ rank position = 2 := by
  simp only [rank, hwants, hnot, Bool.false_eq_true, if_false]
  split
  · exact Or.inl rfl
  · exact Or.inr rfl

/-- Whoever is waited for by a thread in a monitor does not wait. -/
theorem Inv.rank_eq_zero (h : s.Inv) (hthread : thread ∈ s.threads)
    (hthread' : thread' ∈ s.threads) (hwants : thread.position.wants = some monitor)
    (hrank : rank thread.position = 1) (hholds : thread'.position.holds monitor = true) :
    rank thread'.position = 0 := by
  by_contra hwaiting
  have hone : rank thread'.position = 1 := by
    have hle := rank_le_one hholds
    omega
  rcases rank_eq_one hrank with ⟨consensus, fromCache, hat⟩ | ⟨consensus, fromCache, hat⟩
  · -- the other is in the directory, so it checks signatures next
    have hcompleting : thread.position.completing = true := by rw [hat]; rfl
    rw [hat] at hwants
    cases hwants
    rcases rank_eq_one hone with ⟨_, _, hat'⟩ | ⟨_, _, hat'⟩
    · rw [hat'] at hholds
      cases hholds
    · have hnot := h.apart thread hthread thread' hthread' hcompleting
      rw [hat'] at hnot
      cases hnot
  · -- the other has the authorities, so it has completed the waiting document
    have hchecks : thread.position.checksNext = true := by rw [hat]; rfl
    rw [hat] at hwants
    cases hwants
    rcases rank_eq_one hone with ⟨_, _, hat'⟩ | ⟨_, _, hat'⟩
    · have hnot := h.apart thread' hthread' thread hthread (by rw [hat']; rfl)
      cases hchecks.symm.trans hnot
    · rw [hat'] at hholds
      cases hholds

/-- The rank of the thread at a position of the list. -/
def rankAt (s : DirectoryUpdates) (i : Nat) : Nat :=
  (s.threads[i]?.map fun thread => rank thread.position).getD 0

theorem Inv.rank_falls (h : s.Inv) (hwaits : s.WaitsFor i j) : s.rankAt j < s.rankAt i := by
  obtain ⟨hne, thread, thread', monitor, hi, hj, hwants, hholds⟩ := hwaits
  have hnot : thread.position.holds monitor = false := by
    by_contra hboth
    rw [Bool.not_eq_false] at hboth
    exact hne (h.holder_unique hi hj hboth hholds)
  have hother := rank_le_one hholds
  simp only [rankAt, hi, hj, Option.map_some, Option.getD_some]
  rcases rank_pos hwants hnot with hone | htwo
  · have hzero := h.rank_eq_zero (List.mem_of_getElem? hi) (List.mem_of_getElem? hj) hwants hone
      hholds
    omega
  · omega

/-- No thread waits for itself through others. -/
theorem Inv.acyclic (h : s.Inv) (i : Nat) : ¬ Relation.TransGen s.WaitsFor i i := by
  have hfalls : ∀ j, Relation.TransGen s.WaitsFor i j → s.rankAt j < s.rankAt i := by
    intro j hwaits
    induction hwaits with
    | single hwaits => exact h.rank_falls hwaits
    | tail _ hwaits ih => exact Nat.lt_trans (h.rank_falls hwaits) ih
  exact fun hcycle => Nat.lt_irrefl _ (hfalls i hcycle)

/-- A thread that is not done and cannot move waits for another, which is not done either. -/
theorem waits_of_stuck (hi : s.threads[i]? = some thread)
    (hopen : ¬ (thread.position = .between ∧ thread.calls = [])) (hstuck : step P s (i, now) = none)
    :
    ∃ j thread', s.WaitsFor i j ∧ s.threads[j]? = some thread' ∧ thread'.position ≠ .between := by
  obtain ⟨position, calls⟩ := thread
  rcases eq_or_ne position .between with rfl | hidle
  · cases calls with
    | nil => exact absurd ⟨rfl, rfl⟩ hopen
    | cons call calls =>
      simp only [step, hi] at hstuck
      cases hstuck
  · rw [step_busy hi hidle] at hstuck
    cases hwants : position.wants with rw [hwants] at hstuck
    | none =>
      cases hstuck
    | some monitor =>
      dsimp only at hstuck
      split at hstuck
      · cases hstuck
      · rename_i hmay
        simp only [mayEnter, Bool.or_eq_true, not_or, List.all_eq_true, not_forall,
          Bool.not_eq_true', Bool.not_eq_false] at hmay
        obtain ⟨hnot, other, hother, hholds⟩ := hmay
        obtain ⟨j, hj⟩ := List.mem_iff_getElem?.mp hother
        refine ⟨j, other, ⟨?_, ⟨position, calls⟩, other, monitor, hi, hj, hwants, hholds⟩, hj, ?_⟩
        · rintro rfl
          cases hi.symm.trans hj
          exact hnot hholds
        · intro hbetween
          rw [hbetween] at hholds
          cases monitor <;> cases hholds

/-- **Nobody is stuck.** Otherwise there would be stuck threads of ever lower rank. -/
theorem Inv.returned (h : s.Inv) (hend : ∀ event, step P s event = none) : s.Returned := by
  have hdone : ∀ n i thread, s.rankAt i = n → s.threads[i]? = some thread →
      thread.position = .between ∧ thread.calls = [] := by
    intro n
    induction n using Nat.strong_induction_on with
    | _ n ih =>
      intro i thread hrank hi
      by_contra hopen
      obtain ⟨j, thread', hwaits, hj, hbusy⟩ := waits_of_stuck hi hopen (hend (i, 0))
      have hfalls := h.rank_falls hwaits
      exact hbusy (ih (s.rankAt j) (hrank ▸ hfalls) j thread' rfl hj).1
  intro thread hthread
  obtain ⟨i, hi⟩ := List.mem_iff_getElem?.mp hthread
  exact hdone (s.rankAt i) i thread rfl hi

theorem inv_start (directory : DirectoryImpl) (calls : List (List UpdateCall)) :
    (start directory calls).Inv := by
  have hbetween : ∀ thread ∈ (start directory calls).threads, thread.position = .between := by
    intro thread hthread
    obtain ⟨calls', -, rfl⟩ := List.mem_map.mp hthread
    rfl
  constructor
  · intro monitor
    apply Locks.exclusive_of_free
    intro monitor' thread hthread hlock
    have hholds := (lock_eq_some.mp hlock).1
    rw [hbetween thread hthread] at hholds
    cases monitor <;> cases hholds
  · intro thread hthread thread' _ hcompleting
    rw [hbetween thread hthread] at hcompleting
    cases hcompleting

/-! ## Runs -/

/-- **No deadlock, and all calls return**, in every run that keeps the order. A run that cannot go
on has returned from all calls, and every run is bounded. -/
theorem updates_return (P : Platform) (directory : DirectoryImpl) (calls : List (List UpdateCall))
    (events : List (Nat × Int))
    (horder : Runs.Meets (step P) (KeepsOrder P) (start directory calls) events)
    (s : DirectoryUpdates) (hrun : Runs.run (step P) (start directory calls) events = some s) :
    (∀ i, ¬ Relation.TransGen s.WaitsFor i i) ∧
      ((∀ event, step P s event = none) → s.Returned) ∧
      events.length ≤ 9 * (calls.map List.length).sum := by
  have hinv : s.Inv := Runs.invariant (fun _ _ _ h horder hstep => inv_step h horder hstep)
    (inv_start directory calls) horder hrun
  have hlength := Runs.length_add_le (fun _ _ _ hstep => work_step hstep) hrun
  rw [work_start] at hlength
  exact ⟨hinv.acyclic, hinv.returned, by omega⟩

/-- A document waits for the certificate of its one authority. -/
def completed : List (List UpdateCall) :=
  [[.addConsensusDocument (consensusOf [signer 1 0xB1]) false, .addCertificate (certificateFor 1)],
    [.addConsensusDocument (consensusOf [signer 1 0xB1]) false]]

/-- The second thread is late. -/
def inTurn : List (Nat × Int) :=
  List.replicate 14 (0, 5) ++ List.replicate 3 (1, 5)

theorem completed_in_turn :
    ∃ s, Runs.run (step Platform.checksum)
        (start (create (authorities [1])) completed) inTurn = some s ∧
      s.directory.currentConsensus.isSome = true ∧
      (∀ i, ¬ Relation.TransGen s.WaitsFor i i) := by
  have horder : Runs.Meets (step Platform.checksum) (KeepsOrder Platform.checksum)
      (start (create (authorities [1])) completed) inTurn := by decide +kernel
  obtain ⟨s, hrun, hs⟩ : ∃ s, Runs.run (step Platform.checksum)
      (start (create (authorities [1])) completed) inTurn = some s ∧
      s.directory.currentConsensus.isSome = true := by decide +kernel
  exact ⟨s, hrun, hs, (updates_return Platform.checksum _ completed inTurn horder s hrun).1⟩

/-- The second thread offers its document while the first completes the waiting one. -/
def crossing : List (Nat × Int) :=
  List.replicate 7 (0, 5) ++ List.replicate 3 (1, 5) ++ [(0, 5)]

/-- The first thread holds the authorities and wants the directory, the second the other way
round. -/
theorem updates_deadlock :
    ∃ s, Runs.run (step Platform.checksum)
        (start (create (authorities [1])) completed) crossing = some s ∧
      s.WaitsFor 0 1 ∧ s.WaitsFor 1 0 ∧ (∀ event, step Platform.checksum s event = none) ∧
      ¬ s.Returned := by
  obtain ⟨s, hrun, hthreads⟩ : ∃ s, Runs.run (step Platform.checksum)
      (start (create (authorities [1])) completed) crossing = some s ∧
      s.threads.map (fun thread => (thread.position.wants, thread.position.holds .directory,
        thread.position.holds .trustedAuthorities)) =
        [(some .directory, false, true), (some .trustedAuthorities, true, false)] := by
    decide +kernel
  obtain ⟨directory, threads⟩ := s
  obtain ⟨first, rest, rfl, hfirst, hrest⟩ := List.map_eq_cons_iff.mp hthreads
  obtain ⟨second, rest, rfl, hsecond, hrest⟩ := List.map_eq_cons_iff.mp hrest
  have hrest := List.map_eq_nil_iff.mp hrest
  subst hrest
  simp only [Prod.mk.injEq] at hfirst hsecond
  obtain ⟨hwants₁, hdirectory₁, hauthorities₁⟩ := hfirst
  obtain ⟨hwants₂, hdirectory₂, hauthorities₂⟩ := hsecond
  have hbusy₁ : first.position ≠ .between := by
    intro hbetween
    rw [hbetween] at hwants₁
    cases hwants₁
  have hbusy₂ : second.position ≠ .between := by
    intro hbetween
    rw [hbetween] at hwants₂
    cases hwants₂
  refine ⟨_, hrun, ⟨by decide, first, second, .directory, rfl, rfl, hwants₁, hdirectory₂⟩,
    ⟨by decide, second, first, .trustedAuthorities, rfl, rfl, hwants₂, hauthorities₁⟩, ?_, ?_⟩
  · rintro ⟨i, now⟩
    match i with
    | 0 =>
      rw [step_busy rfl hbusy₁, hwants₁]
      simp [mayEnter, hdirectory₁, hdirectory₂]
    | 1 =>
      rw [step_busy rfl hbusy₂, hwants₂]
      simp [mayEnter, hauthorities₁, hauthorities₂]
    | i + 2 => simp [step]
  · intro hreturned
    exact hbusy₁ (hreturned first List.mem_cons_self).1

end DirectoryUpdates

end Orchid
