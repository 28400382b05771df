import Orchid.Circuits.Extender

/-!
# Orchid — building a circuit

`CircuitBuildTask.run` takes a new circuit through its life up to OPEN: it chooses a path, opens
the connection to the first router, creates the first node and extends the circuit router by
router. What the network answers is in the two queues of the circuit from the start: an answer
is taken off its queue when it is waited for, and where the queue has ended the wait times out,
which ends the build, so every sequence of replies is one content of the queues.

`createFastTo` and `extendTo` return null when the key agreement refuses an answer, and neither
the build task nor `cannibalizeTo` looks at what they return.

* `Accepted`, `AllAccepted`: no answer that is read is refused, stated over the replies.
* **`extendAlong_spec`**: with accepted answers the loop adds a node per router, keyed by an
  agreement with it.
* **`extendAlong_refused`**: with a refused one it adds fewer nodes than the path has routers.
* **`built_authenticated_iff`**: of a completed build, and of a circuit that was cannibalised.
-/

namespace Orchid

open Prog Circuit CircuitExtender Handshakes

/-! ## The build task -/

/-- What a build task is made of. The choice of the path and the opening of the connection are
given by their outcomes, the key agreements by position in the path. -/
structure CircuitBuildTask where
  choosePath : Except JavaException (List Router)
  getConnectionTo : Router → Except JavaException Nat
  handshakes : Nat → Handshakes
  ntorEnabled : Bool

/-- How `run` ends. The text of an unexpected exception is the platform's. -/
inductive BuildOutcome where
  | completed
  | connectionFailed (message : JString)
  | circuitBuildFailed (message : JString)
  | unexpectedException (e : JavaException)
  deriving DecidableEq, Repr

/-- A circuit as its constructor leaves it, with the replies to come. -/
def Circuit.create (currentStreamId : Nat) (managerIsBuilding connectionClosed : Bool)
    (created : List Cell) (extended : List RelayCell) : Circuit :=
  { circuitId := 0
    state := .UNCONNECTED
    nodeList := []
    streamMap := []
    relayCellResponseQueue := extended
    controlCellResponseQueue := created
    currentStreamId := currentStreamId
    isMarkedForClose := false
    isClosed := false
    isBound := false
    isActive := false
    inCircuitMap := false
    managerIsBuilding := managerIsBuilding
    connectionClosed := connectionClosed
    sent := []
    extensions := []
    applications := []
    log := [] }

namespace CircuitBuildTask

variable (P : Platform) (W : Waits)

/-- `notifyCircuitBuildStart`, with `addActiveCircuit`: a manager that was stopped meanwhile
destroys the circuit. -/
def notifyCircuitBuildStart : CircuitM Unit := do
  if (← get).state ≠ .UNCONNECTED then
    throw (.illegalState (lit "Can only connect UNCONNECTED circuits"))
  modify fun c => { c with state := .BUILDING, isActive := true }
  if !(← get).managerIsBuilding then destroy P W

def notifyCircuitBuildFailed (c : Circuit) : Circuit :=
  { c with state := .FAILED, isActive := false }

def notifyCircuitBuildCompleted : CircuitM Unit := modify fun c => { c with state := .OPEN }

/-- `bindToConnection`; the connection gives the circuit its id. -/
def bindToConnection (circuitId : Nat) : CircuitM Unit := do
  if (← get).isBound then throw (.illegalState (lit "Circuit already bound to a connection"))
  modify fun c => { c with isBound := true, inCircuitMap := true, circuitId := circuitId }

def openEntryNodeConnection (task : CircuitBuildTask) (firstRouter : Router) : CircuitM Unit := do
  bindToConnection (← fromExcept (task.getConnectionTo firstRouter))

/-- The loop of `buildCircuit`. What `extendTo` returns goes to a handler that is not told
whether it is null. -/
def extendAlong (handshakes : Nat → Handshakes) (ntorEnabled : Bool) :
    Nat → List Router → CircuitM Unit
  | _, [] => return ()
  | i, router :: path => do
    let _ ← extendTo P W (handshakes i) ntorEnabled router
    extendAlong handshakes ntorEnabled (i + 1) path

def buildCircuit (task : CircuitBuildTask) (firstRouter : Router) (path : List Router) :
    CircuitM Unit := do
  let _ ← createFastTo P W (task.handshakes 0) firstRouter
  extendAlong P W task.handshakes task.ntorEnabled 1 path

/-- The body of the `try` in `run`. -/
def build (task : CircuitBuildTask) : CircuitM Unit := do
  notifyCircuitBuildStart P W
  match ← fromExcept task.choosePath with
  | [] => throw .indexOutOfBounds
  | firstRouter :: path =>
    openEntryNodeConnection task firstRouter
    buildCircuit P W task firstRouter path
    notifyCircuitBuildCompleted

/-- `firstRouter` in a message. -/
def firstRouterText (task : CircuitBuildTask) : JString :=
  match task.choosePath with
  | .ok (firstRouter :: _) => firstRouter.toJString
  | _ => lit "null"

/-- The `catch` clauses of `run`. -/
def outcome (task : CircuitBuildTask) : JavaException → BuildOutcome
  | .connectionTimeout =>
    .connectionFailed (lit "Timeout connecting to " ++ task.firstRouterText)
  | .connectionFailed message =>
    .connectionFailed (lit "Connection failed to " ++ task.firstRouterText ++ lit " : " ++ message)
  | .connectionHandshake message =>
    .connectionFailed
      (lit "Handshake error connecting to " ++ task.firstRouterText ++ lit " : " ++ message)
  | .interrupted => .circuitBuildFailed (lit "Circuit building thread interrupted")
  | .pathSelectionFailed message => .circuitBuildFailed message
  | .tor message => .circuitBuildFailed message
  | .torParsing message => .circuitBuildFailed message
  | e => .unexpectedException e

/-- The task has a connection: it got as far as `openEntryNodeConnection`, which succeeded. -/
def hasConnection (task : CircuitBuildTask) (c : Circuit) : Bool :=
  c.state = .UNCONNECTED &&
    match task.choosePath with
    | .ok (firstRouter :: _) => (task.getConnectionTo firstRouter).isOk
    | _ => false

/-- The end of a build that failed. `circuitBuildFailed` gives up the circuit's id, if there is a
connection; `connectionFailed` does not. -/
def buildFailed (outcome : BuildOutcome) (hasConnection : Bool) (c : Circuit) : Circuit :=
  match outcome with
  | .connectionFailed _ => notifyCircuitBuildFailed c
  | _ =>
    if hasConnection then
      { notifyCircuitBuildFailed c with inCircuitMap := false, log := c.log ++ [.idRemoved] }
    else notifyCircuitBuildFailed c

def run (task : CircuitBuildTask) (c : Circuit) : BuildOutcome × Circuit :=
  match build P W task c with
  | .ok _ c' => (.completed, c')
  | .error e c' => (task.outcome e, buildFailed (task.outcome e) (task.hasConnection c) c')

end CircuitBuildTask

/-! ## Internal circuits -/

/-- `InternalCircuitImpl.InternalType`. -/
inductive InternalType where
  | UNUSED
  | HS_INTRODUCTION
  | HS_DIRECTORY
  | HS_CIRCUIT
  deriving DecidableEq, Repr

def InternalType.toJString : InternalType → JString
  | .UNUSED => lit "UNUSED"
  | .HS_INTRODUCTION => lit "HS_INTRODUCTION"
  | .HS_DIRECTORY => lit "HS_DIRECTORY"
  | .HS_CIRCUIT => lit "HS_CIRCUIT"

structure InternalCircuitImpl where
  circuit : Circuit
  type : InternalType
  ntorEnabled : Bool

namespace InternalCircuitImpl

abbrev InternalM := Prog JavaException InternalCircuitImpl

variable (P : Platform) (W : Waits)

/-- A call on the circuit underneath. -/
def onCircuit {α : Type} (x : CircuitM α) : InternalM α := fun s =>
  match x s.circuit with
  | .ok a c => .ok a { s with circuit := c }
  | .error e c => .error e { s with circuit := c }

def cannibalizeTo (hs : Handshakes) (target : Router) : InternalM Unit := do
  let type := (← get).type
  if type ≠ .UNUSED then
    throw (.illegalState (lit "Cannot cannibalize internal circuit with type " ++ type.toJString))
  let _ ← onCircuit (extendTo P W hs (← get).ntorEnabled target)

/-- `cannibalizeToIntroductionPoint` and `cannibalizeToDirectory` differ in the type the
circuit has from then on. -/
def cannibalizeAs (type : InternalType) (hs : Handshakes) (target : Router) : InternalM Unit := do
  cannibalizeTo P W hs target
  modify fun s => { s with type := type }

def cannibalizeToIntroductionPoint : Handshakes → Router → InternalM Unit :=
  cannibalizeAs P W .HS_INTRODUCTION

def cannibalizeToDirectory : Handshakes → Router → InternalM Unit :=
  cannibalizeAs P W .HS_DIRECTORY

end InternalCircuitImpl

/-! ## Accepted answers -/

namespace CircuitBuildTask

/-- The agreement does not refuse this answer. An answer that cannot be read is nobody's to
refuse: reading it raises. -/
def Accepted (kex : KeyAgreement) (answer : Except JavaException (List UInt8)) : Prop :=
  ∀ bytes, answer = .ok bytes → kex.deriveKeys bytes ≠ .ok none

/-- No answer to an extension along `path` is refused. The i-th of them is read as the answer
to the request that is made of `previous`, the router in front. -/
def AllAccepted (handshakes : Nat → Handshakes) (ntorEnabled : Bool) :
    Nat → Router → List Router → List RelayCell → Prop
  | i, previous, router :: path, response :: responses =>
    Accepted ((kindAfter ntorEnabled (some previous) router).agreement (handshakes i) router)
        ((kindAfter ntorEnabled (some previous) router).payload response) ∧
      AllAccepted handshakes ntorEnabled (i + 1) router path responses
  | _, _, _, _ => True

/-- The node of a router that was added by an extension: its keys are what an agreement with
that router derived from one of the responses. -/
def Extended (hs : Handshakes) (responses : List RelayCell) (router : Router) (n : CircuitNode) :
    Prop :=
  ∃ kind response bytes keys, response ∈ responses ∧
    ExtendKind.payload kind response = .ok bytes ∧
    (ExtendKind.agreement kind hs router).deriveKeys bytes = .ok (some keys) ∧
    KeyedBy keys router n

/-- The node of a router that was added first. -/
def Created (hs : Handshakes) (cells : List Cell) (router : Router) (n : CircuitNode) : Prop :=
  ∃ cell bytes keys, cell ∈ cells ∧ createdPayload cell = .ok bytes ∧
    hs.createFast.deriveKeys bytes = .ok (some keys) ∧ KeyedBy keys router n

/-- The node at position `i`, from the replies in the queues of `c`. -/
def Authenticated (hs : Handshakes) (c : Circuit) (i : Nat) (router : Router) (n : CircuitNode) :
    Prop :=
  match i with
  | 0 => Created hs c.controlCellResponseQueue router n
  | _ + 1 => Extended hs c.relayCellResponseQueue router n

/-- One node per element of the path, in its order, each authenticated. -/
structure BuiltAlong (handshakes : Nat → Handshakes) (c : Circuit) (path : List Router)
    (nodes : List CircuitNode) : Prop where
  length_eq : nodes.length = path.length
  authenticated : ∀ i router n, path[i]? = some router → nodes[i]? = some n →
    Authenticated (handshakes i) c i router n

/-- No reply is refused by the agreement of its place in the path. -/
def RepliesAccepted (task : CircuitBuildTask) (c : Circuit) (path : List Router) : Prop :=
  match path, c.controlCellResponseQueue with
  | first :: path, cell :: _ =>
    Accepted (task.handshakes 0).createFast (createdPayload cell) ∧
      AllAccepted task.handshakes task.ntorEnabled 1 first path c.relayCellResponseQueue
  | _, _ => True

theorem repliesAccepted_cons {task : CircuitBuildTask} {c : Circuit} {first : Router}
    {path : List Router} {cell : Cell} {cells : List Cell}
    (h : c.controlCellResponseQueue = cell :: cells) :
    RepliesAccepted task c (first :: path) ↔
      Accepted (task.handshakes 0).createFast (createdPayload cell) ∧
        AllAccepted task.handshakes task.ntorEnabled 1 first path c.relayCellResponseQueue := by
  unfold RepliesAccepted
  rw [h]

variable {hs : Handshakes} {router : Router} {n : CircuitNode}

theorem Extended.kept {responses : List RelayCell}
    {n' : CircuitNode} (h : Extended hs responses router n) (hkept : NodeKept n n') :
    Extended hs responses router n' := by
  obtain ⟨kind, response, bytes, keys, hmem, hpayload, hderive, hkeyed⟩ := h
  exact ⟨kind, response, bytes, keys, hmem, hpayload, hderive, hkeyed.kept hkept⟩

theorem Extended.mono {responses responses' : List RelayCell}
    (h : Extended hs responses router n) (hsub : responses ⊆ responses') :
    Extended hs responses' router n := by
  obtain ⟨kind, response, bytes, keys, hmem, hrest⟩ := h
  exact ⟨kind, response, bytes, keys, hsub hmem, hrest⟩

end CircuitBuildTask

namespace CircuitExtender.Grows

variable {kex : KeyAgreement} {target : Router} {payload : List UInt8}
  {nodes nodes' : List CircuitNode}

/-- A handshake adds one node at most. -/
theorem length_le (h : Grows kex target payload nodes nodes') :
    nodes'.length ≤ nodes.length + 1 := by
  obtain ⟨result, kept, -, hkept, hnodes⟩ := h
  have hlength := hkept.length_eq
  cases result with
  | none =>
    have hsame : nodes' = kept := hnodes
    rw [hsame]
    omega
  | some keys =>
    obtain ⟨n, -, rfl⟩ := hnodes
    rw [List.length_append, List.length_singleton]
    omega

theorem of_accepted (h : Grows kex target payload nodes nodes')
    (haccepted : CircuitBuildTask.Accepted kex (.ok payload)) :
    ∃ keys kept n, kex.deriveKeys payload = .ok (some keys) ∧ List.Forall₂ NodeKept nodes kept ∧
      KeyedBy keys target n ∧ nodes' = kept ++ [n] := by
  obtain ⟨result, kept, hderive, hkept, hnodes⟩ := h
  cases result with
  | none => exact absurd hderive (haccepted payload rfl)
  | some keys =>
    obtain ⟨n, hkeyed, rfl⟩ := hnodes
    exact ⟨keys, kept, n, hderive, hkept, hkeyed, rfl⟩

theorem length_of_refused (h : Grows kex target payload nodes nodes')
    (hrefused : ¬ CircuitBuildTask.Accepted kex (.ok payload)) : nodes'.length = nodes.length := by
  obtain ⟨result, kept, hderive, hkept, hnodes⟩ := h
  cases result with
  | none =>
    have hsame : nodes' = kept := hnodes
    rw [hsame, hkept.length_eq]
  | some keys =>
    -- an agreement that derived keys has not refused
    refine absurd ?_ hrefused
    intro bytes hbytes hnone
    cases hbytes
    cases hderive.symm.trans hnone

end CircuitExtender.Grows

/-! ## The loop -/

namespace CircuitBuildTask

variable {P : Platform} {W : Waits} {handshakes : Nat → Handshakes} {ntorEnabled : Bool}

variable {c c' : Circuit} {i : Nat} {path : List Router} {task : CircuitBuildTask}

theorem extendAlong_length (h : extendAlong P W handshakes ntorEnabled i path c = .ok () c') :
    c'.nodeList.length ≤ c.nodeList.length + path.length := by
  induction path generalizing i c with
  | nil =>
    cases h
    exact Nat.le_refl _
  | cons router path ih =>
    obtain ⟨o, c₁, hextend, hrest⟩ := bind_eq_ok.mp h
    obtain ⟨response, payload, -, -, hgrows⟩ := extendTo_spec P W hextend
    have hone := hgrows.length_le
    have hmore := ih hrest
    rw [List.length_cons]
    omega

theorem finalRouter_append {kept : List CircuitNode}
    (hnodes : c.nodeList = kept ++ [n]) (hrouter : n.router = some router) :
    finalRouter c = some router := by
  unfold finalRouter
  rw [hnodes, List.getLast?_concat]
  exact hrouter

variable {previous : Router}

/-- **The loop, with accepted answers.** The nodes that were there are kept, and behind them is
one node per router of the path, in its order. -/
theorem extendAlong_spec (h : extendAlong P W handshakes ntorEnabled i path c = .ok () c')
    (hprevious : finalRouter c = some previous)
    (haccepted : AllAccepted handshakes ntorEnabled i previous path c.relayCellResponseQueue) :
    ∃ kept added, List.Forall₂ NodeKept c.nodeList kept ∧ c'.nodeList = kept ++ added ∧
      added.length = path.length ∧
      ∀ k router n, path[k]? = some router → added[k]? = some n →
        Extended (handshakes (i + k)) c.relayCellResponseQueue router n := by
  induction path generalizing i previous c with
  | nil =>
    cases h
    refine ⟨c'.nodeList, [], nodesKept_refl _, (List.append_nil _).symm, rfl, ?_⟩
    intro k router n hrouter
    rw [List.getElem?_nil] at hrouter
    cases hrouter
  | cons router path ih =>
    obtain ⟨o, c₁, hextend, hrest⟩ := bind_eq_ok.mp h
    obtain ⟨response, payload, hqueue, hpayload, hgrows⟩ := extendTo_spec P W hextend
    rw [hprevious] at hpayload hgrows
    rw [hqueue] at haccepted
    obtain ⟨hfirst, hothers⟩ := haccepted
    rw [hpayload] at hfirst
    obtain ⟨keys, kept, n, hderive, hkept, hkeyed, hnodes⟩ := hgrows.of_accepted hfirst
    obtain ⟨kept₁, added, hkept₁, hnodes', hlength, hadded⟩ :=
      ih hrest (finalRouter_append hnodes hkeyed.router) hothers
    -- the node of this round is the last of those the other rounds keep
    rw [hnodes] at hkept₁
    obtain ⟨kept₂, last, hkept₂, hlast, rfl⟩ :
        ∃ kept₂ last, List.Forall₂ NodeKept kept kept₂ ∧ NodeKept n last ∧
          kept₁ = kept₂ ++ [last] := nodesKept_concat hkept₁
    refine ⟨kept₂, last :: added, nodesKept_trans hkept hkept₂, ?_, ?_, ?_⟩
    · rw [hnodes', List.append_assoc, List.singleton_append]
    · rw [List.length_cons, List.length_cons, hlength]
    · intro k router' n' hrouter hnode
      cases k with
      | zero =>
        rw [List.getElem?_cons_zero] at hrouter hnode
        cases hrouter
        cases hnode
        refine Extended.kept ⟨_, response, payload, keys, ?_, hpayload, hderive, hkeyed⟩ hlast
        rw [hqueue]
        exact List.mem_cons_self
      | succ k =>
        rw [List.getElem?_cons_succ] at hrouter hnode
        have hlater := hadded k router' n' hrouter hnode
        rw [show i + (k + 1) = i + 1 + k from by omega]
        refine hlater.mono ?_
        rw [hqueue]
        exact List.subset_cons_self _ _

/-- **The loop, with a refused answer.** A node is missing. -/
theorem extendAlong_refused (h : extendAlong P W handshakes ntorEnabled i path c = .ok () c')
    (hprevious : finalRouter c = some previous)
    (hrefused : ¬ AllAccepted handshakes ntorEnabled i previous path c.relayCellResponseQueue) :
    c'.nodeList.length < c.nodeList.length + path.length := by
  induction path generalizing i previous c with
  | nil => exact absurd trivial hrefused
  | cons router path ih =>
    obtain ⟨o, c₁, hextend, hrest⟩ := bind_eq_ok.mp h
    obtain ⟨response, payload, hqueue, hpayload, hgrows⟩ := extendTo_spec P W hextend
    rw [hprevious] at hpayload hgrows
    rw [hqueue] at hrefused
    rw [List.length_cons]
    by_cases hfirst : Accepted
        ((kindAfter ntorEnabled (some previous) router).agreement (handshakes i) router)
        (.ok payload)
    · -- refused later: this round adds one node
      obtain ⟨keys, kept, n, -, -, hkeyed, hnodes⟩ := hgrows.of_accepted hfirst
      have hothers : ¬ AllAccepted handshakes ntorEnabled (i + 1) router path
          c₁.relayCellResponseQueue := by
        intro hall
        refine hrefused ⟨?_, hall⟩
        rw [hpayload]
        exact hfirst
      have hmore := ih hrest (finalRouter_append hnodes hkeyed.router) hothers
      have hone := hgrows.length_le
      omega
    · -- refused now: this round adds none
      have hnone := hgrows.length_of_refused hfirst
      have hmore := extendAlong_length hrest
      omega

/-! ## The task -/

theorem notifyCircuitBuildStart_kept (P : Platform) (W : Waits) :
    Steps Kept (notifyCircuitBuildStart P W) := by
  have hmain : Steps Kept (do
      modify fun c : Circuit => { c with state := .BUILDING, isActive := true }
      if !(← get).managerIsBuilding then destroy P W : CircuitM Unit) := by
    refine Kept.order.bind (Steps.modify fun c => ?_) fun _ => ?_
    · exact Kept.of_untouched rfl (List.Subset.refl _) rfl rfl rfl rfl
    refine Steps.get_bind fun c => ?_
    exact (stepsKept (destroy_steps P W writes_destroying fun _ => .single .inactive)).ite (Kept.order.pure _)
  refine Steps.get_bind fun c => ?_
  refine Steps.ite ?_ hmain
  exact Kept.order.bind (Kept.order.throw _) fun _ => hmain

/-- What a completed build did: the connection is a matter of the circuit's id, and the nodes
come from the two handshake steps. -/
theorem build_ok (hpath : task.choosePath = .ok path) (hnew : c.nodeList = [])
    (h : build P W task c = .ok () c') :
    ∃ first rest cell cells payload c₂, path = first :: rest ∧
      c.controlCellResponseQueue = cell :: cells ∧
      c₂.relayCellResponseQueue = c.relayCellResponseQueue ∧
      createdPayload cell = .ok payload ∧
      Grows (task.handshakes 0).createFast first payload [] c₂.nodeList ∧
      ∃ c₃, extendAlong P W task.handshakes task.ntorEnabled 1 rest c₂ = .ok () c₃ ∧
        c'.nodeList = c₃.nodeList := by
  obtain ⟨u, d, hstart, hbuild⟩ := bind_eq_ok.mp h
  have hkept : Kept c d := (notifyCircuitBuildStart_kept P W).ok hstart
  obtain ⟨path', hpath', htask⟩ := fromExcept_bind_eq_ok.mp hbuild
  cases hpath.symm.trans hpath'
  cases path with
  | nil => cases htask
  | cons first rest =>
    obtain ⟨u, c₁, hopen, hnodes⟩ := bind_eq_ok.mp htask
    obtain ⟨id, -, hbind⟩ := fromExcept_bind_eq_ok.mp hopen
    unfold bindToConnection at hbind
    rw [get_bind_run] at hbind
    split at hbind
    · cases hbind
    cases hbind
    obtain ⟨u, c₃, hsteps, hcompleted⟩ := bind_eq_ok.mp hnodes
    obtain ⟨o, c₂, hfirst, hothers⟩ := bind_eq_ok.mp hsteps
    cases hcompleted
    obtain ⟨cell, payload, hcontrol, hrelay, hpayload, hgrows⟩ := createFastTo_spec P W hfirst
    have hnone : d.nodeList = [] := List.forall₂_nil_left_iff.mp (hnew ▸ hkept.nodes)
    rw [show Circuit.nodeList _ = [] from hnone] at hgrows
    exact ⟨first, rest, cell, _, payload, c₂, rfl, hkept.controlQueue.symm.trans hcontrol,
      hrelay.trans hkept.relayQueue, hpayload, hgrows, c₃, hothers, rfl⟩

/-- With accepted replies a completed build has its nodes. -/
theorem builtAlong_of_accepted (hpath : task.choosePath = .ok path) (hnew : c.nodeList = [])
    (h : build P W task c = .ok () c') (haccepted : RepliesAccepted task c path) :
    BuiltAlong task.handshakes c path c'.nodeList := by
  obtain ⟨first, rest, cell, cells, bytes, c₂, rfl, hcontrol, hrelay, hbytes, hgrows, c₃, hextend,
    hnodes⟩ := build_ok hpath hnew h
  obtain ⟨hfirst, hothers⟩ := (repliesAccepted_cons hcontrol).mp haccepted
  rw [hbytes] at hfirst
  obtain ⟨keys, kept, n, hderive, hkept, hkeyed, hnodes₂⟩ := hgrows.of_accepted hfirst
  cases hkept
  rw [← hrelay] at hothers
  obtain ⟨kept, added, hkept, hnodes₃, hlength, hadded⟩ :=
    extendAlong_spec hextend (finalRouter_append hnodes₂ hkeyed.router) hothers
  rw [hnodes₂] at hkept
  obtain ⟨front, last, hfront, hlast, rfl⟩ := nodesKept_concat hkept
  cases hfront
  have hall : c'.nodeList = last :: added := by rw [hnodes, hnodes₃]; rfl
  rw [hall]
  refine ⟨by rw [List.length_cons, List.length_cons, hlength], ?_⟩
  intro i router n' hrouter hnode
  cases i with
  | zero =>
    rw [List.getElem?_cons_zero] at hrouter hnode
    cases hrouter
    cases hnode
    refine ⟨cell, bytes, keys, ?_, hbytes, hderive, hkeyed.kept hlast⟩
    rw [hcontrol]
    exact List.mem_cons_self
  | succ i =>
    rw [List.getElem?_cons_succ] at hrouter hnode
    have hnodeAt := hadded i router n' hrouter hnode
    rw [hrelay, Nat.add_comm] at hnodeAt
    exact hnodeAt

/-- With a refused reply a completed build has too few nodes. -/
theorem length_of_refused (hpath : task.choosePath = .ok path) (hnew : c.nodeList = [])
    (h : build P W task c = .ok () c') (hrefused : ¬ RepliesAccepted task c path) :
    c'.nodeList.length < path.length := by
  obtain ⟨first, rest, cell, cells, bytes, c₂, rfl, hcontrol, hrelay, hbytes, hgrows, c₃, hextend,
    hnodes⟩ := build_ok hpath hnew h
  have hone := hgrows.length_le
  have hmore := extendAlong_length hextend
  rw [hnodes, List.length_cons]
  rw [List.length_nil] at hone
  by_cases hfirst : Accepted (task.handshakes 0).createFast (.ok bytes)
  · obtain ⟨keys, kept, n, -, -, hkeyed, hnodes₂⟩ := hgrows.of_accepted hfirst
    have hothers : ¬ AllAccepted task.handshakes task.ntorEnabled 1 first rest
        c₂.relayCellResponseQueue := by
      intro hall
      rw [hrelay] at hall
      rw [← hbytes] at hfirst
      exact hrefused ((repliesAccepted_cons hcontrol).mpr ⟨hfirst, hall⟩)
    have hless := extendAlong_refused hextend (finalRouter_append hnodes₂ hkeyed.router) hothers
    omega
  · have hnone := hgrows.length_of_refused hfirst
    rw [List.length_nil] at hnone
    omega

theorem build_of_completed (h : run P W task c = (.completed, c')) :
    build P W task c = .ok () c' := by
  unfold run at h
  cases hbuild : build P W task c with rw [hbuild] at h
  | ok u d =>
    cases h
    rfl
  | error e d => cases e <;> cases h

end CircuitBuildTask

/-! ## Cannibalised circuits -/

namespace InternalCircuitImpl

open CircuitBuildTask

variable {P : Platform} {W : Waits}

/-- The circuit has a new final node, which is the target's and authenticated by one of the
replies. -/
def EndsAt (hs : Handshakes) (s s' : InternalCircuitImpl) (target : Router) : Prop :=
  ∃ front n, s'.circuit.nodeList = front ++ [n] ∧
    front.length = s.circuit.nodeList.length ∧
    Extended hs s.circuit.relayCellResponseQueue target n

/-- The reply to the extension is not refused. -/
def ReplyAccepted (hs : Handshakes) (s : InternalCircuitImpl) (target : Router) : Prop :=
  match s.circuit.relayCellResponseQueue with
  | [] => True
  | response :: _ =>
    Accepted
      ((kindAfter s.ntorEnabled (finalRouter s.circuit) target).agreement hs target)
      ((kindAfter s.ntorEnabled (finalRouter s.circuit) target).payload response)

variable {s s' : InternalCircuitImpl}

theorem onCircuit_eq_ok {α : Type} {x : CircuitM α} {a : α} (h : onCircuit x s = .ok a s') :
    x s.circuit = .ok a s'.circuit := by
  unfold onCircuit at h
  cases hx : x s.circuit with rw [hx] at h
  | ok b c =>
    cases h
    rfl
  | error e c => cases h

/-- Both ways to cannibalise a circuit extend it, and no more. -/
theorem cannibalizeAs_ok {type : InternalType} {target : Router}
    (h : cannibalizeAs P W type hs target s = .ok () s') :
    ∃ o, extendTo P W hs s.ntorEnabled target s.circuit = .ok o s'.circuit := by
  obtain ⟨u, s₁, hto, htype⟩ := bind_eq_ok.mp h
  cases htype
  unfold cannibalizeTo at hto
  rw [get_bind_run] at hto
  split at hto
  · cases hto
  obtain ⟨s₂, s₃, hget, hrest⟩ := bind_eq_ok.mp hto
  cases hget
  obtain ⟨o, s₄, hextend, hreturn⟩ := bind_eq_ok.mp hrest
  cases hreturn
  have hcircuit := onCircuit_eq_ok hextend
  exact ⟨o, hcircuit⟩

theorem endsAt_iff_of_extendTo {target : Router} {o : Option CircuitNode}
    (h : extendTo P W hs s.ntorEnabled target s.circuit = .ok o s'.circuit) :
    EndsAt hs s s' target ↔ ReplyAccepted hs s target := by
  obtain ⟨response, bytes, hqueue, hbytes, hgrows⟩ := extendTo_spec P W h
  have hreply : ReplyAccepted hs s target ↔ Accepted
      ((kindAfter s.ntorEnabled (finalRouter s.circuit) target).agreement hs target)
      (.ok bytes) := by
    unfold ReplyAccepted
    rw [hqueue]
    dsimp only
    rw [hbytes]
  rw [hreply]
  constructor
  · rintro ⟨front, n, hnodes, hlength, -⟩
    -- a refused answer would have left the number of nodes as it was
    by_contra hrefused
    have hsame := hgrows.length_of_refused hrefused
    rw [hnodes, List.length_append, List.length_singleton] at hsame
    omega
  · intro haccepted
    obtain ⟨keys, kept, n, hderive, hkept, hkeyed, hnodes⟩ := hgrows.of_accepted haccepted
    refine ⟨kept, n, hnodes, hkept.length_eq.symm, _, response, bytes, keys, ?_, hbytes, hderive,
      hkeyed⟩
    rw [hqueue]
    exact List.mem_cons_self

end InternalCircuitImpl

/-! ## Nodes and replies -/

open CircuitBuildTask InternalCircuitImpl in
/-- **Authenticated circuits.** A build that completed has one authenticated node per element of
its path exactly if no reply on the way was refused, and a circuit that was cannibalised ends at
its target, authenticated, exactly if the reply was not refused. -/
theorem built_authenticated_iff (P : Platform) (W : Waits) (task : CircuitBuildTask)
    (currentStreamId : Nat) (managerIsBuilding connectionClosed : Bool) (created : List Cell)
    (extended : List RelayCell) (hs : Handshakes) (target : Router) (s : InternalCircuitImpl) :
    (∀ path c', task.choosePath = .ok path →
      run P W task (Circuit.create currentStreamId managerIsBuilding connectionClosed created extended) =
        (.completed, c') →
      (BuiltAlong task.handshakes
          (Circuit.create currentStreamId managerIsBuilding connectionClosed created extended) path c'.nodeList ↔
        RepliesAccepted task
          (Circuit.create currentStreamId managerIsBuilding connectionClosed created extended) path)) ∧
    (∀ s', (cannibalizeToIntroductionPoint P W hs target s = .ok () s' ∨
        cannibalizeToDirectory P W hs target s = .ok () s') →
      (EndsAt hs s s' target ↔ ReplyAccepted hs s target)) := by
  constructor
  · intro path c' hpath hrun
    have hbuild := build_of_completed hrun
    constructor
    · intro hbuilt
      by_contra hrefused
      have hless := length_of_refused hpath rfl hbuild hrefused
      have hlength := hbuilt.length_eq
      omega
    · exact builtAlong_of_accepted hpath rfl hbuild
  · rintro s' (h | h)
    · obtain ⟨o, hextend⟩ := cannibalizeAs_ok h
      exact endsAt_iff_of_extendTo hextend
    · obtain ⟨o, hextend⟩ := cannibalizeAs_ok h
      exact endsAt_iff_of_extendTo hextend

/-! ## A path of two routers -/

def sampleRouter : Router :=
  { nickname := lit "relay"
    identityHash := ⟨List.replicate 20 7, Or.inl rfl⟩
    address := ⟨0x0A000001⟩
    onionPort := 9001
    onionKey := ⟨lit "key"⟩
    ntorOnionKey := none }

def sampleTarget : Router := { sampleRouter with nickname := lit "target" }

def sampleKeys : DerivedKeys :=
  ⟨List.replicate 72 1, List.replicate 20 2, List.length_replicate .., List.length_replicate ..⟩

/-- Agreements that answer all replies alike. -/
def Handshakes.always (result : Option DerivedKeys) : Handshakes where
  createFast := ⟨List.replicate 20 3, fun _ => .ok result⟩
  ntor _ _ := ⟨List.replicate 84 3, fun _ => .ok result⟩
  tap _ := ⟨List.replicate 186 3, fun _ => .ok result⟩

/-- A path of two routers; `result` is what comes of the second handshake. -/
def sampleTask (result : Option DerivedKeys) : CircuitBuildTask where
  choosePath := .ok [sampleRouter, sampleTarget]
  getConnectionTo _ := .ok 1
  handshakes i := always (if i = 0 then some sampleKeys else result)
  ntorEnabled := false

/-- A new circuit, with one reply for the first handshake and two for extensions. -/
def sampleCircuit : Circuit :=
  Circuit.create 1 true false [Cell.createCell 1 Cell.CREATED_FAST]
    [RelayCell.create 0 1 0 RelayCell.RELAY_EXTENDED false,
      RelayCell.create 0 1 0 RelayCell.RELAY_EXTENDED false]

/-- The circuit after the task. -/
@[irreducible] def sampleBuilt (result : Option DerivedKeys) : BuildOutcome × Circuit :=
  CircuitBuildTask.run Platform.checksum Waits.never (sampleTask result) sampleCircuit

/-- A circuit of one node, with the replies to its extensions. -/
def sampleInternal : InternalCircuitImpl :=
  ⟨(sampleBuilt none).2, .UNUSED, false⟩

/-- The circuit after it was cannibalised. -/
def sampleCannibalized (result : Option DerivedKeys) :
    EStateM.Result JavaException InternalCircuitImpl Unit :=
  InternalCircuitImpl.cannibalizeToDirectory Platform.checksum Waits.never (always result)
    sampleTarget sampleInternal

theorem sampleBuilt_eq (result : Option DerivedKeys) : sampleBuilt result =
    CircuitBuildTask.run Platform.checksum Waits.never (sampleTask result) sampleCircuit := by
  unfold sampleBuilt
  rfl

theorem sampleBuilt_completed :
    (sampleBuilt (some sampleKeys)).1 = .completed ∧ (sampleBuilt none).1 = .completed := by
  decide +kernel

theorem sampleBuilt_routers :
    (sampleBuilt none).2.nodeList.map CircuitNode.router = [some sampleRouter] := by
  decide +kernel

theorem sampleCannibalized_returned :
    returned (sampleCannibalized (some sampleKeys)) = true ∧
      returned (sampleCannibalized none) = true := by
  decide +kernel

theorem sampleCannibalized_routers :
    (final (sampleCannibalized none)).circuit.nodeList.map CircuitNode.router =
      [some sampleRouter] := by
  decide +kernel

theorem accepted_of_derived {kex : KeyAgreement} {keys : DerivedKeys}
    (h : ∀ bytes, kex.deriveKeys bytes = .ok (some keys))
    (answer : Except JavaException (List UInt8)) : CircuitBuildTask.Accepted kex answer := by
  intro bytes _ hnone
  rw [h] at hnone
  cases hnone

theorem accepted_always (kind : ExtendKind) (keys : DerivedKeys) (target : Router)
    (answer : Except JavaException (List UInt8)) :
    CircuitBuildTask.Accepted (kind.agreement (always (some keys)) target) answer := by
  have hderived : ∀ bytes,
      (kind.agreement (always (some keys)) target).deriveKeys bytes = .ok (some keys) := by
    intro bytes
    cases kind <;> rfl
  exact accepted_of_derived hderived answer

theorem sampleReplies_accepted :
    CircuitBuildTask.RepliesAccepted (sampleTask (some sampleKeys)) sampleCircuit
        [sampleRouter, sampleTarget] ∧
      InternalCircuitImpl.ReplyAccepted (always (some sampleKeys)) sampleInternal
        sampleTarget := by
  constructor
  · refine ⟨accepted_of_derived (fun _ => rfl) _, accepted_always _ sampleKeys _ _, trivial⟩
  · unfold InternalCircuitImpl.ReplyAccepted
    cases sampleInternal.circuit.relayCellResponseQueue with
    | nil => exact trivial
    | cons response _ => exact accepted_always _ sampleKeys _ _

open CircuitBuildTask InternalCircuitImpl in
/-- Two routers and a third one: with keys from every handshake the nodes are there. -/
theorem sample_nodes_authenticated :
    (sampleBuilt (some sampleKeys)).1 = .completed ∧
    BuiltAlong (sampleTask (some sampleKeys)).handshakes sampleCircuit
      [sampleRouter, sampleTarget] (sampleBuilt (some sampleKeys)).2.nodeList ∧
    EndsAt (always (some sampleKeys)) sampleInternal
      (final (sampleCannibalized (some sampleKeys))) sampleTarget := by
  have hiff := built_authenticated_iff Platform.checksum Waits.never
    (sampleTask (some sampleKeys)) 1 true false [Cell.createCell 1 Cell.CREATED_FAST]
    [RelayCell.create 0 1 0 RelayCell.RELAY_EXTENDED false,
      RelayCell.create 0 1 0 RelayCell.RELAY_EXTENDED false]
    (always (some sampleKeys)) sampleTarget sampleInternal
  obtain ⟨hreplies, hreply⟩ := sampleReplies_accepted
  refine ⟨sampleBuilt_completed.1, ?_, ?_⟩
  · refine (hiff.1 [sampleRouter, sampleTarget] (sampleBuilt (some sampleKeys)).2 rfl ?_).mpr
      hreplies
    show run Platform.checksum Waits.never (sampleTask (some sampleKeys)) sampleCircuit = _
    rw [← sampleBuilt_eq, ← sampleBuilt_completed.1]
  · have hreturned := eq_ok_of_returned sampleCannibalized_returned.1
    have hends := hiff.2 (final (sampleCannibalized (some sampleKeys))) (Or.inr hreturned)
    rw [hends]
    exact hreply

open CircuitBuildTask InternalCircuitImpl in
/-- The second handshake is refused: the build completes with the first node only, and a circuit
that is cannibalised still ends where it ended. -/
theorem refused_reply_completes :
    (sampleBuilt none).1 = .completed ∧
    ¬ BuiltAlong (sampleTask none).handshakes sampleCircuit [sampleRouter, sampleTarget]
      (sampleBuilt none).2.nodeList ∧
    sampleCannibalized none = .ok () (final (sampleCannibalized none)) ∧
    finalRouter (final (sampleCannibalized none)).circuit ≠ some sampleTarget ∧
    ¬ EndsAt (always none) sampleInternal (final (sampleCannibalized none))
      sampleTarget := by
  have hbuilt : (sampleBuilt none).2.nodeList.length = 1 := by
    have hlength := congrArg List.length sampleBuilt_routers
    rwa [List.length_map] at hlength
  have hcannibalized : (final (sampleCannibalized none)).circuit.nodeList.length = 1 := by
    have hlength := congrArg List.length sampleCannibalized_routers
    rwa [List.length_map] at hlength
  have hsame : sampleInternal.circuit = (sampleBuilt none).2 := by
    simp only [sampleInternal]
  refine ⟨sampleBuilt_completed.2, ?_, eq_ok_of_returned sampleCannibalized_returned.2, ?_, ?_⟩
  · intro h
    have hlength := h.length_eq
    cases hbuilt.symm.trans hlength
  · -- the final node is still the first router's
    have hrouter : finalRouter (final (sampleCannibalized none)).circuit = some sampleRouter := by
      decide +kernel
    rw [hrouter]
    exact fun h => absurd (Option.some.inj h) (by decide)
  · rintro ⟨front, n, hnodes, hlength, -⟩
    rw [hnodes, List.length_append, List.length_singleton, hlength, hsame, hbuilt] at hcannibalized
    exact absurd hcannibalized (by decide)

end Orchid
