import Mathlib
import Orchid.Circuits.SendFailure
import Orchid.Lib.Safe

/-!
# Orchid — circuits in order

What the calls on a circuit rely on without checking it: the streams have ids of their own and end
at nodes that exist, and what an output stream fills are DATA cells for the node of its stream. The
code keeps this by construction; here it is an invariant (`Circuit.WellFormed`), which is also what
keeps the calls from raising anything but what they mean to raise.

* `Circuit.Serves` is the invariant in the form the proofs use. Streams are handed from call to call,
  so it also says at which node the stream of an id ends, and it leaves open what is known of the
  windows of the nodes: calls that do not wait keep all of it.
* `JavaException.Handled`: what the calls mean to raise.
* **`destroyCircuit_safe`**, **`sendRelayCellTo_safe`** and the like: each call keeps the invariant
  and raises only that. Those that cannot wait raise nothing.
-/

namespace Orchid

open Prog RelayCell JavaException CircuitNode

/-! ## The invariant -/

/-- An `int`. -/
def IsInt (x : Int) : Prop := javaInt x = x

theorem isInt_javaInt (x : Int) : IsInt (javaInt x) := by
  exact Int.bmod_bmod

/-- The stream ends at one of `n` nodes, and its output stream fills DATA cells for that node. -/
structure StreamImpl.WellFormed (n : Nat) (stream : StreamImpl) : Prop where
  streamId : stream.streamId ≤ 0xFFFF
  target : stream.targetNode < n
  output : ∀ cell, stream.outputStream.currentOutputCell = some cell →
    cell.circuitNode = stream.targetNode ∧ cell.relayCommand = RELAY_DATA

structure Circuit.WellFormed (c : Circuit) : Prop where
  ids : (c.streamMap.map StreamImpl.streamId).Nodup
  streams : ∀ s ∈ c.streamMap, s.WellFormed c.nodeList.length
  windows : ∀ node ∈ c.nodeList, IsInt node.packageWindow

/-- A stream of a circuit with `n` nodes, of which it is known where the streams end. -/
structure StreamImpl.Known (ends : Nat → Nat) (n : Nat) (stream : StreamImpl) : Prop
    extends StreamImpl.WellFormed n stream where
  known : stream.targetNode = ends stream.streamId

variable {ends : Nat → Nat}

/-- Another stream of the same id and node, with such an output stream. -/
theorem StreamImpl.Known.same {n : Nat} {s s' : StreamImpl}
    (h : s.Known ends n) (hid : s'.streamId = s.streamId) (htarget : s'.targetNode = s.targetNode)
    (houtput : ∀ cell, s'.outputStream.currentOutputCell = some cell →
      cell.circuitNode = s.targetNode ∧ cell.relayCommand = RELAY_DATA) : s'.Known ends n := by
  refine ⟨⟨?_, ?_, ?_⟩, ?_⟩
  · rw [hid]
    exact h.streamId
  · rw [htarget]
    exact h.target
  · rw [htarget]
    exact houtput
  · rw [htarget, hid]
    exact h.known

/-- The windows of the nodes. -/
def packageWindows (nodes : List CircuitNode) : List Int := nodes.map CircuitNode.packageWindow

/-- The invariant, for known ends of the streams and with `K` of the windows. -/
structure Circuit.Serves (ends : Nat → Nat) (n : Nat) (K : List Int → Prop) (c : Circuit) :
    Prop where
  length : c.nodeList.length = n
  ids : (c.streamMap.map StreamImpl.streamId).Nodup
  streams : ∀ s ∈ c.streamMap, s.Known ends n
  windows : K (packageWindows c.nodeList)

def IntWindows (windows : List Int) : Prop := ∀ window ∈ windows, IsInt window

theorem Circuit.Serves.wellFormed {n : Nat} {c : Circuit}
    (h : c.Serves ends n IntWindows) : c.WellFormed := by
  refine ⟨h.ids, fun s hs => ?_, fun node hnode => ?_⟩
  · rw [h.length]
    exact (h.streams s hs).toWellFormed
  · exact h.windows _ (List.mem_map_of_mem hnode)

/-- Where the streams end is known from the streams themselves. -/
theorem Circuit.WellFormed.serves {c : Circuit} (h : c.WellFormed) :
    ∃ ends, c.Serves ends c.nodeList.length IntWindows := by
  refine ⟨fun id => ((getStream id c).map StreamImpl.targetNode).getD 0, rfl, h.ids, ?_, ?_⟩
  · intro s hs
    have hfound : getStream s.streamId c = some s := by
      obtain ⟨s', hs'⟩ : ∃ s', getStream s.streamId c = some s' :=
        Option.isSome_iff_exists.mp (List.find?_isSome.mpr ⟨s, hs, by simp⟩)
      obtain ⟨hmem, hid⟩ := getStream_some hs'
      rw [hs', List.inj_on_of_nodup_map h.ids hmem hs hid]
    refine ⟨h.streams s hs, ?_⟩
    rw [hfound]
    rfl
  · intro window hwindow
    obtain ⟨node, hnode, rfl⟩ := List.mem_map.mp hwindow
    exact h.windows node hnode

/-! ## What is raised -/

/-- A `TorException`, or a wait that nothing ends, which is no exception at all. -/
def JavaException.Handled (e : JavaException) : Prop := (∃ message, e = .tor message) ∨ e = .blocked

theorem JavaException.handled_tor (message : JString) : (tor message).Handled :=
  Or.inl ⟨message, rfl⟩

namespace CircuitNode

variable {wakeup : Wakeup} {e : JavaException} {message : JString}

theorem awaitWindow_handled {window increment : Int}
    (h : awaitWindow window increment message wakeup = .error e) :
    e.Handled := by
  rcases (Circuit.awaitWindow_error h).2 with ⟨-, rfl⟩ | rfl
  · exact handled_tor _
  · exact Or.inr rfl

theorem awaitWindow_isInt {window found increment : Int} (hint : IsInt window)
    (h : awaitWindow window increment message wakeup = .ok found) :
    IsInt found := by
  unfold awaitWindow at h
  split at h
  · cases wakeup with
    | interrupted => cases h
    | incremented times =>
      dsimp only at h
      split at h
      · cases h
      · cases h
        exact isInt_javaInt _
    | never => cases h
  · cases h
    exact hint

variable {decrement : Bool}

theorem waitForSendWindow_handled {node : CircuitNode}
    (h : node.waitForSendWindow decrement wakeup = .error e) : e.Handled := by
  rcases except_bind_eq_error.mp h with hawait | ⟨window, -, hreturn⟩
  · exact awaitWindow_handled hawait
  · cases hreturn

theorem waitForSendWindow_isInt {node node' : CircuitNode}
    (hint : IsInt node.packageWindow) (h : node.waitForSendWindow decrement wakeup = .ok node') :
    IsInt node'.packageWindow := by
  obtain ⟨window, hwindow, hnode⟩ := except_bind_eq_ok.mp h
  cases hnode
  cases decrement with
  | true => exact isInt_javaInt _
  | false => exact awaitWindow_isInt hint hwindow

end CircuitNode

theorem StreamImpl.waitForSendWindowAndDecrement_handled {stream : StreamImpl} {wakeup : Wakeup}
    (h : stream.waitForSendWindowAndDecrement wakeup = .error e) : e.Handled := by
  rcases except_bind_eq_error.mp h with hawait | ⟨window, -, hreturn⟩
  · exact awaitWindow_handled hawait
  · cases hreturn

/-! ## Writes -/

namespace Circuit

namespace Serves

variable {ends : Nat → Nat} {n : Nat} {K : List Int → Prop} {c c' : Circuit}

/-- Only nodes and streams matter. -/
theorem of_eq (h : c.Serves ends n K) (hnodes : c'.nodeList = c.nodeList := by rfl)
    (hstreams : c'.streamMap = c.streamMap := by rfl) : c'.Serves ends n K := by
  refine ⟨?_, ?_, ?_, ?_⟩
  · rw [hnodes]
    exact h.length
  · rw [hstreams]
    exact h.ids
  · rw [hstreams]
    exact h.streams
  · rw [hnodes]
    exact h.windows

theorem nodes (h : c.Serves ends n K) {L : List Int → Prop} {nodes : List CircuitNode}
    (hlength : nodes.length = n) (hwindows : L (packageWindows nodes)) :
    Serves ends n L { c with nodeList := nodes } :=
  ⟨hlength, h.ids, h.streams, hwindows⟩

theorem updateStream (h : c.Serves ends n K) (streamId : Nat) {f : StreamImpl → StreamImpl}
    (hf : ∀ s : StreamImpl, s.streamId = streamId → s.Known ends n →
      (f s).streamId = streamId ∧ (f s).Known ends n) :
    Serves ends n K { c with
      streamMap := c.streamMap.map fun s => if s.streamId = streamId then f s else s } := by
  have hids : (c.streamMap.map fun s => if s.streamId = streamId then f s else s).map
      StreamImpl.streamId = c.streamMap.map StreamImpl.streamId := by
    rw [List.map_map]
    refine List.map_congr_left fun s hs => ?_
    show StreamImpl.streamId (if s.streamId = streamId then f s else s) = s.streamId
    split
    · rename_i hid
      rw [(hf s hid (h.streams s hs)).1, hid]
    · rfl
  refine ⟨h.length, ?_, fun s' hs' => ?_, h.windows⟩
  · show List.Nodup (List.map StreamImpl.streamId (List.map _ c.streamMap))
    rw [hids]
    exact h.ids
  · obtain ⟨s, hs, rfl⟩ := List.mem_map.mp hs'
    split
    · rename_i hid
      exact (hf s hid (h.streams s hs)).2
    · exact h.streams s hs

theorem dropStream (h : c.Serves ends n K) (p : StreamImpl → Bool) :
    Serves ends n K { c with streamMap := c.streamMap.filter p } :=
  ⟨h.length, h.ids.sublist (List.filter_sublist.map _),
    fun s hs => h.streams s (List.mem_of_mem_filter hs), h.windows⟩

end Serves

/-! ## Nodes -/

theorem packageWindows_length (nodes : List CircuitNode) :
    (packageWindows nodes).length = nodes.length :=
  List.length_map _

theorem packageWindows_get (nodes : List CircuitNode) (i : Nat) :
    (packageWindows nodes)[i]? = nodes[i]?.map packageWindow :=
  List.getElem?_map

variable {i : Nat}

/-- A node with the same window in its place. -/
theorem packageWindows_set {nodes : List CircuitNode} {node node' : CircuitNode}
    (hnode : nodes[i]? = some node) (hwindow : node'.packageWindow = node.packageWindow) :
    packageWindows (nodes.set i node') = packageWindows nodes :=
  Lists.map_set_of_eq hnode hwindow

theorem packageWindows_encryptForward (P : Platform) (nodes : List CircuitNode) (i : Nat)
    (bytes : CellBytes) :
    packageWindows (encryptForward P nodes i bytes).1 = packageWindows nodes := by
  refine List.ext_getElem? fun j => ?_
  rw [packageWindows_get, packageWindows_get]
  exact encryptForward_get P packageWindow (fun _ _ => rfl) nodes i j bytes

theorem packageWindows_decryptNodes (P : Platform) (nodes : List CircuitNode) (bytes : CellBytes) :
    packageWindows (decryptNodes P nodes bytes).2.1 = packageWindows nodes := by
  induction nodes generalizing bytes with
  | nil => rfl
  | cons node nodes ih =>
    unfold decryptNodes
    dsimp only
    split
    · rfl
    · show _ :: packageWindows (decryptNodes P nodes _).2.1 = _
      rw [ih]
      rfl

/-- The call keeps the invariant, and raises only what `E` says. -/
abbrev Keeps (ends : Nat → Nat) (n : Nat) (K : List Int → Prop) (E : JavaException → Prop)
    {α : Type} (x : CircuitM α) : Prop :=
  Safe (Serves ends n K) E x fun _ => True

section Calls

variable {ends : Nat → Nat} {n : Nat} {K : List Int → Prop} {E : JavaException → Prop} {α : Type}

theorem onNode_safe {Q : α → Prop}
    {f : CircuitNode → Except JavaException (α × CircuitNode)} (hi : i < n)
    (hok : ∀ c : Circuit, c.Serves ends n K → ∀ node a node', c.nodeList[i]? = some node →
      f node = .ok (a, node') → K (packageWindows (c.nodeList.set i node')) ∧ Q a)
    (herror : ∀ node e, f node = .error e → E e) : Safe (Serves ends n K) E (onNode i f) Q := by
  intro c hc
  obtain ⟨node, hnode⟩ : ∃ node, c.nodeList[i]? = some node :=
    ⟨_, List.getElem?_eq_getElem (show i < c.nodeList.length by rw [hc.length]; exact hi)⟩
  unfold onNode
  simp only [bind_run, get_run, hnode]
  cases hrun : f node with
  | error e => exact ⟨hc, herror node e hrun⟩
  | ok r =>
    obtain ⟨a, node'⟩ := r
    obtain ⟨hwindows, ha⟩ := hok c hc node a node' hnode hrun
    exact ⟨hc.nodes ((List.length_set ..).trans hc.length) hwindows, ha⟩

/-- A call on a node that leaves its window alone. -/
theorem onNode_quiet {f : CircuitNode → Except JavaException (α × CircuitNode)} (hi : i < n)
    (hok : ∀ node a node', f node = .ok (a, node') → node'.packageWindow = node.packageWindow)
    (herror : ∀ node e, f node = .error e → E e) : Keeps ends n K E (onNode i f) := by
  refine onNode_safe hi (fun c hc node a node' hnode hrun => ?_) herror
  rw [packageWindows_set hnode (hok node a node' hrun)]
  exact ⟨hc.windows, trivial⟩

end Calls

/-! ## Waiting -/

/-- Of the windows no more is known than what other `int`s in their place have too, and the calls may
raise what a wait raises. -/
structure MayWait (K : List Int → Prop) (E : JavaException → Prop) : Prop where
  windows : ∀ (ws : List Int) i w w', K ws → ws[i]? = some w → (IsInt w → IsInt w') →
    K (ws.set i w')
  raises : ∀ e : JavaException, e.Handled → E e

theorem mayWait_ints : MayWait IntWindows Handled := by
  refine ⟨fun ws i w w' hws hw hw' => ?_, fun _ h => h⟩
  intro window hwindow
  rcases List.mem_or_eq_of_mem_set hwindow with hmem | rfl
  · exact hws window hmem
  · exact hw' (hws w (List.mem_of_getElem? hw))

section Calls

variable {ends : Nat → Nat} {n : Nat} {K : List Int → Prop} {E : JavaException → Prop}
variable (P : Platform) (W : Waits)

variable {i : Nat} {f : StreamImpl → StreamImpl} {stream : StreamImpl}

/-- A call on a node that puts an `int` in the place of its window. -/
theorem onNode_mayWait (hwait : MayWait K E)
    {f : CircuitNode → Except JavaException (α × CircuitNode)} (hi : i < n)
    (hok : ∀ node a node', f node = .ok (a, node') → IsInt node.packageWindow →
      IsInt node'.packageWindow) (herror : ∀ node e, f node = .error e → e.Handled) :
    Keeps ends n K E (onNode i f) := by
  refine onNode_safe hi (fun c hc node a node' hnode hrun => ⟨?_, trivial⟩)
    fun node e he => hwait.raises e (herror node e he)
  unfold packageWindows
  rw [List.map_set]
  refine hwait.windows _ i node.packageWindow _ hc.windows ?_ (hok node a node' hrun)
  rw [List.getElem?_map, hnode]
  rfl

theorem onNode_wait_safe (hwait : MayWait K E) (hi : i < n) (decrement : Bool)
    (wakeup : Wakeup) : Keeps ends n K E
      (onNode i fun node => do return ((), ← node.waitForSendWindow decrement wakeup)) := by
  refine onNode_mayWait hwait hi (fun node a node' hrun hint => ?_) fun node e hrun => ?_
  · obtain ⟨waited, hwaited, hret⟩ := except_bind_eq_ok.mp hrun
    cases hret
    exact waitForSendWindow_isInt hint hwaited
  · rcases except_bind_eq_error.mp hrun with hwaited | ⟨node', -, hreturn⟩
    · exact waitForSendWindow_handled hwaited
    · cases hreturn

theorem encryptCell_safe (i : Nat) (bytes : CellBytes) :
    Keeps ends n K E (encryptCell P i bytes) := by
  intro c hc
  have hwindows := packageWindows_encryptForward P c.nodeList i bytes
  have hlength : (encryptForward P c.nodeList i bytes).1.length = n := by
    rw [← packageWindows_length, hwindows, packageWindows_length, hc.length]
  exact ⟨hc.nodes hlength (by rw [hwindows]; exact hc.windows), trivial⟩

variable {cell : RelayCell}

/-- Only DATA cells wait. -/
theorem encryptRelayCellTo_safe (hi : i < n)
    (hdata : cell.relayCommand = RELAY_DATA → MayWait K E) :
    Keeps ends n K E (encryptRelayCellTo P W cell i) := by
  refine (onNode_quiet hi ?_ ?_).bind fun digest _ => ?_
  · intro node a node' h
    cases h
    rfl
  · intro node e h
    cases h
  refine (encryptCell_safe P i _).bind fun bytes _ => ?_
  split
  · rename_i hcommand
    exact (onNode_wait_safe (hdata hcommand) hi true _).bind fun _ _ => Safe.pure trivial
  · exact (Safe.pure trivial).bind fun _ (_ : True) => Safe.pure trivial

theorem getFinalCircuitNode_safe (hn : 0 < n) :
    Safe (Serves ends n K) E getFinalCircuitNode fun i => i < n := by
  refine Safe.get.bind fun c hc => ?_
  refine Safe.ite (fun hempty => ?_) fun _ => ?_
  · have hlength := hc.length
    rw [List.isEmpty_iff.mp hempty] at hlength
    exact absurd hlength.symm (Nat.ne_of_gt hn)
  · refine Safe.pure ?_
    rw [hc.length]
    omega

theorem writeCell_safe (cell : Cell) : Keeps ends n K E (writeCell cell) := by
  refine Safe.get.bind fun c _ => Safe.ite (fun _ => Safe.pure trivial) fun _ => ?_
  exact (Safe.modify fun c hc => hc.of_eq).bind fun _ _ => Safe.pure trivial

variable (streamId : Nat)

theorem updateStream_safe (hf : ∀ s : StreamImpl, s.streamId = streamId → s.Known ends n →
      (f s).streamId = streamId ∧ (f s).Known ends n) :
    Keeps ends n K E (updateStream streamId f) :=
  Safe.modify fun _ hc => hc.updateStream streamId hf

/-- A change of a stream that leaves alone where it ends and the cell it fills. -/
theorem updateStream_quiet (hf : ∀ s, SameStream s (f s) ∧
      (f s).outputStream.currentOutputCell = s.outputStream.currentOutputCell) :
    Keeps ends n K E (updateStream streamId f) := by
  refine updateStream_safe streamId fun s hid hs => ?_
  obtain ⟨hsame, hcell⟩ := hf s
  refine ⟨hsame.streamId.trans hid, hs.same hsame.streamId hsame.targetNode ?_⟩
  rw [hcell]
  exact hs.output

/-- A change of the cell that a known stream fills. -/
theorem updateStream_filled (hstream : stream.Known ends n) (hf : ∀ s, SameStream s (f s))
    (hcell : ∀ s cell, (f s).outputStream.currentOutputCell = some cell →
      cell.circuitNode = stream.targetNode ∧ cell.relayCommand = RELAY_DATA) :
    Keeps ends n K E (updateStream stream.streamId f) := by
  refine updateStream_safe stream.streamId fun s hid hs => ?_
  -- a stream with this id ends where the known one does
  have hend : s.targetNode = stream.targetNode := by rw [hs.known, hstream.known, hid]
  refine ⟨(hf s).streamId.trans hid, hs.same (hf s).streamId (hf s).targetNode ?_⟩
  rw [hend]
  exact hcell s

/-! ## Output streams -/

theorem waitForSendWindowAndDecrement_safe (hwait : MayWait K E) (hstream : stream.Known ends n) :
    Keeps ends n K E (waitForSendWindowAndDecrement W stream) := by
  refine (Safe.fromExcept (fun _ _ => trivial) fun e he => ?_).bind fun waited (_ : True) => ?_
  · exact hwait.raises e (StreamImpl.waitForSendWindowAndDecrement_handled he)
  refine Safe.bind (updateStream_quiet _ fun s => ⟨⟨rfl, rfl⟩, rfl⟩) fun _ _ => ?_
  exact onNode_wait_safe hwait hstream.target false _

section Output

variable {send : Cell → CircuitM Unit}
  (hsend : ∀ cell, Keeps ends n K E (send cell)) (hwait : MayWait K E)
include hsend hwait

variable {stream : StreamImpl}

theorem sendPending_safe (hstream : stream.Known ends n) :
    Keeps ends n K E (sendPending P W send stream) := by
  unfold sendPending
  split
  · exact Safe.pure trivial
  · rename_i cell hpending
    have hcell := hstream.output cell (Option.filter_eq_some_iff.mp hpending).1
    have hnode : cell.circuitNode < n := by
      rw [hcell.1]
      exact hstream.target
    refine (waitForSendWindowAndDecrement_safe W hwait hstream).bind fun _ _ => ?_
    refine (encryptRelayCellTo_safe P W hnode fun _ => hwait).bind fun wire _ => ?_
    exact (hsend wire).bind fun _ _ => updateStream_quiet _ fun s => ⟨⟨rfl, rfl⟩, rfl⟩

theorem flushCurrentOutputCell_safe (hstream : stream.Known ends n) :
    Keeps ends n K E (flushCurrentOutputCell P W send stream) := by
  refine (sendPending_safe P W hsend hwait hstream).bind fun _ _ => ?_
  refine Safe.get.bind fun c _ => ?_
  refine updateStream_filled hstream (fun s => ⟨rfl, rfl⟩) fun s cell hcell => ?_
  cases hcell
  exact ⟨rfl, rfl⟩

theorem flushOutput_safe (hstream : stream.Known ends n) :
    Keeps ends n K E (flushOutput P W send stream) :=
  Safe.ite (fun _ => flushCurrentOutputCell_safe P W hsend hwait hstream) fun _ => Safe.pure trivial

theorem closeOutput_safe (hstream : stream.Known ends n) :
    Keeps ends n K E (closeOutput P W send stream) := by
  refine Safe.when fun _ => ?_
  refine (flushOutput_safe P W hsend hwait hstream).bind fun _ _ => ?_
  exact updateStream_filled hstream (fun s => ⟨rfl, rfl⟩) fun s cell hcell => nomatch hcell

end Output

/-! ## Closing -/

theorem sendDestroyCell_safe : Keeps ends n K E sendDestroyCell := by
  refine Safe.get.bind fun c _ => ?_
  refine (Safe.fromExcept (fun _ _ => trivial) fun e he => ?_).bind fun destroy (_ : True) => ?_
  · -- there is room for the reason in a new cell
    cases he
  refine (writeCell_safe destroy).bind fun written _ => ?_
  exact Safe.when fun _ => Safe.modify fun c hc => hc.of_eq

theorem closeCircuit_safe : Keeps ends n K E closeCircuit := by
  refine sendDestroyCell_safe.bind fun _ _ => ?_
  refine (Safe.modify fun c hc => hc.of_eq).bind fun _ _ => ?_
  refine (Safe.modify fun c hc => hc.of_eq).bind fun _ _ => ?_
  exact Safe.modify fun c hc => hc.of_eq

theorem markForClose_safe : Keeps ends n K E markForClose := by
  refine Safe.get.bind fun c _ => Safe.when fun _ => ?_
  refine (Safe.modify fun c hc => hc.of_eq).bind fun _ _ => ?_
  refine Safe.get.bind fun c _ => ?_
  exact Safe.when fun _ => closeCircuit_safe

theorem removeStream_safe : Keeps ends n K E (removeStream streamId) := by
  refine (Safe.modify fun c hc => hc.dropStream _).bind fun _ _ => ?_
  refine Safe.get.bind fun c _ => Safe.get.bind fun c' _ => ?_
  exact Safe.when fun _ => closeCircuit_safe

variable {send : Cell → CircuitM Unit}

theorem sendEndCell_safe (hsend : ∀ cell, Keeps ends n K E (send cell)) (hn : 0 < n)
    (stream : StreamImpl) : Keeps ends n K E (sendEndCell P W send stream) := by
  refine Safe.when fun _ => ?_
  refine (getFinalCircuitNode_safe hn).bind fun final hfinal => ?_
  refine Safe.get.bind fun c _ => ?_
  -- an END cell, which has room for its reason and does not wait
  refine Safe.bind (Q := fun cell => cell.relayCommand = RELAY_END)
    (Safe.fromExcept (fun cell hcell => ?_) fun e he => ?_) fun cell hcell => ?_
  · cases hcell
    rfl
  · cases he
  · refine (encryptRelayCellTo_safe P W hfinal fun hdata => ?_).bind fun wire _ => hsend wire
    cases hcell.symm.trans hdata

/-- Once both sides of a stream are closed, nothing waits. -/
theorem leaveCircuit_safe (hsend : ∀ cell, Keeps ends n K E (send cell))
    (hstream : stream.Known ends n) : Keeps ends n K E (leaveCircuit P W send stream) := by
  have hend := sendEndCell_safe P W hsend (Nat.lt_of_le_of_lt (Nat.zero_le _) hstream.target) stream
  refine (removeStream_safe stream.streamId).bind fun _ _ => ?_
  exact Safe.ite (fun _ => markForClose_safe.bind fun _ _ => hend) fun _ => hend

theorem closeInput_safe : Keeps ends n K E (updateStream streamId StreamImpl.closeInput) :=
  updateStream_quiet streamId fun _ => ⟨⟨rfl, rfl⟩, rfl⟩

theorem closeStreamWith_safe (hsend : ∀ cell, Keeps ends n K E (send cell)) (hwait : MayWait K E)
    (hstream : stream.Known ends n) : Keeps ends n K E (closeStreamWith P W send stream) := by
  refine Safe.when fun _ => ?_
  refine (closeInput_safe stream.streamId).bind fun _ _ => ?_
  refine (closeOutput_safe P W hsend hwait hstream).bind fun _ _ => ?_
  exact leaveCircuit_safe P W hsend hstream

section Waiting

variable (hwait : MayWait K E)
include hwait

theorem destroyCircuit_safe : Keeps ends n K E (destroyCircuit P W) := by
  refine Safe.get.bind fun c _ => Safe.when fun _ => ?_
  refine (Safe.modify fun c hc => hc.of_eq).bind fun _ _ => ?_
  refine (Safe.modify fun c hc => hc.of_eq).bind fun _ _ => ?_
  refine Safe.get.bind fun c hc => (Safe.forM fun stream hstream => ?_).bind fun _ _ => ?_
  · exact closeStreamWith_safe P W (fun _ => Safe.pure trivial) hwait (hc.streams stream hstream)
  · exact Safe.modify fun c hc => hc.of_eq

theorem sendCell_safe (cell : Cell) : Keeps ends n K E (sendCell P W cell) := by
  refine Safe.get.bind fun c _ => Safe.when fun _ => ?_
  refine (writeCell_safe cell).bind fun written _ => ?_
  exact Safe.when fun _ => destroyCircuit_safe P W hwait

theorem sendRelayCellTo_safe (cell : RelayCell) (hi : i < n) :
    Keeps ends n K E (sendRelayCellTo P W cell i) :=
  (encryptRelayCellTo_safe P W hi fun _ => hwait).bind fun _ _ => sendCell_safe P W hwait _

theorem closeStream_safe (hstream : stream.Known ends n) :
    Keeps ends n K E (closeStream P W stream) :=
  closeStreamWith_safe P W (sendCell_safe P W hwait) hwait hstream

theorem destroy_safe : Keeps ends n K E (destroy P W) := by
  have hinactive : Keeps ends n K E
      (modify fun c : Circuit => { c with isActive := false } : CircuitM Unit) :=
    Safe.modify fun c hc => hc.of_eq
  refine Safe.get.bind fun c _ => Safe.ite (fun _ => ?_) fun _ => hinactive
  exact (destroyCircuit_safe P W hwait).bind fun _ _ => hinactive

/-! ## Receiving -/

theorem considerSendingStreamSendme_safe (hstream : stream.Known ends n) :
    Keeps ends n K E (considerSendingStreamSendme P W stream) := by
  refine Safe.when fun _ => Safe.get.bind fun c _ => ?_
  refine (sendRelayCellTo_safe P W hwait _ hstream.target).bind fun _ _ => ?_
  exact updateStream_quiet _ fun s => ⟨⟨rfl, rfl⟩, rfl⟩

end Waiting

/-- What a stream has become by a cell is known as the stream is. -/
theorem noted_known {stream' : StreamImpl} (hstream : stream.Known ends n)
    (hnoted : stream.Noted stream' cell) :
    stream'.Known ends n := by
  refine hstream.same hnoted.streamId hnoted.targetNode ?_
  rw [hnoted.outputStream]
  exact hstream.output

section Waiting

variable (hwait : MayWait K E)
include hwait

variable {cell : RelayCell}

/-- An END cell that is handed to a stream has to have a reason in it. -/
theorem addInputCell_safe (hstream : stream.Known ends n)
    (hend : cell.relayCommand = RELAY_END → cell.toCell.remaining ≠ []) :
    Keeps ends n K E (addInputCell P W stream cell) := by
  refine Safe.when fun _ => ?_
  refine Safe.bind (Q := fun stream' => stream'.Known ends n)
    (Safe.fromExcept (fun stream' happly => ?_) fun e happly => ?_) fun stream' hstream' => ?_
  · exact noted_known hstream (StreamImpl.applyCell_noted happly)
  · unfold StreamImpl.applyCell at happly
    split at happly
    · rename_i hcommand
      split at happly
      · rename_i hremaining
        exact absurd hremaining (hend hcommand)
      · cases happly
    · split at happly
      · cases happly
      · split at happly <;> cases happly
  · refine (Safe.modify fun c hc => hc.of_eq).bind fun _ _ => ?_
    refine (updateStream_safe _ fun s _ _ => ⟨rfl, hstream'⟩).bind fun _ _ => ?_
    have hsendme := considerSendingStreamSendme_safe P W hwait hstream'
    refine Safe.when fun _ => Safe.ite (fun _ => ?_) fun _ => hsendme
    refine (Safe.throw (Q := fun _ => True) ?_).bind fun _ _ => hsendme
    exact hwait.raises _ (handled_tor _)

theorem countDataCell_safe (hnode : cell.circuitNode < n) :
    Keeps ends n K E (countDataCell P W cell) := by
  refine Safe.when fun _ => ?_
  refine (onNode_quiet hnode (fun node a node' h => ?_) fun node e h => nomatch h).bind
    fun sendSendme _ => ?_
  · unfold considerSendingSendme at h
    split at h
    · cases h
      rfl
    · cases h
      rfl
  · refine Safe.when fun _ => Safe.get.bind fun c _ => ?_
    exact sendRelayCellTo_safe P W hwait _ hnode

theorem processRelayDataCell_safe (hnode : cell.circuitNode < n)
    (hend : cell.relayCommand = RELAY_END → cell.toCell.remaining ≠ []) :
    Keeps ends n K E (processRelayDataCell P W cell) := by
  refine (countDataCell_safe P W hwait hnode).bind fun _ _ => ?_
  refine Safe.get.bind fun c hc => ?_
  split
  · exact Safe.pure trivial
  · rename_i stream hstream
    exact addInputCell_safe P W hwait (hc.streams stream (getStream_some hstream).1) hend

theorem processCircuitSendme_safe (hnode : cell.circuitNode < n) :
    Keeps ends n K E (processCircuitSendme cell) := by
  refine onNode_mayWait hwait hnode (fun node a node' h _ => ?_) fun node e h => nomatch h
  cases h
  exact isInt_javaInt _

theorem dispatchRelayCell_safe (hnode : cell.circuitNode < n)
    (hend : cell.relayCommand = RELAY_END → cell.toCell.remaining ≠ []) :
    Keeps ends n K E (dispatchRelayCell P W cell) := by
  unfold dispatchRelayCell
  split
  · exact Safe.modify fun c hc => hc.of_eq
  · exact processRelayDataCell_safe P W hwait hnode hend
  · exact Safe.ite (fun _ => processRelayDataCell_safe P W hwait hnode hend) fun _ =>
      processCircuitSendme_safe hwait hnode
  · refine (destroyCircuit_safe P W hwait).bind fun _ _ => Safe.throw ?_
    exact hwait.raises _ (handled_tor _)
  · exact Safe.pure trivial

end Waiting

/-! ## Recognised cells -/

variable {hop : Nat}

/-- Only a node of the circuit recognises a cell. -/
theorem decryptNodes_lt {nodes : List CircuitNode} {bytes : CellBytes}
    (h : (decryptNodes P nodes bytes).1 = some hop) : hop < nodes.length := by
  induction nodes generalizing bytes hop with
  | nil => cases h
  | cons node nodes ih =>
    unfold decryptNodes at h
    dsimp only at h
    split at h
    · cases h
      exact Nat.zero_lt_succ _
    · obtain ⟨inner, hinner, rfl⟩ := Option.map_eq_some_iff.mp h
      exact Nat.succ_lt_succ (ih hinner)

/-- What is known of a relay cell that a node has recognised: it is from one of the nodes, and if it
is not empty there is something to read. -/
structure Recognized (n : Nat) (cell : RelayCell) : Prop where
  node : cell.circuitNode < n
  remaining : HEADER_SIZE < cell.limit → cell.toCell.remaining ≠ []

theorem createFromCell_recognized (hhop : hop < n) {cell : Cell}
    {relayCell : RelayCell} (h : createFromCell hop cell = .ok relayCell) :
    Recognized n relayCell := by
  have hdecoded := createFromCell_ok h
  refine ⟨hdecoded.circuitNode ▸ hhop, fun hlimit hempty => ?_⟩
  have hread := congrArg List.length hempty
  have hle := hdecoded.limit_le
  unfold Cell.remaining at hread
  rw [hdecoded.position, CellBytes.getBytesAt_length (by omega), List.length_nil] at hread
  omega

theorem createFromCell_handled {cell : Cell}
    (h : createFromCell hop cell = .error e) : e.Handled := by
  unfold createFromCell at h
  dsimp only at h
  split at h
  · cases h
    exact handled_tor _
  · split at h
    · cases h
      exact handled_tor _
    · cases h

theorem decryptCell_safe (bytes : CellBytes) :
    Safe (Serves ends n K) E (decryptCell P bytes) fun r => ∀ hop, r.1 = some hop → hop < n := by
  intro c hc
  have hwindows := packageWindows_decryptNodes P c.nodeList bytes
  have hlength : (decryptNodes P c.nodeList bytes).2.1.length = n := by
    rw [← packageWindows_length, hwindows, packageWindows_length, hc.length]
  refine ⟨hc.nodes hlength (by rw [hwindows]; exact hc.windows), fun hop hhop => ?_⟩
  rw [← hc.length]
  exact decryptNodes_lt P hhop

section Waiting

variable (hwait : MayWait K E)
include hwait

theorem decryptRelayCell_safe (cell : Cell) :
    Safe (Serves ends n K) E (decryptRelayCell P W cell) (Recognized n) := by
  refine (decryptCell_safe P cell.cellBytes).bind fun r hr => ?_
  obtain ⟨hop, bytes⟩ := r
  cases hop with
  | some hop =>
    refine Safe.fromExcept (fun relayCell hcell => ?_) fun e he => ?_
    · exact createFromCell_recognized (hr hop rfl) hcell
    · exact hwait.raises e (createFromCell_handled he)
  | none =>
    refine (destroyCircuit_safe P W hwait).bind fun _ _ => Safe.throw ?_
    exact hwait.raises _ (handled_tor _)

/-- A cell that a node has recognised can be dispatched, unless it has no code to print. -/
theorem dispatchRecognized_safe (hcell : Recognized n cell)
    (hprint : ¬ ((cell.relayCommand = RELAY_TRUNCATED ∨ cell.relayCommand = RELAY_END) ∧
      cell.limit ≤ HEADER_SIZE)) : Keeps ends n K E (dispatchRelayCell P W cell) := by
  refine dispatchRelayCell_safe P W hwait hcell.node fun hend => hcell.remaining ?_
  have hlimit : ¬ cell.limit ≤ HEADER_SIZE := fun h => hprint ⟨Or.inr hend, h⟩
  omega

/-- A relay cell that can be printed is delivered. -/
theorem deliverRelayCell_safe (hprint : E .indexOutOfBounds) (cell : Cell) :
    Keeps ends n K E (deliverRelayCell P W cell) := by
  refine Safe.bind (decryptRelayCell_safe P W hwait cell) fun relayCell hcell => ?_
  unfold logRelayCell
  by_cases hempty : (relayCell.relayCommand = RELAY_TRUNCATED ∨ relayCell.relayCommand = RELAY_END) ∧
      relayCell.limit ≤ HEADER_SIZE
  · rw [if_pos hempty]
    refine Safe.bind (Q := fun _ => False) (Safe.throw hprint) fun _ h => h.elim
  · rw [if_neg hempty]
    exact Safe.bind (Safe.pure trivial) fun _ (_ : True) =>
      dispatchRecognized_safe P W hwait hcell hempty

theorem deliverControlCell_safe {cell : Cell} (hread : cell.remaining = [] → E .bufferUnderflow) :
    Keeps ends n K E (deliverControlCell P W cell) := by
  refine Safe.ite (fun _ => ?_) fun _ => Safe.modify fun c hc => hc.of_eq
  unfold processDestroyCell
  split
  · rename_i hempty
    exact Safe.throw (hread hempty)
  · exact (Safe.modify fun c hc => hc.of_eq).bind fun _ _ =>
      destroyCircuit_safe P W hwait

end Waiting

end Calls

end Circuit

end Orchid
