import Mathlib
import Orchid.Circuits.WellFormed

/-!
# Orchid — destroying a circuit

`destroyCircuit` runs on the thread that reads cells, and closes the streams of the circuit one after
the other. Closing a stream flushes its output stream: a cell that holds data is sent first. The
circuit is DESTROYED by then, so that nothing goes out, but the windows are waited for all the same,
and the cells that would open them are read by the thread that waits.

* `StreamImpl.mustFlush`: a stream that has a cell to send when it is closed.
* `closeStreamWith_blocked`, `closeStreamWith_spends`, `closeStreamWith_quiet`: what becomes of the
  call, by the stream and the windows it finds.
* `Supplied`: the windows are enough for the streams of a list.
* **`destroyCircuit_completes_iff`**: with nobody to open a window, the call completes exactly when
  they are.
-/

namespace Orchid

open Prog RelayCell Waits StreamImpl

/-- The stream has a cell to send when it is closed. -/
def StreamImpl.mustFlush (stream : StreamImpl) : Bool :=
  !stream.isClosed && !stream.outputStream.isClosed && stream.outputStream.pending.isSome

namespace Circuit

/-! ## Sending the last cell of a stream -/

section Flush

variable {ends : Nat → Nat} {n : Nat} {ws : List Int} {c : Circuit} {stream : StreamImpl}
  {cell : RelayCell} (P : Platform) (send : Cell → CircuitM Unit)

variable {K : List Int → Prop}

theorem Serves.node (hc : c.Serves ends n K) {i : Nat} (hi : i < n) :
    ∃ node, c.nodeList[i]? = some node ∧
      (packageWindows c.nodeList)[i]? = some node.packageWindow := by
  have hlt : i < c.nodeList.length := hc.length.symm ▸ hi
  refine ⟨c.nodeList[i], List.getElem?_eq_getElem hlt, ?_⟩
  rw [packageWindows_get, List.getElem?_eq_getElem hlt]
  rfl

variable {node : CircuitNode}

/-- The wait for the two windows of a stream, if nothing ends it. -/
theorem waitForSendWindowAndDecrement_never (hnode : c.nodeList[stream.targetNode]? = some node) :
    waitForSendWindowAndDecrement never stream c =
      if stream.packageWindow = 0 then .error .blocked c
      else
        let waited := { c with streamMap := c.streamMap.map fun s =>
          if s.streamId = stream.streamId then
            { s with packageWindow := javaInt (stream.packageWindow - 1) } else s }
        if node.packageWindow = 0 then .error .blocked waited
        else .ok () { waited with nodeList := c.nodeList.set stream.targetNode node } := by
  unfold waitForSendWindowAndDecrement never
  rw [StreamImpl.waitForSendWindowAndDecrement_never]
  by_cases hstream : stream.packageWindow = 0
  · rw [if_pos hstream, if_pos hstream]
    rfl
  · rw [if_neg hstream, if_neg hstream, bind_of_ok (fromExcept_ok _ c)]
    unfold updateStream onNode
    simp only [bind_run, modify_run, get_run, hnode, CircuitNode.waitForSendWindow_never]
    by_cases hwindow : node.packageWindow = 0
    · rw [if_pos hwindow, if_pos hwindow]
      rfl
    · rw [if_neg hwindow, if_neg hwindow]
      rfl

/-- A wait that was over at once leaves the windows of the nodes as they were. -/
theorem waitForSendWindowAndDecrement_serves (hc : c.Serves ends n K)
    (hnode : c.nodeList[stream.targetNode]? = some node) (window : Int) :
    Serves ends n K { c with
      streamMap := c.streamMap.map fun s =>
        if s.streamId = stream.streamId then { s with packageWindow := window } else s
      nodeList := c.nodeList.set stream.targetNode node } := by
  have hstreams := hc.updateStream stream.streamId (f := fun s => { s with packageWindow := window })
    fun s hid hs => ⟨hid, ⟨⟨hs.streamId, hs.target, hs.output⟩, hs.known⟩⟩
  refine hstreams.nodes ((List.length_set ..).trans hc.length) ?_
  rw [packageWindows_set hnode rfl]
  exact hc.windows

/-- A window that is used up blocks the flush: that of the stream, or that of its node. -/
theorem sendPending_blocked (hc : c.Serves ends n K) (hstream : stream.Known ends n)
    (hpending : stream.outputStream.pending = some cell) (hempty : stream.packageWindow = 0 ∨
      (packageWindows c.nodeList)[stream.targetNode]? = some 0) :
    ∃ c', sendPending P never send stream c = .error .blocked c' := by
  obtain ⟨node, hnode, hwindow⟩ := hc.node hstream.target
  have hrun := waitForSendWindowAndDecrement_never hnode
  unfold sendPending
  rw [hpending]
  by_cases hspent : stream.packageWindow = 0
  · rw [if_pos hspent] at hrun
    exact ⟨_, bind_of_error hrun⟩
  · have hnone : node.packageWindow = 0 := by
      rw [hwindow] at hempty
      exact Option.some.inj (hempty.resolve_left hspent)
    rw [if_neg hspent] at hrun
    simp only [hnone, if_true] at hrun
    exact ⟨_, bind_of_error hrun⟩

variable {w : Int}

/-- Sealing a DATA cell takes one off the window of its node. -/
theorem encryptRelayCellTo_spends (hc : c.Serves ends n (· = ws)) {i : Nat} (hi : i < n)
    (hdata : cell.relayCommand = RELAY_DATA) (hw : ws[i]? = some w) (hne : w ≠ 0) :
    ∃ wire c₁, c₁.Serves ends n (· = ws.set i (javaInt (w - 1))) ∧
      encryptRelayCellTo P never cell i c = .ok wire c₁ := by
  obtain ⟨node, hnode, hwindow⟩ := hc.node hi
  obtain ⟨sealed, hsealed, hsame, -⟩ := sealNodes_get P cell hnode
  have hsealedWindow : sealed.packageWindow = w := by
    rw [hc.windows, hw] at hwindow
    exact hsame.trans (Option.some.inj hwindow).symm
  have hwait : sealed.waitForSendWindowAndDecrement (never.node i) =
      .ok { sealed with packageWindow := javaInt (w - 1) } := by
    unfold CircuitNode.waitForSendWindowAndDecrement never
    rw [CircuitNode.waitForSendWindow_never, hsealedWindow, if_neg hne]
    rfl
  have hrun := encryptRelayCellTo_run P never hnode hsealed
  simp only [hdata, if_true, hwait] at hrun
  refine ⟨_, _, ?_, hrun⟩
  -- apart from the node that was waited for the windows are as they were
  have hdigest : (node.updateForwardDigest cell.setLength.cellBytes).packageWindow =
      node.packageWindow := rfl
  have hwindows : packageWindows (sealNodes P c.nodeList cell i node).1 = ws := by
    unfold sealNodes
    rw [packageWindows_encryptForward, packageWindows_set hnode hdigest, hc.windows]
  refine hc.nodes ?_ ?_
  · rw [List.length_set, ← packageWindows_length, hwindows, ← hc.windows, packageWindows_length,
      hc.length]
  · show List.map CircuitNode.packageWindow (List.set _ i _) = _
    rw [List.map_set]
    exact congrArg (fun windows => List.set windows i (javaInt (w - 1))) hwindows

/-- Otherwise the cell is sealed and goes to `send`. -/
theorem sendPending_spends (hc : c.Serves ends n (· = ws)) (hstream : stream.Known ends n)
    (hpending : stream.outputStream.pending = some cell) (hspent : stream.packageWindow ≠ 0)
    (hw : ws[stream.targetNode]? = some w) (hne : w ≠ 0) :
    ∃ wire c₁, c₁.Serves ends n (· = ws.set stream.targetNode (javaInt (w - 1))) ∧
      sendPending P never send stream c = (do
        send wire
        updateStream stream.streamId fun s => { s with outputStream := { s.outputStream with
          bytesSent := s.outputStream.bytesSent + (cell.cellBytesConsumed - HEADER_SIZE) } }) c₁ := by
  obtain ⟨node, hnode, hwindow⟩ := hc.node hstream.target
  obtain ⟨htarget, hdata⟩ := hstream.output cell (Option.filter_eq_some_iff.mp hpending).1
  have hnodeWindow : node.packageWindow = w := by
    rw [hc.windows] at hwindow
    exact Option.some.inj (hwindow.symm.trans hw)
  have hrun := waitForSendWindowAndDecrement_never hnode
  rw [if_neg hspent] at hrun
  simp only [hnodeWindow, hne, if_false] at hrun
  -- the wait leaves the windows of the nodes as they were
  have hsafe := waitForSendWindowAndDecrement_serves hc hnode (javaInt (stream.packageWindow - 1))
  obtain ⟨wire, c₁, hc₁, hsealed⟩ := encryptRelayCellTo_spends P hsafe hstream.target hdata hw hne
  refine ⟨wire, c₁, hc₁, ?_⟩
  unfold sendPending
  rw [hpending]
  dsimp only
  rw [bind_of_ok hrun, htarget, bind_of_ok hsealed]

end Flush

/-! ## Closing a stream

In a circuit that is being destroyed, where `sendCell` does nothing. -/

section Close

variable {ends : Nat → Nat} {n : Nat} {K : List Int → Prop} {ws : List Int} {c : Circuit}
  {stream : StreamImpl} {cell : RelayCell} (P : Platform)

theorem StreamImpl.mustFlush_iff : stream.mustFlush = true ↔
    stream.isClosed = false ∧ stream.outputStream.isClosed = false ∧
      ∃ cell, stream.outputStream.pending = some cell := by
  unfold mustFlush
  rw [Bool.and_eq_true, Bool.and_eq_true, Bool.not_eq_true', Bool.not_eq_true',
    Option.isSome_iff_exists, and_assoc]

theorem closeOutput_blocked (hc : c.Serves ends n K) (hstream : stream.Known ends n)
    (hopen : stream.outputStream.isClosed = false)
    (hpending : stream.outputStream.pending = some cell)
    (hempty : stream.packageWindow = 0 ∨ (packageWindows c.nodeList)[stream.targetNode]? = some 0) :
    ∃ c', closeOutput P never (fun _ => return ()) stream c = .error .blocked c' := by
  obtain ⟨c', hsend⟩ := sendPending_blocked P (fun _ => return ()) hc hstream hpending hempty
  refine ⟨c', ?_⟩
  unfold closeOutput flushOutput flushCurrentOutputCell
  simp only [hopen, Bool.not_false, if_true]
  rw [bind_of_error]
  exact bind_of_error hsend

/-- With no data to send, closing does not wait. -/
theorem closeOutput_quiet (W : Waits) (send : Cell → CircuitM Unit) {E : JavaException → Prop}
    (hstream : stream.Known ends n)
    (hquiet : stream.outputStream.isClosed = false → stream.outputStream.pending = none) :
    Safe (Serves ends n K) E (closeOutput P W send stream) fun _ => True := by
  refine Safe.when fun hopen => ?_
  have hnone := hquiet (by simpa using hopen)
  refine (Safe.when fun _ => ?_).bind fun _ (_ : True) => ?_
  · unfold flushCurrentOutputCell sendPending
    rw [hnone]
    refine (Safe.pure trivial).bind fun _ (_ : True) => Safe.get.bind fun c _ => ?_
    refine updateStream_filled hstream (fun s => ⟨rfl, rfl⟩) fun s cell hcell => ?_
    cases hcell
    exact ⟨rfl, rfl⟩
  · exact updateStream_filled hstream (fun s => ⟨rfl, rfl⟩) fun s cell hcell => nomatch hcell

/-- Once the cell is sent, the rest is what closing a stream without one does. -/
theorem closeOutput_of_sent {W : Waits} {send : Cell → CircuitM Unit} {c₁ : Circuit}
    (hopen : stream.outputStream.isClosed = false)
    (hsend : sendPending P W send stream c = .ok () c₁) :
    closeOutput P W send stream c = closeOutput P W send { stream with
      outputStream := { stream.outputStream with currentOutputCell := none } } c₁ := by
  unfold closeOutput flushOutput flushCurrentOutputCell
  simp only [hopen, Bool.not_false, if_true, bind_run, hsend]
  rfl

theorem closeOutput_spends (hc : c.Serves ends n (· = ws)) (hstream : stream.Known ends n)
    (hopen : stream.outputStream.isClosed = false)
    (hpending : stream.outputStream.pending = some cell) (hspent : stream.packageWindow ≠ 0)
    (hw : ws[stream.targetNode]? = some w) (hne : w ≠ 0) :
    ∃ c', closeOutput P never (fun _ => return ()) stream c = .ok () c' ∧
      c'.Serves ends n (· = ws.set stream.targetNode (javaInt (w - 1))) := by
  obtain ⟨wire, c₁, hc₁, hsend⟩ :=
    sendPending_spends P (fun _ => return ()) hc hstream hpending hspent hw hne
  -- what comes after the sending cannot fail
  have hcount : Safe (Serves ends n (· = ws.set stream.targetNode (javaInt (w - 1))))
      (fun _ => False) (pure () >>= fun _ => updateStream stream.streamId fun s => { s with
        outputStream := { s.outputStream with
          bytesSent := s.outputStream.bytesSent + (cell.cellBytesConsumed - HEADER_SIZE) } })
      fun _ => True :=
    (Safe.pure trivial).bind fun _ (_ : True) =>
      updateStream_quiet _ fun s => ⟨⟨rfl, rfl⟩, rfl⟩
  obtain ⟨_, c₂, hsent, hc₂, -⟩ := hcount.returns hc₁
  rw [closeOutput_of_sent P hopen (hsend.trans hsent)]
  have hdrained : Known ends n { stream with
      outputStream := { stream.outputStream with currentOutputCell := none } } :=
    ⟨⟨hstream.streamId, hstream.target, fun cell hcell => nomatch hcell⟩, hstream.known⟩
  have hclose := closeOutput_quiet P never (fun _ => return ()) (E := fun _ => False)
    (K := (· = ws.set stream.targetNode (javaInt (w - 1)))) hdrained fun _ => rfl
  obtain ⟨_, c₃, hrun, hc₃, -⟩ := hclose.returns hc₂
  exact ⟨c₃, hrun, hc₃⟩

/-- The input stream is closed first, which changes nothing that matters here. -/
theorem Serves.closeInput (hc : c.Serves ends n K) (streamId : Nat) :
    Serves ends n K { c with streamMap := c.streamMap.map fun s =>
      if s.streamId = streamId then s.closeInput else s } :=
  hc.updateStream streamId fun _ hid hs => ⟨hid, ⟨⟨hs.streamId, hs.target, hs.output⟩, hs.known⟩⟩

theorem closeStreamWith_blocked (hc : c.Serves ends n K) (hstream : stream.Known ends n)
    (hflush : stream.mustFlush = true)
    (hempty : stream.packageWindow = 0 ∨ (packageWindows c.nodeList)[stream.targetNode]? = some 0) :
    ∃ c', closeStreamWith P never (fun _ => return ()) stream c = .error .blocked c' := by
  obtain ⟨hclosed, hopen, cell, hpending⟩ := StreamImpl.mustFlush_iff.mp hflush
  obtain ⟨c', houtput⟩ :=
    closeOutput_blocked P (hc.closeInput stream.streamId) hstream hopen hpending hempty
  refine ⟨c', ?_⟩
  unfold closeStreamWith
  simp only [hclosed, Bool.not_false, if_true]
  rw [bind_of_ok (show updateStream stream.streamId closeInput c = .ok () _ from rfl)]
  exact bind_of_error houtput

theorem closeStreamWith_spends (hc : c.Serves ends n (· = ws)) (hstream : stream.Known ends n)
    (hflush : stream.mustFlush = true) (hspent : stream.packageWindow ≠ 0)
    (hw : ws[stream.targetNode]? = some w) (hne : w ≠ 0) :
    ∃ c', closeStreamWith P never (fun _ => return ()) stream c = .ok () c' ∧
      c'.Serves ends n (· = ws.set stream.targetNode (javaInt (w - 1))) := by
  obtain ⟨hclosed, hopen, cell, hpending⟩ := StreamImpl.mustFlush_iff.mp hflush
  obtain ⟨c₁, houtput, hc₁⟩ :=
    closeOutput_spends P (hc.closeInput stream.streamId) hstream hopen hpending hspent hw hne
  have hleave : Safe (Serves ends n (· = ws.set stream.targetNode (javaInt (w - 1))))
      (fun _ => False) (leaveCircuit P never (fun _ => return ()) stream) fun _ => True :=
    leaveCircuit_safe P never (fun _ => Safe.pure trivial) hstream
  obtain ⟨_, c₂, hrun, hc₂, -⟩ := hleave.returns hc₁
  refine ⟨c₂, ?_, hc₂⟩
  unfold closeStreamWith
  simp only [hclosed, Bool.not_false, if_true]
  rw [bind_of_ok (show updateStream stream.streamId closeInput c = .ok () _ from rfl),
    bind_of_ok houtput]
  exact hrun

theorem closeStreamWith_quiet (hstream : stream.Known ends n) (hflush : stream.mustFlush = false) :
    Safe (Serves ends n K) (fun _ => False)
      (closeStreamWith P never (fun _ => return ()) stream) fun _ => True := by
  refine Safe.when fun hclosed => ?_
  refine (closeInput_safe stream.streamId).bind fun _ _ => ?_
  refine (closeOutput_quiet P never _ hstream fun hopen => ?_).bind fun _ _ => ?_
  · -- an open stream that need not be flushed has nothing to send
    cases hpending : stream.outputStream.pending with
    | none => rfl
    | some cell =>
      have hmust := StreamImpl.mustFlush_iff.mpr ⟨by simpa using hclosed, hopen, cell, hpending⟩
      cases hflush.symm.trans hmust
  · exact leaveCircuit_safe P never (fun _ => Safe.pure trivial) hstream

end Close

/-! ## Closing all of them -/

/-- How many streams of a list have a cell to send to the node at position `i`. -/
def flushesAt (streams : List StreamImpl) (i : Nat) : Nat :=
  streams.countP fun s => s.mustFlush && s.targetNode == i

/-- The windows are enough to flush the streams of a list. A window below zero is never waited
for. -/
structure Supplied (windows : List Int) (streams : List StreamImpl) : Prop where
  streamWindows : ∀ s ∈ streams, s.mustFlush = true → s.packageWindow ≠ 0
  nodeWindows : ∀ i w, windows[i]? = some w → w < 0 ∨ (flushesAt streams i : Int) ≤ w

theorem isInt_range (h : IsInt w) : -2147483648 ≤ w ∧ w < 2147483648 := by
  have hlow := Int.le_bmod (x := w) (m := 2 ^ 32) (by decide)
  have hhigh := Int.bmod_lt (x := w) (m := 2 ^ 32) (by decide)
  unfold IsInt javaInt at h
  omega

/-- What is left of a window is enough for the others exactly when the window is for all. -/
theorem spent_iff (hint : IsInt w) {k : Nat} (hk : k < 2147483648) :
    (w < 0 ∨ ((k + 1 : Nat) : Int) ≤ w) ↔
      w ≠ 0 ∧ (javaInt (w - 1) < 0 ∨ (k : Int) ≤ javaInt (w - 1)) := by
  obtain ⟨hlow, hhigh⟩ := isInt_range hint
  by_cases hmin : w = -2147483648
  · -- the smallest window becomes the largest
    subst hmin
    have hwrapped : javaInt (-2147483648 - 1) = 2147483647 := by decide
    rw [hwrapped]
    omega
  · have hexact : javaInt (w - 1) = w - 1 := javaInt_of_range (by omega) (by omega)
    rw [hexact]
    omega

section Supply

variable {ws : List Int} {s : StreamImpl} {l : List StreamImpl}

theorem supplied_quiet (hflush : s.mustFlush = false) : Supplied ws (s :: l) ↔ Supplied ws l := by
  have hcount : ∀ i, flushesAt (s :: l) i = flushesAt l i := fun i => by
    simp [flushesAt, hflush]
  constructor
  · rintro ⟨hstreams, hnodes⟩
    exact ⟨(List.forall_mem_cons.mp hstreams).2, fun i w hw => hcount i ▸ hnodes i w hw⟩
  · rintro ⟨hstreams, hnodes⟩
    refine ⟨List.forall_mem_cons.mpr ⟨fun hmust => ?_, hstreams⟩, fun i w hw => ?_⟩
    · cases hflush.symm.trans hmust
    · rw [hcount]
      exact hnodes i w hw

theorem supplied_spends (hflush : s.mustFlush = true) (hw : ws[s.targetNode]? = some w)
    (hint : IsInt w) (hlength : l.length < 2147483648) :
    Supplied ws (s :: l) ↔ s.packageWindow ≠ 0 ∧ w ≠ 0 ∧
      Supplied (ws.set s.targetNode (javaInt (w - 1))) l := by
  have hlt : s.targetNode < ws.length := (List.getElem?_eq_some_iff.mp hw).1
  have hsame : flushesAt (s :: l) s.targetNode = flushesAt l s.targetNode + 1 := by
    simp [flushesAt, hflush]
  have hother : ∀ i, i ≠ s.targetNode → flushesAt (s :: l) i = flushesAt l i := fun i hi => by
    simp [flushesAt, hflush, Ne.symm hi]
  have hfew : flushesAt l s.targetNode < 2147483648 :=
    Nat.lt_of_le_of_lt List.countP_le_length hlength
  have hspent := spent_iff hint hfew
  constructor
  · intro h
    obtain ⟨hstream, hstreams⟩ := List.forall_mem_cons.mp h.streamWindows
    have htarget := h.nodeWindows s.targetNode w hw
    rw [hsame] at htarget
    obtain ⟨hne, hleft⟩ := hspent.mp htarget
    refine ⟨hstream hflush, hne, hstreams, fun i w' hw' => ?_⟩
    rcases eq_or_ne i s.targetNode with rfl | hi
    · cases (List.getElem?_set_self hlt).symm.trans hw'
      exact hleft
    · rw [List.getElem?_set_ne (Ne.symm hi)] at hw'
      rw [← hother i hi]
      exact h.nodeWindows i w' hw'
  · rintro ⟨hstream, hne, h⟩
    refine ⟨List.forall_mem_cons.mpr ⟨fun _ => hstream, h.streamWindows⟩, fun i w' hw' => ?_⟩
    rcases eq_or_ne i s.targetNode with rfl | hi
    · cases hw.symm.trans hw'
      rw [hsame]
      exact hspent.mpr ⟨hne, h.nodeWindows _ _ (List.getElem?_set_self hlt)⟩
    · rw [hother i hi]
      exact h.nodeWindows i w' ((List.getElem?_set_ne (Ne.symm hi)).trans hw')

end Supply

variable (P : Platform) {c : Circuit}

/-- Over the streams, one after the other: each takes its cell off the windows that the ones before
it have left. -/
theorem closeStreams_outcome {ends : Nat → Nat} {n : Nat} {ws : List Int} {l : List StreamImpl}
    (hc : c.Serves ends n (· = ws)) (hints : IntWindows ws) (hl : ∀ s ∈ l, s.Known ends n)
    (hlength : l.length < 2147483648) :
    (Supplied ws l → ∃ c', l.forM (closeStreamWith P never fun _ => return ()) c = .ok () c') ∧
    (¬ Supplied ws l →
      ∃ c', l.forM (closeStreamWith P never fun _ => return ()) c = .error .blocked c') := by
  induction l generalizing c ws with
  | nil =>
    refine ⟨fun _ => ⟨c, rfl⟩, fun h => absurd ⟨nofun, fun i w hw => ?_⟩ h⟩
    show w < 0 ∨ (0 : Int) ≤ w
    omega
  | cons s l ih =>
    obtain ⟨hs, hrest⟩ := List.forall_mem_cons.mp hl
    have hshort : l.length < 2147483648 := by
      rw [List.length_cons] at hlength
      omega
    -- once the first stream is closed it is the turn of the others
    have hnext : ∀ {c₁ : Circuit}, closeStreamWith P never (fun _ => return ()) s c = .ok () c₁ →
        (s :: l).forM (closeStreamWith P never fun _ => return ()) c =
          l.forM (closeStreamWith P never fun _ => return ()) c₁ := fun hrun => bind_of_ok hrun
    cases hflush : s.mustFlush with
    | false =>
      obtain ⟨_, c₁, hrun, hc₁, -⟩ := (closeStreamWith_quiet P hs hflush).returns hc
      rw [hnext hrun, supplied_quiet hflush]
      exact ih hc₁ hints hrest hshort
    | true =>
      obtain ⟨node, -, hwindow⟩ := hc.node hs.target
      rw [hc.windows] at hwindow
      have hint := hints _ (List.mem_of_getElem? hwindow)
      have hsupplied := supplied_spends hflush hwindow hint hshort
      by_cases hempty : s.packageWindow = 0 ∨ node.packageWindow = 0
      · have hblocked : ∃ c', closeStreamWith P never (fun _ => return ()) s c =
            .error .blocked c' := by
          refine closeStreamWith_blocked P hc hs hflush (hempty.imp id fun hnone => ?_)
          rw [hc.windows, hwindow, hnone]
        obtain ⟨c', hrun⟩ := hblocked
        refine ⟨fun h => ?_, fun _ => ⟨c', bind_of_error hrun⟩⟩
        obtain ⟨hstream, hnode, -⟩ := hsupplied.mp h
        exact absurd hempty (not_or.mpr ⟨hstream, hnode⟩)
      · obtain ⟨hstream, hnode⟩ := not_or.mp hempty
        obtain ⟨c₁, hrun, hc₁⟩ := closeStreamWith_spends P hc hs hflush hstream hwindow hnode
        have hints₁ : IntWindows (ws.set s.targetNode (javaInt (node.packageWindow - 1))) :=
          mayWait_ints.windows ws s.targetNode _ _ hints hwindow fun _ => isInt_javaInt _
        obtain ⟨hok, hblocked⟩ := ih hc₁ hints₁ hrest hshort
        rw [hnext hrun]
        refine ⟨fun h => hok (hsupplied.mp h).2.2, fun h => hblocked fun h' => h ?_⟩
        exact hsupplied.mpr ⟨hstream, hnode, h'⟩

/-- Ids are of two bytes, so there are not many streams. -/
theorem WellFormed.streams_length (h : c.WellFormed) : c.streamMap.length ≤ 65536 := by
  have hsubset : c.streamMap.map StreamImpl.streamId ⊆ List.range 65536 := by
    intro id hid
    obtain ⟨s, hs, rfl⟩ := List.mem_map.mp hid
    have hrange := (h.streams s hs).streamId
    exact List.mem_range.mpr (by omega)
  have hlength := (h.ids.subperm hsubset).length_le
  rw [List.length_map, List.length_range] at hlength
  exact hlength

/-- What the windows have to be for the circuit to be destroyed without waiting. -/
def NothingToAwait (c : Circuit) : Prop :=
  c.isClosed = true ∨ Supplied (packageWindows c.nodeList) c.streamMap

theorem destroyCircuit_outcome (h : c.WellFormed) :
    (NothingToAwait c → ∃ c', destroyCircuit P never c = .ok () c') ∧
      (¬ NothingToAwait c → ∃ c', destroyCircuit P never c = .error .blocked c') := by
  unfold NothingToAwait
  cases hclosed : c.isClosed with
  | true =>
    have hrun := destroyCircuit_closed P never hclosed
    exact ⟨fun _ => ⟨c, hrun⟩, fun h => absurd (Or.inl rfl) h⟩
  | false =>
    obtain ⟨ends, hserves⟩ := h.serves
    have hlength := h.streams_length
    -- the windows are those of the circuit when its streams are closed
    have hstart : Serves ends c.nodeList.length (· = packageWindows c.nodeList) { c with
        state := .DESTROYED
        isActive := false
        inCircuitMap := false
        log := c.log ++ [.idRemoved] } :=
      ⟨rfl, hserves.ids, hserves.streams, rfl⟩
    obtain ⟨hok, hblocked⟩ :=
      closeStreams_outcome P hstart hserves.windows hserves.streams (by omega)
    rw [destroyCircuit_run P never hclosed]
    refine ⟨fun hsupplied => ?_, fun hsupplied => ?_⟩
    · obtain ⟨c', hrun⟩ := hok (hsupplied.resolve_left nofun)
      exact ⟨_, bind_of_ok hrun⟩
    · obtain ⟨c', hrun⟩ := hblocked fun h => hsupplied (Or.inr h)
      exact ⟨c', bind_of_error hrun⟩

/-- With nobody to open a window, destroying a circuit completes exactly when the windows are enough
for the cells its streams still have to send; otherwise it waits for a cell to be received. -/
theorem destroyCircuit_completes_iff (c : Circuit) (h : c.WellFormed) :
    ((∃ c', destroyCircuit P never c = .ok () c') ↔ NothingToAwait c) ∧
      ((∃ c', destroyCircuit P never c = .error .blocked c') ↔ ¬ NothingToAwait c) := by
  obtain ⟨hok, hblocked⟩ := destroyCircuit_outcome P h
  refine ⟨⟨fun ⟨c', hrun⟩ => ?_, hok⟩, ⟨fun ⟨c', hrun⟩ hsupplied => ?_, hblocked⟩⟩
  · by_contra hsupplied
    obtain ⟨c'', hrun'⟩ := hblocked hsupplied
    cases hrun.symm.trans hrun'
  · obtain ⟨c'', hrun'⟩ := hok hsupplied
    cases hrun.symm.trans hrun'

end Circuit

/-- A stream to the first node, with the given window and a byte that was written but not sent. -/
def sampleUnsent (window : Int) : StreamImpl :=
  { streamId := 5
    targetNode := 0
    autoclose := false
    packageWindow := window
    outputStream := { currentOutputCell := some { RelayCell.create 0 1 5 RELAY_DATA false with
      position := HEADER_SIZE + 1 } } }

/-- A circuit of one node, with one such stream. -/
def sampleWriting (window nodeWindow : Int) : Circuit :=
  { sampleOpen [{ sampleNode 1 with packageWindow := nodeWindow }] with
    streamMap := [sampleUnsent window] }

theorem sampleWriting_wellFormed (window : Int) {nodeWindow : Int} (hint : IsInt nodeWindow) :
    (sampleWriting window nodeWindow).WellFormed := by
  refine ⟨List.nodup_singleton _, fun s hs => ?_, fun node hnode => ?_⟩
  · rw [List.mem_singleton.mp hs]
    refine ⟨show 5 ≤ 0xFFFF by decide, show 0 < 1 by decide, fun cell hcell => ?_⟩
    cases hcell
    exact ⟨rfl, rfl⟩
  · rw [List.mem_singleton.mp hnode]
    exact hint

/-- One unit in each of the two windows is enough for one stream. -/
theorem last_units_complete :
    ∃ c', Circuit.destroyCircuit Platform.checksum never (sampleWriting 1 1) = .ok () c' := by
  refine ((Circuit.destroyCircuit_completes_iff Platform.checksum (sampleWriting 1 1)
    (sampleWriting_wellFormed 1 rfl)).1).mpr (Or.inr ⟨fun s hs _ => ?_, fun i w hw => ?_⟩)
  · rw [List.mem_singleton.mp hs]
    decide
  · rcases i with - | i
    · cases hw
      decide
    · cases hw

/-- A DESTROY cell arrives for a circuit with a stream whose window is used up, and that has a byte
to send: the reading thread waits for a window that only it could open. -/
theorem destroy_cell_waits :
    (sampleWriting 0 1000).WellFormed ∧
      (∃ c', Circuit.destroyCircuit Platform.checksum never (sampleWriting 0 1000) =
        .error .blocked c') ∧
      ∃ c', Circuit.deliverControlCell Platform.checksum never
        (Cell.createCell 1 Cell.DESTROY) (sampleWriting 0 1000) = .error .blocked c' :=
  ⟨sampleWriting_wellFormed 0 rfl, ⟨_, rfl⟩, ⟨_, rfl⟩⟩

end Orchid
