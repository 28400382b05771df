import Orchid.Circuits.Stream

/-!
# Orchid — reading a stream to its end

What `TorInputStream.read` does when the queue holds DATA and END cells only, which is what the
circuit puts there as long as the stream is open.

* `Ending`: an END cell has been read or waits in the queue.
* `unread` bounds what is left to read. Closing leaves it as it is.
* **`read_open`**: a read of an open stream gives bytes and lowers `unread`, or gives the end of the
  stream, or waits; and it waits only if no END cell has come.
-/

namespace Orchid

open Prog RelayCell

/-- A cell that the circuit puts into the queue of an open stream. -/
def Incoming.Expected (x : Incoming) : Prop :=
  ∃ cell, x = .cell cell ∧ (cell.relayCommand = RELAY_DATA ∨ cell.relayCommand = RELAY_END)

/-- A place in the queue counts, and every byte. -/
def Incoming.weight : Incoming → Nat
  | .cell c => c.toCell.payload.length + 1
  | .closeSentinel => 1

namespace TorInputStream

def queued (queue : List Incoming) : Nat := (queue.map Incoming.weight).sum

/-- What is left to read; a stream that may still be closed has a sentinel to come. -/
def unread (s : TorInputStream) : Nat :=
  s.currentBuffer.length + queued s.incomingCells + if s.isClosed then 0 else 1

def EndIn (queue : List Incoming) : Prop :=
  ∃ cell, Incoming.cell cell ∈ queue ∧ cell.relayCommand = RELAY_END

/-- The end of the stream has been read or waits in the queue. -/
def Ending (s : TorInputStream) : Prop := s.isEOF = true ∨ EndIn s.incomingCells

variable (s : TorInputStream)

theorem close_unread : s.close.unread = s.unread := by
  unfold close
  split
  · rfl
  · rename_i hopen
    simp [unread, queued, hopen, Incoming.weight]
    omega

/-- How reading moves an open stream on. -/
structure ReadsOn (s s' : TorInputStream) : Prop where
  isClosed : s'.isClosed = s.isClosed
  queue : s'.incomingCells <:+ s.incomingCells
  ending : s.Ending → s'.Ending
  unread : s'.unread ≤ s.unread

theorem ReadsOn.refl : ReadsOn s s :=
  ⟨rfl, List.suffix_refl _, id, Nat.le_refl _⟩

variable {s : TorInputStream} {cell : RelayCell}

theorem ReadsOn.trans {s' s'' : TorInputStream} (h : ReadsOn s s') (h' : ReadsOn s' s'') :
    ReadsOn s s'' :=
  ⟨h'.isClosed.trans h.isClosed, h'.queue.trans h.queue, fun he => h'.ending (h.ending he),
    Nat.le_trans h'.unread h.unread⟩

theorem ReadsOn.expected {s' : TorInputStream} (h : ReadsOn s s')
    (hexpected : ∀ x ∈ s.incomingCells, x.Expected) : ∀ x ∈ s'.incomingCells, x.Expected :=
  fun x hx => hexpected x (h.queue.subset hx)

variable {rest : List Incoming}

theorem endIn_cons (hdata : cell.relayCommand = RELAY_DATA) :
    EndIn (.cell cell :: rest) → EndIn rest := by
  rintro ⟨cell', hmem, hend⟩
  rcases List.mem_cons.mp hmem with hsame | hmem
  · cases hsame
    cases hdata.symm.trans hend
  · exact ⟨cell', hmem, hend⟩

/-- Taking the first cell off the queue. -/
theorem readsOn_take (hqueue : s.incomingCells = .cell cell :: rest)
    (hempty : s.currentBuffer = []) (hdata : cell.relayCommand = RELAY_DATA) :
    ReadsOn s { s with incomingCells := rest, currentBuffer := cell.toCell.payload } := by
  refine ⟨rfl, ?_, ?_, ?_⟩
  · rw [hqueue]
    exact List.suffix_cons _ _
  · unfold Ending
    rw [hqueue]
    exact Or.imp_right (endIn_cons hdata)
  · simp [unread, queued, hqueue, hempty, Incoming.weight]

theorem readsOn_end {x : Incoming} (hqueue : s.incomingCells = x :: rest) :
    ReadsOn s { s with incomingCells := rest, currentBuffer := [], isEOF := true } := by
  refine ⟨rfl, ?_, fun _ => Or.inl rfl, ?_⟩
  · rw [hqueue]
    exact List.suffix_cons _ _
  · simp only [unread, queued, hqueue, List.map_cons, List.sum_cons, List.length_nil]
    omega

theorem fillBufferFrom_data (rest : List Incoming) (hopen : s.isClosed = false)
    (hdata : cell.relayCommand = RELAY_DATA) :
    fillBufferFrom (.cell cell :: rest) s =
      (if !(s.isEOF || !cell.toCell.payload.isEmpty) then fillBufferFrom rest else pure ())
        { s with incomingCells := rest, currentBuffer := cell.toCell.payload } := by
  simp only [fillBufferFrom, processIncomingCell, bind_run, modify_run, get_run, hopen, hdata,
    if_true, Bool.false_eq_true, if_false]

theorem fillBufferFrom_end (rest : List Incoming) (hopen : s.isClosed = false)
    (hend : cell.relayCommand = RELAY_END) :
    fillBufferFrom (.cell cell :: rest) s =
      .ok () { s with incomingCells := rest, currentBuffer := [], isEOF := true } := by
  have hother : ¬ RELAY_END = RELAY_DATA := by decide
  simp only [fillBufferFrom, processIncomingCell, bind_run, modify_run, get_run, hopen, hend,
    if_true, Bool.false_eq_true, if_false, hother]
  rfl

theorem fillBufferFrom_open (queue : List Incoming) (hopen : s.isClosed = false)
    (hqueue : s.incomingCells = queue) (hempty : s.currentBuffer = []) (hmore : s.isEOF = false)
    (hexpected : ∀ x ∈ queue, x.Expected) :
    (∃ s', fillBufferFrom queue s = .ok () s' ∧ ReadsOn s s' ∧
        (s'.isEOF = true ∨ s'.currentBuffer ≠ [])) ∨
      ∃ s', fillBufferFrom queue s = .error .blocked s' ∧ ¬ EndIn queue := by
  induction queue generalizing s with
  | nil =>
    refine Or.inr ⟨s, rfl, ?_⟩
    rintro ⟨cell, hmem, -⟩
    cases hmem
  | cons x rest ih =>
    obtain ⟨cell, rfl, hdata | hend⟩ := hexpected x List.mem_cons_self
    · have htake := readsOn_take hqueue hempty hdata
      rw [fillBufferFrom_data rest hopen hdata]
      by_cases hnone : cell.toCell.payload = []
      · rw [if_pos (by simp [hnone, hmore])]
        rcases ih (s := { s with incomingCells := rest, currentBuffer := cell.toCell.payload }) hopen
          rfl hnone hmore (fun y hy => hexpected y (List.mem_cons_of_mem _ hy)) with
          ⟨s', hfill, hreads, hfilled⟩ | ⟨s', hfill, hnoend⟩
        · exact Or.inl ⟨s', hfill, htake.trans hreads, hfilled⟩
        · exact Or.inr ⟨s', hfill, fun hend => hnoend (endIn_cons hdata hend)⟩
      · rw [if_neg (by simp [hnone])]
        exact Or.inl ⟨_, rfl, htake, Or.inr hnone⟩
    · rw [fillBufferFrom_end rest hopen hend]
      exact Or.inl ⟨_, rfl, readsOn_end hqueue, Or.inl rfl⟩

theorem refillBufferIfNeeded_run :
    refillBufferIfNeeded s =
      (if !s.isEOF && s.currentBuffer.isEmpty then fillBufferFrom s.incomingCells else pure ()) s := by
  show (if (!s.isEOF && s.currentBuffer.isEmpty) = true then _ else _ : InputM Unit) s = _
  split <;> rfl

theorem refillBufferIfNeeded_open (hopen : s.isClosed = false)
    (hexpected : ∀ x ∈ s.incomingCells, x.Expected) :
    (∃ s', refillBufferIfNeeded s = .ok () s' ∧ ReadsOn s s' ∧
        (s'.isEOF = true ∨ s'.currentBuffer ≠ []) ∧ (s.currentBuffer ≠ [] → s' = s)) ∨
      ∃ s', refillBufferIfNeeded s = .error .blocked s' ∧ ¬ s.Ending := by
  rw [refillBufferIfNeeded_run]
  by_cases hneeded : (!s.isEOF && s.currentBuffer.isEmpty) = true
  · rw [if_pos hneeded]
    rw [Bool.and_eq_true, Bool.not_eq_true', List.isEmpty_iff] at hneeded
    rcases fillBufferFrom_open s.incomingCells hopen rfl hneeded.2 hneeded.1 hexpected with
      ⟨s', hfill, hreads, hfilled⟩ | ⟨s', hfill, hnoend⟩
    · exact Or.inl ⟨s', hfill, hreads, hfilled, absurd hneeded.2⟩
    · refine Or.inr ⟨s', hfill, ?_⟩
      rintro (heof | hend)
      · exact Bool.false_ne_true (hneeded.1.symm.trans heof)
      · exact hnoend hend
  · rw [if_neg hneeded]
    refine Or.inl ⟨s, rfl, ReadsOn.refl s, ?_, fun _ => rfl⟩
    rw [Bool.and_eq_true, Bool.not_eq_true', List.isEmpty_iff] at hneeded
    cases heof : s.isEOF with
    | true => exact Or.inl rfl
    | false => exact Or.inr fun hempty => hneeded ⟨heof, hempty⟩

/-- What is taken out of the buffer. -/
theorem readFromCurrentBuffer_run (len : Nat) (s : TorInputStream) :
    ∃ s', readFromCurrentBuffer len s = .ok (s.currentBuffer.take len) s' ∧ ReadsOn s s' ∧
      s'.unread + (s.currentBuffer.take len).length = s.unread := by
  refine ⟨_, rfl, ⟨rfl, List.suffix_refl _, id, ?_⟩, ?_⟩
  · simp only [unread, List.length_drop]
    omega
  · simp only [unread, List.length_drop, List.length_take]
    omega

/-- A round of the loop of `read`, once the buffer is filled. -/
theorem readRounds_round (rounds len : Nat) (done : List UInt8) {s₁ : TorInputStream}
    (hround : (done.length < len && !s.isEOF) = true)
    (hrefill : refillBufferIfNeeded s = .ok () s₁) :
    ∃ s₂, ReadsOn s₁ s₂ ∧
      s₂.unread + (s₁.currentBuffer.take (len - done.length)).length = s₁.unread ∧
      readRounds (rounds + 1) len done s =
        if s₂.availableBytes = 0 then .ok (done ++ s₁.currentBuffer.take (len - done.length)) s₂
        else readRounds rounds len (done ++ s₁.currentBuffer.take (len - done.length)) s₂ := by
  obtain ⟨s₂, htake, hreads, htaken⟩ := readFromCurrentBuffer_run (len - done.length) s₁
  refine ⟨s₂, hreads, htaken, ?_⟩
  have hrun : readRounds (rounds + 1) len done s =
      (if done.length < len && !s.isEOF then do
        refillBufferIfNeeded
        let done := done ++ (← readFromCurrentBuffer (len - done.length))
        if (← get).availableBytes = 0 then return done
        readRounds rounds len done
      else return done : InputM (List UInt8)) s := rfl
  rw [hrun, if_pos hround, bind_of_ok hrefill, bind_of_ok htake, get_bind_run]
  split <;> rfl

/-- The loop of `read`: it goes on from what is there, every byte it adds is read, and with bytes in
the buffer it reads some. -/
theorem readRounds_open (rounds len : Nat) (done : List UInt8) (hopen : s.isClosed = false)
    (hexpected : ∀ x ∈ s.incomingCells, x.Expected) :
    (∃ data s', readRounds rounds len done s = .ok data s' ∧ ReadsOn s s' ∧
        done.length ≤ data.length ∧ s'.unread + data.length ≤ s.unread + done.length ∧
        (rounds ≠ 0 → done.length < len → s.isEOF = false → s.currentBuffer ≠ [] →
          done.length < data.length)) ∨
      ∃ s', readRounds rounds len done s = .error .blocked s' ∧ ¬ s.Ending := by
  induction rounds generalizing done s with
  | zero => exact Or.inl ⟨done, s, rfl, ReadsOn.refl s, Nat.le_refl _, Nat.le_refl _, absurd rfl⟩
  | succ rounds ih =>
    by_cases hround : (done.length < len && !s.isEOF) = true
    · rcases refillBufferIfNeeded_open hopen hexpected with
        ⟨s₁, hrefill, hreads₁, -, hsame⟩ | ⟨s₁, hrefill, hmore⟩
      · obtain ⟨s₂, hreads₂, htaken, hrun⟩ := readRounds_round rounds len done hround hrefill
        have hpositive : done.length < len → s.currentBuffer ≠ [] →
            0 < (s₁.currentBuffer.take (len - done.length)).length := by
          intro hless hfilled
          have hlength := List.length_pos_of_ne_nil hfilled
          rw [hsame hfilled, List.length_take]
          omega
        have hreads := hreads₁.trans hreads₂
        have hcount := hreads₁.unread
        rw [hrun]
        by_cases hnone : s₂.availableBytes = 0
        · rw [if_pos hnone]
          refine Or.inl ⟨_, s₂, rfl, hreads, ?_, ?_, fun _ hless _ hfilled => ?_⟩
          · rw [List.length_append]
            omega
          · rw [List.length_append]
            omega
          · rw [List.length_append]
            exact Nat.lt_add_of_pos_right (hpositive hless hfilled)
        · rw [if_neg hnone]
          rcases ih (done ++ s₁.currentBuffer.take (len - done.length))
              (hreads.isClosed.trans hopen) (hreads.expected hexpected) with
            ⟨data, s₃, hrest, hreads₃, hlonger, hcount₃, -⟩ | ⟨s₃, hrest, hmore⟩
          · rw [List.length_append] at hlonger hcount₃
            refine Or.inl ⟨data, s₃, hrest, hreads.trans hreads₃, ?_, ?_, fun _ hless _ hfilled => ?_⟩
            · omega
            · omega
            · have hsome := hpositive hless hfilled
              omega
          · exact Or.inr ⟨s₃, hrest, fun hend => hmore (hreads.ending hend)⟩
      · have hrun : readRounds (rounds + 1) len done s = .error .blocked s₁ := by
          unfold readRounds
          rw [get_bind_run, if_pos hround, bind_of_error hrefill]
        exact Or.inr ⟨s₁, hrun, hmore⟩
    · have hrun : readRounds (rounds + 1) len done s = .ok done s := by
        unfold readRounds
        rw [get_bind_run, if_neg hround]
        rfl
      exact Or.inl ⟨done, s, hrun, ReadsOn.refl s, Nat.le_refl _, Nat.le_refl _,
        fun _ hless hmore => absurd (by simp [hless, hmore]) hround⟩

/-- A closed stream is not read. -/
theorem read_closed (hclosed : s.isClosed = true) (size : Nat) (off len : Int) :
    read size off len s = .error (.io (lit "Stream closed")) s := by
  unfold read
  rw [get_bind_run, hclosed]
  rfl

/-- **Reading an open stream** into a whole array. -/
theorem read_open (hopen : s.isClosed = false) (hexpected : ∀ x ∈ s.incomingCells, x.Expected)
    (size : Nat) (hsize : 0 < size) :
    (∃ s', read size 0 size s = .ok none s' ∧ ReadsOn s s') ∨
      (∃ data s', read size 0 size s = .ok (some data) s' ∧ ReadsOn s s' ∧ s'.unread < s.unread) ∨
      ∃ s', read size 0 size s = .error .blocked s' ∧ ¬ s.Ending := by
  have hrun : read size 0 size s = (do
      refillBufferIfNeeded if (← get).isEOF then return none
      return some (← readRounds (size : Int).toNat (size : Int).toNat []) :
        InputM (Option (List UInt8))) s := by
    unfold read
    rw [get_bind_run, hopen]
    have hargs : ¬ ((0 : Int) < 0 ∨ (0 : Int) ≥ size ∨ (size : Int) < 0 ∨ 0 + (size : Int) > size) := by
      omega
    have hlen : ¬ (size : Int) = 0 := by
      omega
    rw [if_neg Bool.false_ne_true, if_neg hargs, if_neg hlen]
  rw [hrun, Int.toNat_natCast]
  rcases refillBufferIfNeeded_open hopen hexpected with
    ⟨s₁, hrefill, hreads₁, hfilled, -⟩ | ⟨s₁, hrefill, hmore⟩
  · rw [bind_of_ok hrefill, get_bind_run]
    by_cases heof : s₁.isEOF = true
    · rw [if_pos heof]
      exact Or.inl ⟨s₁, rfl, hreads₁⟩
    · rw [if_neg heof]
      rcases readRounds_open size size [] (hreads₁.isClosed.trans hopen)
          (hreads₁.expected hexpected) with
        ⟨data, s₂, hrest, hreads₂, -, hcount, hsome⟩ | ⟨s₂, hrest, hnoend⟩
      · rw [bind_of_ok hrest]
        have hread := hsome (by omega) hsize (Bool.eq_false_iff.mpr heof)
          (hfilled.resolve_left heof)
        have hfewer := hreads₁.unread
        exact Or.inr (Or.inl ⟨data, s₂, rfl, hreads₁.trans hreads₂, by omega⟩)
      · rw [bind_of_error hrest]
        exact Or.inr (Or.inr ⟨s₂, rfl, fun hend => hnoend (hreads₁.ending hend)⟩)
  · rw [bind_of_error hrefill]
    exact Or.inr (Or.inr ⟨s₁, rfl, hmore⟩)

end TorInputStream

end Orchid
