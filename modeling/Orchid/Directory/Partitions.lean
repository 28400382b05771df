import Orchid.Directory.Routers

/-!
# Orchid — which descriptors go into one request

`DescriptorProcessor` cuts the routers whose descriptors are to be downloaded into requests: a few
into one, up to three full requests evenly into three, and more into full requests and a rest.

* **`partitionDescriptors_tiles`**: the requests are the list, cut so.
-/

namespace Orchid

/-- `DescriptorProcessor`: of the configuration it asks for one value. -/
structure DescriptorProcessor where
  useMicrodescriptors : Bool

namespace DescriptorProcessor

def MAX_DL_PER_REQUEST : Nat := 96
def MIN_DL_REQUESTS : Nat := 3

variable (d : DescriptorProcessor)

def getDescriptorDigestForRouter (r : RouterImpl) : Option HexDigest :=
  if d.useMicrodescriptors then r.status.microdescriptorDigest else r.status.digest

variable (descriptors : List RouterImpl)

def createPartitionList (offset size : Nat) : List (Option HexDigest) :=
  ((descriptors.drop offset).take size).map d.getDescriptorDigestForRouter

/-- The rounds of the loop for a list that is cut evenly. -/
def evenPartitions (chunk : Nat) : (rounds surplus off : Nat) → List (List (Option HexDigest))
  | 0, _, _ => []
  | rounds + 1, surplus, off =>
    let sz := if surplus ≠ 0 then chunk + 1 else chunk
    d.createPartitionList descriptors off sz :: evenPartitions chunk rounds (surplus - 1) (off + sz)

/-- The loop for a longer list. -/
def fullPartitions (off : Nat) : List (List (Option HexDigest)) :=
  if off < descriptors.length then
    d.createPartitionList descriptors off MAX_DL_PER_REQUEST ::
      fullPartitions (off + MAX_DL_PER_REQUEST)
  else []
termination_by descriptors.length - off
decreasing_by
  unfold MAX_DL_PER_REQUEST
  omega

def partitionDescriptors : List (List (Option HexDigest)) :=
  let size := descriptors.length
  if size ≤ 10 then [d.createPartitionList descriptors 0 size]
  else if size ≤ MIN_DL_REQUESTS * MAX_DL_PER_REQUEST then
    d.evenPartitions descriptors (size / MIN_DL_REQUESTS) MIN_DL_REQUESTS (size % MIN_DL_REQUESTS) 0
  else d.fullPartitions descriptors 0

variable {d descriptors}

theorem createPartitionList_length (offset size : Nat) :
    (d.createPartitionList descriptors offset size).length =
      min size (descriptors.length - offset) := by
  unfold createPartitionList
  rw [List.length_map, List.length_take, List.length_drop]

/-- Two neighbouring slices make one. -/
theorem createPartitionList_append (offset size size' : Nat) :
    d.createPartitionList descriptors offset size ++
        d.createPartitionList descriptors (offset + size) size' =
      d.createPartitionList descriptors offset (size + size') := by
  unfold createPartitionList
  rw [← List.map_append, List.take_add, List.drop_drop]

/-- The slice from an offset to the end. -/
theorem createPartitionList_rest {offset size : Nat} (h : descriptors.length ≤ offset + size) :
    d.createPartitionList descriptors offset size =
      (descriptors.drop offset).map d.getDescriptorDigestForRouter := by
  unfold createPartitionList
  rw [List.take_of_length_le (by rw [List.length_drop]; omega)]

/-! ## The loops -/

theorem evenPartitions_length (chunk rounds surplus off : Nat) :
    (d.evenPartitions descriptors chunk rounds surplus off).length = rounds := by
  induction rounds generalizing surplus off with
  | zero => rfl
  | succ rounds ih => exact congrArg (· + 1) (ih _ _)

theorem evenPartitions_flatten (chunk rounds surplus off : Nat) :
    (d.evenPartitions descriptors chunk rounds surplus off).flatten =
      d.createPartitionList descriptors off (rounds * chunk + min surplus rounds) := by
  induction rounds generalizing surplus off with
  | zero => simp [evenPartitions, createPartitionList]
  | succ rounds ih =>
    unfold evenPartitions
    dsimp only
    rw [List.flatten_cons, ih, createPartitionList_append]
    congr 1
    rw [Nat.succ_mul]
    split <;> omega

/-- As long as there are routers enough, the sizes are those of the loop. -/
theorem evenPartitions_sizes {chunk rounds surplus off : Nat}
    (h : off + (rounds * chunk + min surplus rounds) ≤ descriptors.length) :
    ∀ p ∈ d.evenPartitions descriptors chunk rounds surplus off,
      p.length = chunk ∨ p.length = chunk + 1 ∧ surplus ≠ 0 := by
  induction rounds generalizing surplus off with
  | zero => exact fun p hp => nomatch hp
  | succ rounds ih =>
    rw [Nat.succ_mul] at h
    refine List.forall_mem_cons.mpr ⟨?_, fun p hp => ?_⟩
    · rw [createPartitionList_length]
      split <;> omega
    · rcases ih (by split <;> omega) p hp with hsize | ⟨hsize, hsurplus⟩
      · exact Or.inl hsize
      · exact Or.inr ⟨hsize, by omega⟩

theorem fullPartitions_flatten (off : Nat) :
    (d.fullPartitions descriptors off).flatten =
      (descriptors.drop off).map d.getDescriptorDigestForRouter := by
  fun_induction d.fullPartitions descriptors off with
  | case1 off h ih =>
    rw [List.flatten_cons, ih, ← createPartitionList_rest (Nat.le_add_left _ _),
      createPartitionList_append, createPartitionList_rest (by omega)]
  | case2 off h =>
    rw [List.drop_of_length_le (Nat.le_of_not_lt h)]
    rfl

theorem fullPartitions_sizes (off : Nat) :
    (∀ p ∈ d.fullPartitions descriptors off, p ≠ [] ∧ p.length ≤ 96) ∧
      ∀ p ∈ (d.fullPartitions descriptors off).dropLast, p.length = 96 := by
  fun_induction d.fullPartitions descriptors off with
  | case1 off h ih =>
    have hlength : (d.createPartitionList descriptors off 96).length = _ :=
      createPartitionList_length off 96
    unfold MAX_DL_PER_REQUEST at ih ⊢
    refine ⟨List.forall_mem_cons.mpr ⟨⟨List.ne_nil_of_length_pos (by omega), by omega⟩, ih.1⟩, ?_⟩
    cases hrest : d.fullPartitions descriptors (off + 96) with
    | nil => exact fun p hp => nomatch hp
    | cons q rest =>
      -- the loop went on, so this request was full
      have hmore : off + 96 < descriptors.length := by
        by_contra hend
        rw [fullPartitions, if_neg hend] at hrest
        cases hrest
      rw [hrest] at ih
      exact List.forall_mem_cons.mpr ⟨by omega, ih.2⟩
  | case2 off h => exact ⟨fun p hp => (nomatch hp), fun p hp => nomatch hp⟩

/-- **The requests** for a list of routers that is not empty. -/
theorem partitionDescriptors_tiles (d : DescriptorProcessor) (r : RouterImpl)
    (rs : List RouterImpl) :
    let partitions := d.partitionDescriptors (r :: rs)
    let size := (r :: rs).length
    partitions.flatten = (r :: rs).map d.getDescriptorDigestForRouter ∧
      (∀ p ∈ partitions, p ≠ [] ∧ p.length ≤ 96) ∧
      (size ≤ 10 → partitions.length = 1) ∧
      (11 ≤ size ∧ size ≤ 288 → partitions.length = 3 ∧
        ∀ p ∈ partitions, ∀ q ∈ partitions, p.length ≤ q.length + 1) ∧
      (288 < size → ∀ p ∈ partitions.dropLast, p.length = 96) := by
  intro partitions size
  have hpositive : 0 < size := Nat.succ_pos _
  by_cases hfew : size ≤ 10
  · have hone : partitions = [d.createPartitionList (r :: rs) 0 size] := if_pos hfew
    have hlength : (d.createPartitionList (r :: rs) 0 size).length = size :=
      (createPartitionList_length 0 size).trans (Nat.min_self _)
    rw [hone]
    refine ⟨?_, ?_, fun _ => rfl, by omega, by omega⟩
    · exact List.flatten_singleton.trans (createPartitionList_rest (Nat.le_add_left _ _))
    · exact List.forall_mem_singleton.mpr ⟨List.ne_nil_of_length_pos (by omega), by omega⟩
  · by_cases hsome : size ≤ 288
    · have heven : partitions = d.evenPartitions (r :: rs) (size / 3) 3 (size % 3) 0 :=
        (if_neg hfew).trans (if_pos hsome)
      have hsizes : ∀ p ∈ d.evenPartitions (r :: rs) (size / 3) 3 (size % 3) 0, _ :=
        evenPartitions_sizes (show _ ≤ size by omega)
      rw [heven]
      refine ⟨?_, fun p hp => ?_, by omega, fun _ => ⟨evenPartitions_length .., ?_⟩, by omega⟩
      · rw [evenPartitions_flatten]
        exact createPartitionList_rest (show size ≤ _ by omega)
      · have hsize := hsizes p hp
        exact ⟨List.ne_nil_of_length_pos (by omega), by omega⟩
      · intro p hp q hq
        have hsize := hsizes p hp
        have hsize' := hsizes q hq
        omega
    · rw [show partitions = d.fullPartitions (r :: rs) 0 from (if_neg hfew).trans (if_neg hsome)]
      exact ⟨fullPartitions_flatten 0, (fullPartitions_sizes 0).1, by omega, by omega,
        fun _ => (fullPartitions_sizes 0).2⟩

end DescriptorProcessor

end Orchid
