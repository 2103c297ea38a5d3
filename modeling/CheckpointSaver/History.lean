import CheckpointSaver.Effects

/-!
# A run's history

What a run from `InMemorySaver()` leaves in the tables is a function of the calls it made. A
checkpoint address holds the entry of the last `put` that recorded it since the run last
deleted the thread (`lastPut`), and a blob key holds a blob that some `put` since then wrote
there (`sinceDelete`, `Op.blobsWritten`), a raising `put` included. These are the run lemmas
`checkpointsAt_run_get`, `blobs_run_get_some` and `blobs_run_isSome`, each by induction over the
run from the one-call lemmas of `Effects`.
-/

namespace CheckpointSaver

variable {V R : Type} (serde : SerializerProtocol V R)
  (getCheckpointMetadata : RunnableConfig → CheckpointMetadata V → CheckpointMetadata V)

/-- The blobs a call writes: those of a `put`, whether it returns or raises. -/
def Op.blobsWritten : Op V R → List ((String × String × String × String) × Typed)
  | .put config checkpoint _ newVersions => InMemorySaver.putBlobs serde config checkpoint newVersions
  | _ => []

/-- Whether a call is `delete_thread(t)`. -/
def Op.deletes (t : String) : Op V R → Bool
  | .deleteThread t' => t' = t
  | _ => false

/-- The calls of a run after its last `delete_thread(t)`. -/
def sinceDelete (t : String) (ops : List (Op V R)) : List (Op V R) :=
  (ops.reverse.takeWhile fun op => !op.deletes t).reverse

theorem sinceDelete_append_singleton (t : String) (ops : List (Op V R)) (op : Op V R) :
    sinceDelete t (ops ++ [op]) = if op.deletes t then [] else sinceDelete t ops ++ [op] := by
  unfold sinceDelete
  by_cases h : op.deletes t <;> simp [List.takeWhile_cons, h]

theorem mem_of_mem_sinceDelete {t : String} {ops : List (Op V R)} {op : Op V R}
    (h : op ∈ sinceDelete t ops) : op ∈ ops :=
  List.mem_reverse.1 ((List.takeWhile_sublist _).subset (List.mem_reverse.1 h))

theorem mem_sinceDelete_append_singleton {t : String} {ops : List (Op V R)} {op op' : Op V R} :
    op' ∈ sinceDelete t (ops ++ [op]) ↔
      op.deletes t = false ∧ (op' ∈ sinceDelete t ops ∨ op' = op) := by
  rw [sinceDelete_append_singleton]
  cases op.deletes t <;> simp

/-- One call's effect on `lastPut`. -/
def lastPutStep (t ns id : String)
    (acc : Option (RunnableConfig × Checkpoint V R × CheckpointMetadata V × Dict String String)) :
    Op V R → Option (RunnableConfig × Checkpoint V R × CheckpointMetadata V × Dict String String)
  | .put config checkpoint metadata newVersions =>
    match InMemorySaver.putRecord serde getCheckpointMetadata config checkpoint metadata
      newVersions with
    | some (t', ns', id', _) =>
      if t' = t ∧ ns' = ns ∧ id' = id then some (config, checkpoint, metadata, newVersions) else acc
    | none => acc
  | .deleteThread t' => if t' = t then none else acc
  | _ => acc

/-- The last `put` of a run that recorded a checkpoint at `(t, ns, id)` since the run last
deleted thread `t`: its config, checkpoint, metadata and new versions. -/
def lastPut (t ns id : String) (ops : List (Op V R)) :
    Option (RunnableConfig × Checkpoint V R × CheckpointMetadata V × Dict String String) :=
  ops.foldl (lastPutStep serde getCheckpointMetadata t ns id) none

/-- `lastPut` names a `put` that recorded `(t, ns, id)`. -/
theorem lastPut_record {t ns id : String} {ops : List (Op V R)}
    {a : RunnableConfig × Checkpoint V R × CheckpointMetadata V × Dict String String}
    (h : lastPut serde getCheckpointMetadata t ns id ops = some a) :
    ∃ saved, InMemorySaver.putRecord serde getCheckpointMetadata a.1 a.2.1 a.2.2.1 a.2.2.2 =
      some (t, ns, id, saved) := by
  refine List.foldlRecOn (motive := fun acc => ∀ a, acc = some a → ∃ saved,
      InMemorySaver.putRecord serde getCheckpointMetadata a.1 a.2.1 a.2.2.1 a.2.2.2 =
        some (t, ns, id, saved)) ops _ none (fun _ h => by cases h) (fun acc hacc op _ => ?_) a h
  cases op with
  | put config checkpoint metadata newVersions =>
    simp only [lastPutStep]
    split
    · next t' ns' id' saved hr =>
      split_ifs with he
      · rintro a ⟨⟩
        obtain ⟨rfl, rfl, rfl⟩ := he
        exact ⟨saved, hr⟩
      · exact hacc
    · exact hacc
  | deleteThread t' =>
    simp only [lastPutStep]
    split_ifs
    · rintro a ⟨⟩
    · exact hacc
  | _ => exact hacc

namespace InMemorySaver

variable [DecidableEq V] [PyNone V] (writesIdxMap : WritesIdxMap)

/-- The checkpoint a run from `InMemorySaver()` leaves at an address is the one its last `put`
there recorded. -/
theorem checkpointsAt_run_get (ops : List (Op V R)) (t ns id : String) :
    ((run serde writesIdxMap getCheckpointMetadata init ops).checkpointsAt t ns).get id =
      (lastPut serde getCheckpointMetadata t ns id ops).bind fun a =>
        (putRecord serde getCheckpointMetadata a.1 a.2.1 a.2.2.1 a.2.2.2).map fun r => r.2.2.2 := by
  induction ops using List.reverseRecOn with
  | nil => rfl
  | append_singleton ops op ih =>
    rw [run_append, run_cons, run_nil, checkpointsAt_exec, lastPut, List.foldl_append,
      List.foldl_cons, List.foldl_nil, ← lastPut]
    cases op with
    | put config checkpoint metadata newVersions =>
      simp only [lastPutStep]
      rcases hr : putRecord serde getCheckpointMetadata config checkpoint metadata newVersions with
        _ | ⟨t', ns', id', saved⟩
      · exact ih
      · simp only [get_checkpointsAt_record]
        split_ifs with h
        · obtain ⟨rfl, rfl, rfl⟩ := h
          simp [hr]
        · exact ih
    | deleteThread t' =>
      simp only [lastPutStep]
      by_cases h : t = t'
      · subst h
        simp
      · rw [if_neg h, if_neg (Ne.symm h), ih]
    | _ => exact ih

/-- Every blob a run from `InMemorySaver()` leaves was written by a `put` since the run last
deleted its thread. -/
theorem blobs_run_get_some {ops : List (Op V R)} {key : String × String × String × String}
    {b : Typed} (h : (run serde writesIdxMap getCheckpointMetadata init ops).blobs.get key = some b) :
    ∃ op ∈ sinceDelete key.1 ops, (key, b) ∈ op.blobsWritten serde := by
  induction ops using List.reverseRecOn generalizing b with
  | nil => cases h
  | append_singleton ops op ih =>
    rw [run_append, run_cons, run_nil, blobs_exec] at h
    suffices hcase : op.deletes key.1 = false ∧ ((key, b) ∈ op.blobsWritten serde ∨
        (run serde writesIdxMap getCheckpointMetadata init ops).blobs.get key = some b) by
      obtain ⟨hd, hw | hold⟩ := hcase
      · exact ⟨op, mem_sinceDelete_append_singleton.2 ⟨hd, .inr rfl⟩, hw⟩
      · obtain ⟨op', hop', hw⟩ := ih hold
        exact ⟨op', mem_sinceDelete_append_singleton.2 ⟨hd, .inl hop'⟩, hw⟩
    cases op with
    | put config checkpoint metadata newVersions => exact ⟨rfl, Dict.mem_or_get_of_get_setMany h⟩
    | deleteThread t =>
      by_cases ht : key.1 = t
      · simp [ht] at h
      · simp only [Dict.get_filter, ht, not_false_eq_true, decide_True, if_true] at h
        exact ⟨by simpa [Op.deletes] using Ne.symm ht, .inr h⟩
    | _ => exact ⟨rfl, .inr h⟩

/-- Every blob written by a `put` since the run last deleted its thread is still there. -/
theorem blobs_run_isSome {ops : List (Op V R)} {key : String × String × String × String}
    {b : Typed} {op : Op V R} (hop : op ∈ sinceDelete key.1 ops)
    (hw : (key, b) ∈ op.blobsWritten serde) :
    ((run serde writesIdxMap getCheckpointMetadata init ops).blobs.get key).isSome := by
  induction ops using List.reverseRecOn with
  | nil => simp [sinceDelete] at hop
  | append_singleton ops op' ih =>
    rw [run_append, run_cons, run_nil, blobs_exec]
    obtain ⟨hd, hop | rfl⟩ := mem_sinceDelete_append_singleton.1 hop
    · have hold := ih hop
      cases op' with
      | put config checkpoint metadata newVersions => exact Dict.isSome_get_setMany (.inr hold)
      | deleteThread t =>
        have ht : t ≠ key.1 := by simpa [Op.deletes] using hd
        simpa [Ne.symm ht] using hold
      | _ => exact hold
    · cases op with
      | put config checkpoint metadata newVersions => exact Dict.isSome_get_setMany (.inl ⟨b, hw⟩)
      | _ => simp [Op.blobsWritten] at hw

end InMemorySaver

end CheckpointSaver
