import CheckpointSaver.Run

/-!
# What each call changes

The saver is read through three views: the checkpoints of a namespace (`checkpointsAt`), the
write buffer of a checkpoint (`writesAt`) and a blob (`blobs.get`). This module states once,
for every call, how it changes each view; later proofs cite these lemmas and never unfold the
calls.

The `defaultdict` reads change no view: they create empty containers, which the views read as
absent ones. `put` reads nothing of the saver, so what it writes is a function of the call,
`putBlobs` and `putRecord`.
-/

namespace CheckpointSaver

namespace InMemorySaver

/-! ### `defaultdict` reads -/

section Touch

variable (s : InMemorySaver)

@[simp]
theorem checkpointsAt_touchNs (t ns t' ns' : String) :
    (s.touchNs t ns).checkpointsAt t' ns' = s.checkpointsAt t' ns' := by
  unfold checkpointsAt touchNs
  by_cases ht : t' = t
  · subst ht
    by_cases hns : ns' = ns
    · subst hns
      simp [Dict.getD]
    · simp [Dict.getD, hns]
  · simp [Dict.getD, ht]

@[simp]
theorem checkpointsAt_touchThread (t t' ns' : String) :
    (s.touchThread t).checkpointsAt t' ns' = s.checkpointsAt t' ns' := by
  unfold checkpointsAt touchThread
  by_cases ht : t' = t
  · subst ht
    simp [Dict.getD]
  · simp [Dict.getD, ht]

@[simp]
theorem checkpointsAt_touchWrites (key : String × String × String) (t' ns' : String) :
    (s.touchWrites key).checkpointsAt t' ns' = s.checkpointsAt t' ns' :=
  rfl

@[simp]
theorem writesAt_touchWrites (key key' : String × String × String) :
    (s.touchWrites key).writesAt key' = s.writesAt key' := by
  unfold writesAt touchWrites
  by_cases h : key' = key
  · subst h
    simp [Dict.getD]
  · simp [Dict.getD, h]

@[simp]
theorem writes_touchNs (t ns : String) : (s.touchNs t ns).writes = s.writes :=
  rfl

@[simp]
theorem writesAt_touchNs (t ns : String) (key : String × String × String) :
    (s.touchNs t ns).writesAt key = s.writesAt key :=
  rfl

@[simp]
theorem writesAt_touchThread (t : String) (key : String × String × String) :
    (s.touchThread t).writesAt key = s.writesAt key :=
  rfl

@[simp]
theorem blobs_touchNs (t ns : String) : (s.touchNs t ns).blobs = s.blobs :=
  rfl

@[simp]
theorem writes_touchThread (t : String) : (s.touchThread t).writes = s.writes :=
  rfl

@[simp]
theorem blobs_touchThread (t : String) : (s.touchThread t).blobs = s.blobs :=
  rfl

@[simp]
theorem blobs_touchWrites (key : String × String × String) :
    (s.touchWrites key).blobs = s.blobs :=
  rfl

end Touch

/-! ### Recording and deleting -/

section Record

variable (s : InMemorySaver)

theorem checkpointsAt_record (t ns id : String) (saved : Saved) (t' ns' : String) :
    (s.record t ns id saved).checkpointsAt t' ns' =
      if t' = t ∧ ns' = ns then (s.checkpointsAt t ns).set id saved
      else s.checkpointsAt t' ns' := by
  unfold record checkpointsAt
  by_cases ht : t' = t
  · subst ht
    by_cases hns : ns' = ns
    · subst hns
      simp [Dict.getD]
    · simp [Dict.getD, hns]
  · simp [Dict.getD, ht]

/-- What a recorded checkpoint leaves at one address. -/
theorem get_checkpointsAt_record (t ns id : String) (saved : Saved) (t' ns' id' : String) :
    ((s.record t ns id saved).checkpointsAt t' ns').get id' =
      if t = t' ∧ ns = ns' ∧ id = id' then some saved else (s.checkpointsAt t' ns').get id' := by
  rw [checkpointsAt_record]
  by_cases h : t' = t ∧ ns' = ns
  · obtain ⟨rfl, rfl⟩ := h
    by_cases hid : id = id' <;> simp [hid, Dict.get_set_ne _ _ (Ne.symm _)]
  · rw [if_neg h, if_neg fun h' => h ⟨h'.1.symm, h'.2.1.symm⟩]

@[simp]
theorem writes_record (t ns id : String) (saved : Saved) : (s.record t ns id saved).writes = s.writes :=
  rfl

@[simp]
theorem blobs_record (t ns id : String) (saved : Saved) : (s.record t ns id saved).blobs = s.blobs :=
  rfl

theorem checkpointsAt_deleteThread (t t' ns' : String) :
    (s.deleteThread t).checkpointsAt t' ns' = if t' = t then ∅ else s.checkpointsAt t' ns' := by
  unfold checkpointsAt deleteThread
  by_cases ht : t' = t <;> simp [Dict.getD, ht]

theorem writes_deleteThread (t : String) :
    (s.deleteThread t).writes = s.writes.filter fun key => ¬key.1 = t :=
  Dict.foldl_erase_keys _ _

theorem blobs_deleteThread (t : String) :
    (s.deleteThread t).blobs = s.blobs.filter fun key => ¬key.1 = t :=
  Dict.foldl_erase_keys _ _

theorem writesAt_deleteThread (t : String) (key : String × String × String) :
    (s.deleteThread t).writesAt key = if key.1 = t then ∅ else s.writesAt key := by
  unfold writesAt
  by_cases h : key.1 = t <;> simp [writes_deleteThread, Dict.getD, h]

theorem blobs_get_deleteThread (t : String) (key : String × String × String × String) :
    (s.deleteThread t).blobs.get key = if key.1 = t then none else s.blobs.get key := by
  by_cases h : key.1 = t <;> simp [blobs_deleteThread, h]

end Record

/-! ### Reads -/

variable {V R : Type} (serde : SerializerProtocol V R)

section Reads

variable (s : InMemorySaver)

/-- What `get_tuple` leaves behind is `s` with some containers created. -/
theorem getTuple_fst_views (config : RunnableConfig) :
    (∀ t ns, (getTuple serde s config).1.checkpointsAt t ns = s.checkpointsAt t ns) ∧
      (∀ key, (getTuple serde s config).1.writesAt key = s.writesAt key) ∧
      (getTuple serde s config).1.blobs = s.blobs := by
  unfold getTuple
  split
  · exact ⟨fun _ _ => rfl, fun _ => rfl, rfl⟩
  · dsimp only
    repeat' split
    all_goals simp

theorem listDrawn_views (config : Option RunnableConfig) (items : List (CheckpointTuple V R))
    (n : Nat) :
    (∀ t ns, (listDrawn s config items n).checkpointsAt t ns = s.checkpointsAt t ns) ∧
      (∀ key, (listDrawn s config items n).writesAt key = s.writesAt key) ∧
      (listDrawn s config items n).blobs = s.blobs := by
  have key : ∀ (l : List (CheckpointTuple V R)) (s' : InMemorySaver),
      (∀ t ns, (l.foldl (fun s τ => s.touchWrites τ.writesKey) s').checkpointsAt t ns =
        s'.checkpointsAt t ns) ∧
      (∀ key, (l.foldl (fun s τ => s.touchWrites τ.writesKey) s').writesAt key = s'.writesAt key) ∧
      (l.foldl (fun s τ => s.touchWrites τ.writesKey) s').blobs = s'.blobs := by
    intro l
    induction l with
    | nil => intro s'; exact ⟨fun _ _ => rfl, fun _ => rfl, rfl⟩
    | cons τ l ih =>
      intro s'
      obtain ⟨h₁, h₂, h₃⟩ := ih (s'.touchWrites τ.writesKey)
      exact ⟨fun t ns => by simp [h₁], fun k => by simp [h₂], by simp [h₃]⟩
  unfold listDrawn
  split
  · exact ⟨fun _ _ => rfl, fun _ => rfl, rfl⟩
  · obtain ⟨h₁, h₂, h₃⟩ := key (items.take n) (match config.bind (·.threadId) with
      | some threadId => s.touchThread threadId
      | none => s)
    refine ⟨fun t ns => ?_, fun k => ?_, ?_⟩ <;> split <;> simp_all [writesAt]

end Reads

/-! ### `put_writes` -/

section PutWrites

variable (writesIdxMap : WritesIdxMap) (outerKey : String × String × String) (present : Bool)
  (taskId taskPath : String)

/-- The loop of `put_writes` touches only its own buffer. -/
theorem putWritesLoop_get_ne {key : String × String × String} (h : key ≠ outerKey) :
    ∀ (idx : Nat) (writes : List (String × V)) w,
      (putWritesLoop serde writesIdxMap outerKey present taskId taskPath idx writes w).1.get key =
        w.get key := by
  intro idx writes
  induction writes generalizing idx with
  | nil => intro w; rfl
  | cons cv writes ih =>
    intro w
    obtain ⟨c, v⟩ := cv
    unfold putWritesLoop
    dsimp only
    split_ifs
    · exact ih _ _
    · split
      · rfl
      · rw [ih, Dict.get_set_ne _ _ h]

theorem putWrites_fst (s : InMemorySaver) (config : RunnableConfig) (writes : List (String × V)) :
    (putWrites serde writesIdxMap s config writes taskId taskPath).1.storage = s.storage ∧
      (putWrites serde writesIdxMap s config writes taskId taskPath).1.blobs = s.blobs := by
  unfold putWrites
  split <;> exact ⟨rfl, rfl⟩

end PutWrites

/-! ### `put` -/

variable (getCheckpointMetadata : RunnableConfig → CheckpointMetadata V → CheckpointMetadata V)

/-- The blobs a `put` writes, in order, whether it returns or raises. -/
def putBlobs (config : RunnableConfig) (checkpoint : Checkpoint V R)
    (newVersions : Dict String String) : List ((String × String × String × String) × Typed) :=
  match config.threadId, config.checkpointNs, checkpoint.channelValues with
  | some threadId, some checkpointNs, some values =>
    (blobWrites serde threadId checkpointNs values newVersions.entries).1
  | _, _, _ => []

/-- The checkpoint a `put` records, with its address, when the call returns. -/
def putRecord (config : RunnableConfig) (checkpoint : Checkpoint V R)
    (metadata : CheckpointMetadata V) (newVersions : Dict String String) :
    Option (String × String × String × Saved) :=
  match config.threadId, config.checkpointNs, checkpoint.channelValues with
  | some threadId, some checkpointNs, some values =>
    match (blobWrites serde threadId checkpointNs values newVersions.entries).2,
      savedEntry serde getCheckpointMetadata config checkpoint metadata with
    | .ok (), .ok (checkpointId, saved) => some (threadId, checkpointNs, checkpointId, saved)
    | _, _ => none
  | _, _, _ => none

variable (s : InMemorySaver) (config : RunnableConfig) (checkpoint : Checkpoint V R)
  (metadata : CheckpointMetadata V) (newVersions : Dict String String)

theorem put_blobs :
    (put serde getCheckpointMetadata s config checkpoint metadata newVersions).1.blobs =
      s.blobs.setMany (putBlobs serde config checkpoint newVersions) := by
  unfold put putBlobs
  rcases config.threadId with _ | t <;> rcases config.checkpointNs with _ | ns <;>
    rcases checkpoint.channelValues with _ | values <;> try rfl
  dsimp only
  split
  · rfl
  · split <;> rfl

theorem put_writes :
    (put serde getCheckpointMetadata s config checkpoint metadata newVersions).1.writes =
      s.writes := by
  unfold put
  rcases config.threadId with _ | t <;> rcases config.checkpointNs with _ | ns <;>
    rcases checkpoint.channelValues with _ | values <;> try rfl
  dsimp only
  split
  · rfl
  · split <;> rfl

theorem checkpointsAt_put (t' ns' : String) :
    (put serde getCheckpointMetadata s config checkpoint metadata newVersions).1.checkpointsAt
        t' ns' =
      match putRecord serde getCheckpointMetadata config checkpoint metadata newVersions with
      | some (t, ns, id, saved) => (s.record t ns id saved).checkpointsAt t' ns'
      | none => s.checkpointsAt t' ns' := by
  unfold put putRecord
  rcases config.threadId with _ | t <;> rcases config.checkpointNs with _ | ns <;>
    rcases checkpoint.channelValues with _ | values <;> try rfl
  dsimp only
  split
  · next h => simp only [h]; rfl
  · next h =>
    simp only [h]
    split
    · next h' => simp only [h']; exact checkpointsAt_touchNs _ _ _ _ _
    · next h' => simp only [h']; rfl

/-- **The blob loop of `put`.** It writes a blob at `(t, ns, k, version)` exactly for the items
`(k, version)` of `new_versions` that every item before them lets it reach, a channel's value
stopping it when `dumps_typed` raises on it; and the blob is the channel's serialized value or,
when it has none, the `"empty"` blob. -/
theorem mem_blobWrites_iff {t ns : String} {values : Dict String V}
    {key : String × String × String × String} {b : Typed} {l : List (String × String)} :
    (key, b) ∈ (blobWrites serde t ns values l).1 ↔
      ∃ pre k c post, l = pre ++ (k, c) :: post ∧
        (∀ p ∈ pre, ∀ x, values.get p.1 = some x → ∃ b', serde.values.dumpsTyped x = .ok b') ∧
        key = (t, ns, k, c) ∧
        ((values.get k = none ∧ b = Typed.empty) ∨
          ∃ x, values.get k = some x ∧ serde.values.dumpsTyped x = .ok b) := by
  constructor
  · induction l with
    | nil => exact fun h => by cases h
    | cons kc l ih =>
      obtain ⟨k', c'⟩ := kc
      intro h
      unfold blobWrites at h
      split at h
      · cases h
      · next b' hb =>
        rcases List.mem_cons.1 h with h | h
        · cases h
          refine ⟨[], k', c', l, rfl, by simp, rfl, ?_⟩
          cases hv : values.get k' with
          | none => simp only [hv, Except.ok.injEq] at hb; exact .inl ⟨rfl, hb.symm⟩
          | some x => simp only [hv] at hb; exact .inr ⟨x, rfl, hb⟩
        · obtain ⟨pre, k, c, post, rfl, hpre, hkey, hb'⟩ := ih h
          refine ⟨(k', c') :: pre, k, c, post, rfl, ?_, hkey, hb'⟩
          intro p hp x hx
          rcases List.mem_cons.1 hp with rfl | hp
          · exact ⟨b', by simpa [hx] using hb⟩
          · exact hpre p hp x hx
  · rintro ⟨pre, k, c, post, rfl, hpre, rfl, hb⟩
    induction pre with
    | nil =>
      unfold blobWrites
      rcases hb with ⟨hv, rfl⟩ | ⟨x, hv, hx⟩ <;> simp [hv, *]
    | cons p pre ih =>
      obtain ⟨k', c'⟩ := p
      have hrest := ih fun q hq => hpre q (List.mem_cons_of_mem _ hq)
      rw [List.cons_append]
      unfold blobWrites
      cases hv : values.get k' with
      | none => exact List.mem_cons_of_mem _ hrest
      | some x =>
        obtain ⟨b', hb'⟩ := hpre (k', c') (List.mem_cons_self _ _) x hv
        simp only [hb']
        exact List.mem_cons_of_mem _ hrest

/-- A blob the loop of `put` writes is at `(t, ns, k, version)` for an item of
`new_versions`, and is the channel's serialized value or, when it has none, the `"empty"` blob. -/
theorem mem_blobWrites {t ns : String} {values : Dict String V} :
    ∀ {l : List (String × String)} {key : String × String × String × String} {b : Typed},
      (key, b) ∈ (blobWrites serde t ns values l).1 →
        ∃ k c, key = (t, ns, k, c) ∧ (k, c) ∈ l ∧
          ((values.get k = none ∧ b = Typed.empty) ∨
            ∃ x, values.get k = some x ∧ serde.values.dumpsTyped x = .ok b) := fun h => by
  obtain ⟨pre, k, c, post, rfl, -, hkey, hb⟩ := (mem_blobWrites_iff serde).1 h
  exact ⟨k, c, hkey, List.mem_append_right _ (List.mem_cons_self _ _), hb⟩

/-- A blob `put` writes is at `(thread_id, checkpoint_ns, k, new_versions[k])`. -/
theorem mem_putBlobs {key : String × String × String × String} {b : Typed}
    (h : (key, b) ∈ putBlobs serde config checkpoint newVersions) :
    ∃ values k c, config.threadId = some key.1 ∧ config.checkpointNs = some key.2.1 ∧
      checkpoint.channelValues = some values ∧ key.2.2 = (k, c) ∧ newVersions.get k = some c ∧
      ((values.get k = none ∧ b = Typed.empty) ∨
        ∃ x, values.get k = some x ∧ serde.values.dumpsTyped x = .ok b) := by
  unfold putBlobs at h
  rcases ht : config.threadId with _ | t <;> rcases hn : config.checkpointNs with _ | ns <;>
    rcases hv : checkpoint.channelValues with _ | values <;> simp only [ht, hn, hv] at h <;>
    try cases h
  obtain ⟨k, c, rfl, hm, hb⟩ := mem_blobWrites serde h
  exact ⟨values, k, c, rfl, rfl, rfl, rfl, Dict.mem_entries.1 hm, hb⟩

/-- What `put` records: the checkpoint without channel values and the metadata, serialized,
and the config's `checkpoint_id` as parent, under the config's thread and namespace and the
checkpoint's id. -/
theorem putRecord_eq_some {t ns id : String} {saved : Saved}
    (h : putRecord serde getCheckpointMetadata config checkpoint metadata newVersions =
      some (t, ns, id, saved)) :
    config.threadId = some t ∧ config.checkpointNs = some ns ∧ checkpoint.id = some id ∧
      ∃ cb mb, serde.checkpoints.dumpsTyped { checkpoint with channelValues := none } = .ok cb ∧
        serde.metadata.dumpsTyped (getCheckpointMetadata config metadata) = .ok mb ∧
        saved = (cb, mb, config.checkpointId) := by
  unfold putRecord at h
  rcases ht : config.threadId with _ | t' <;> rcases hn : config.checkpointNs with _ | ns' <;>
    rcases hv : checkpoint.channelValues with _ | values <;> simp only [ht, hn, hv] at h <;>
    try cases h
  split at h
  · next id' saved' _ he =>
    cases h
    unfold savedEntry at he
    cases hc : serde.checkpoints.dumpsTyped { checkpoint with channelValues := none } <;>
      cases hm : serde.metadata.dumpsTyped (getCheckpointMetadata config metadata) <;>
      rw [hc, hm] at he <;> rcases hi : checkpoint.id with _ | i <;>
      simp [hi, bind, Except.bind, pure, Except.pure] at he
    obtain ⟨rfl, rfl⟩ := he
    exact ⟨rfl, rfl, rfl, _, _, rfl, rfl, rfl⟩
  · cases h

/-- A `put` that records a checkpoint returns its config. -/
theorem put_snd_of_putRecord {t ns id : String} {saved : Saved}
    (h : putRecord serde getCheckpointMetadata config checkpoint metadata newVersions =
      some (t, ns, id, saved)) :
    (put serde getCheckpointMetadata s config checkpoint metadata newVersions).2 =
      .ok ⟨some t, some ns, some id⟩ := by
  unfold putRecord at h
  unfold put
  rcases ht : config.threadId with _ | t' <;> rcases hn : config.checkpointNs with _ | ns' <;>
    rcases hv : checkpoint.channelValues with _ | values <;> simp only [ht, hn, hv] at h ⊢ <;>
    try cases h
  split at h
  · next id' saved' hb he =>
    cases h
    simp only [hb, he]
  · cases h

/-! ### One call -/

variable [DecidableEq V] [PyNone V] (writesIdxMap : WritesIdxMap)

theorem checkpointsAt_exec (op : Op V R) (t ns : String) :
    (exec serde writesIdxMap getCheckpointMetadata s op).checkpointsAt t ns =
      match op with
      | .put config checkpoint metadata newVersions =>
        match putRecord serde getCheckpointMetadata config checkpoint metadata newVersions with
        | some (t', ns', id, saved) => (s.record t' ns' id saved).checkpointsAt t ns
        | none => s.checkpointsAt t ns
      | .deleteThread t' => if t = t' then ∅ else s.checkpointsAt t ns
      | _ => s.checkpointsAt t ns := by
  cases op with
  | getTuple config => exact (getTuple_fst_views serde s config).1 t ns
  | list config filter before limit drawn =>
    simp only [exec]
    split
    · exact (listDrawn_views s config _ drawn).1 t ns
    · rfl
  | put config checkpoint metadata newVersions => exact checkpointsAt_put _ _ _ _ _ _ _ _ _
  | putWrites config writes taskId taskPath =>
    simp only [exec, checkpointsAt, (putWrites_fst serde writesIdxMap taskId taskPath s config writes).1]
  | deleteThread t' => exact checkpointsAt_deleteThread s t' t ns

theorem blobs_exec (op : Op V R) :
    (exec serde writesIdxMap getCheckpointMetadata s op).blobs =
      match op with
      | .put config checkpoint _ newVersions =>
        s.blobs.setMany (putBlobs serde config checkpoint newVersions)
      | .deleteThread t => s.blobs.filter fun key => ¬key.1 = t
      | _ => s.blobs := by
  cases op with
  | getTuple config => exact (getTuple_fst_views serde s config).2.2
  | list config filter before limit drawn =>
    simp only [exec]
    split
    · exact (listDrawn_views s config _ drawn).2.2
    · rfl
  | put config checkpoint metadata newVersions => exact put_blobs _ _ _ _ _ _ _
  | putWrites config writes taskId taskPath =>
    exact (putWrites_fst serde writesIdxMap taskId taskPath s config writes).2
  | deleteThread t => exact blobs_deleteThread s t

end InMemorySaver

end CheckpointSaver
