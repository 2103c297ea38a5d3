import CheckpointSaver.Observation

/-!
# A `put` that raises

`put` writes its blobs one by one and records the checkpoint last. A `put` that raises may leave
blobs behind: those of `new_versions` written before the `dumps_typed` that failed, or all of them
when the checkpoint or its metadata fails to serialize, in which case it has also read
`self.storage[thread_id][checkpoint_ns]` and left that namespace behind, empty. It records no
checkpoint and writes no pending write.

## The theorem, and what it rests on

`failed_put` collects what follows, as the fields of `FailedPut`:
* the checkpoints and the write buffers are unchanged: a raising `put` records nothing
  (`putRecord_eq_none_of_error`) and never touches the buffers (`put_writes`);
* the blobs differ only at keys `(thread_id, checkpoint_ns, k, new_versions[k])`
  (`mem_putBlobs`);
* so every read finds the same checkpoints, in the same order, and the tuple of a checkpoint
  whose `channel_versions` has no item of `new_versions` is unchanged
  (`checkpointTuple_sameUnless`, `getTuple_sameUnless`, `list_sameUnless`; the namespace left
  behind is empty, and `list` skips it, `flatMap_listPairs_put`);
* a retry that returns leaves the tables as the same `put` leaves them on the tables the failed
  call started from (`put_retry`): its blobs cover every key the failed call wrote
  (`map_fst_putBlobs_subset`), and recording into a namespace that was only read is recording
  (`storage_record_touchNs`).

The serializer is a function here, so a retry that returns where the first call raised is a
call with another serializer; `FailedPut.retry` assumes nothing about how the two relate.
-/

namespace CheckpointSaver

namespace InMemorySaver

variable {V R : Type}

/-- A tuple whose checkpoint has no item of `new_versions` among its `channel_versions`. -/
def Avoids (newVersions : Dict String String) (τ : CheckpointTuple V R) : Prop :=
  ∀ k v, τ.checkpoint.channelVersions.get k = some v → newVersions.get k ≠ some v

/-- Two reads of the same checkpoint, equal when it avoids `new_versions`. -/
def SameUnless (newVersions : Dict String String) (τ' τ : CheckpointTuple V R) : Prop :=
  τ'.config = τ.config ∧ (Avoids newVersions τ → τ' = τ)

theorem forall₂_flatMap {α β γ : Type} {r : β → γ → Prop} {f : α → List β} {g : α → List γ} :
    ∀ {l : List α}, (∀ a ∈ l, List.Forall₂ r (f a) (g a)) →
      List.Forall₂ r (l.flatMap f) (l.flatMap g)
  | [], _ => List.Forall₂.nil
  | a :: l, h => List.rel_append (h a (List.mem_cons_self a l))
      (forall₂_flatMap fun b hb => h b (List.mem_cons_of_mem a hb))

variable (serde : SerializerProtocol V R)

/-! ### The tables after a raising `put` -/

section Put

variable (getCheckpointMetadata : RunnableConfig → CheckpointMetadata V → CheckpointMetadata V)
  (s : InMemorySaver) (config : RunnableConfig) (checkpoint : Checkpoint V R)
  (metadata : CheckpointMetadata V) (newVersions : Dict String String)

theorem putRecord_eq_none_of_error {e : String}
    (h : (put serde getCheckpointMetadata s config checkpoint metadata newVersions).2 = .error e) :
    putRecord serde getCheckpointMetadata config checkpoint metadata newVersions = none := by
  rcases hr : putRecord serde getCheckpointMetadata config checkpoint metadata newVersions with
    _ | ⟨t, ns, id, saved⟩
  · rfl
  · rw [put_snd_of_putRecord serde getCheckpointMetadata s config checkpoint metadata newVersions
      hr] at h
    cases h

theorem put_snd_of_putRecord_none
    (h : putRecord serde getCheckpointMetadata config checkpoint metadata newVersions = none) :
    ∃ e, (put serde getCheckpointMetadata s config checkpoint metadata newVersions).2 = .error e := by
  unfold putRecord at h
  unfold put
  rcases ht : config.threadId with _ | t <;> rcases hn : config.checkpointNs with _ | ns <;>
    rcases hv : checkpoint.channelValues with _ | values <;> simp only [ht, hn, hv] at h ⊢ <;>
    try exact ⟨_, rfl⟩
  split
  · exact ⟨_, rfl⟩
  · next hb =>
    split
    · exact ⟨_, rfl⟩
    · next he => simp [hb, he] at h

theorem putTarget_of_putRecord {t ns id : String} {saved : Saved}
    (h : putRecord serde getCheckpointMetadata config checkpoint metadata newVersions =
      some (t, ns, id, saved)) :
    putTarget serde config checkpoint newVersions = some (t, ns) := by
  unfold putRecord at h
  unfold putTarget
  rcases ht : config.threadId with _ | t' <;> rcases hn : config.checkpointNs with _ | ns' <;>
    rcases hv : checkpoint.channelValues with _ | values <;> simp only [ht, hn, hv] at h ⊢ <;>
    try cases h
  split at h
  · next hb _ => cases h; simp only [hb]
  · cases h

/-- What a `put` leaves in `storage`: the recorded checkpoint, or, when it raises after its blob
loop, the namespace it read. -/
theorem storage_put :
    (put serde getCheckpointMetadata s config checkpoint metadata newVersions).1.storage =
      match putRecord serde getCheckpointMetadata config checkpoint metadata newVersions with
      | some (t, ns, id, saved) => (s.record t ns id saved).storage
      | none =>
        match putTarget serde config checkpoint newVersions with
        | some (t, ns) => (s.touchNs t ns).storage
        | none => s.storage := by
  unfold put putRecord putTarget
  rcases config.threadId with _ | t <;> rcases config.checkpointNs with _ | ns <;>
    rcases checkpoint.channelValues with _ | values <;> try rfl
  dsimp only
  split
  · next h => simp only [h]
  · next h =>
    simp only [h]
    split <;> next h' => simp only [h']; rfl

/-- A `put` that returns has recorded a checkpoint, and returns its config. -/
theorem putRecord_of_ok {c : RunnableConfig}
    (h : (put serde getCheckpointMetadata s config checkpoint metadata newVersions).2 = .ok c) :
    ∃ t ns id saved, putRecord serde getCheckpointMetadata config checkpoint metadata newVersions =
      some (t, ns, id, saved) ∧ c = ⟨some t, some ns, some id⟩ := by
  rcases hr : putRecord serde getCheckpointMetadata config checkpoint metadata newVersions with
    _ | ⟨t, ns, id, saved⟩
  · obtain ⟨e, he⟩ := put_snd_of_putRecord_none serde getCheckpointMetadata s config checkpoint
      metadata newVersions hr
    rw [he] at h
    cases h
  · rw [put_snd_of_putRecord serde getCheckpointMetadata s config checkpoint metadata newVersions
      hr] at h
    exact ⟨t, ns, id, saved, rfl, (Except.ok.inj h).symm⟩

/-- A `put`, returning or raising, changes blobs only at `(thread_id, checkpoint_ns, k,
new_versions[k])`. -/
theorem blobs_put_ne {key : String × String × String × String}
    (h : (put serde getCheckpointMetadata s config checkpoint metadata newVersions).1.blobs.get key ≠
      s.blobs.get key) :
    ∃ t ns k v, config.threadId = some t ∧ config.checkpointNs = some ns ∧
      newVersions.get k = some v ∧ key = (t, ns, k, v) := by
  rw [put_blobs] at h
  by_contra hno
  refine h (Dict.get_setMany_of_forall_ne fun ⟨key', b⟩ hmem hkey => hno ?_)
  obtain ⟨_, k, v, h₁, h₂, -, hkv, hnv, -⟩ := mem_putBlobs serde config checkpoint newVersions hmem
  dsimp only at hkey
  subst hkey
  exact ⟨_, _, k, v, h₁, h₂, hnv, by rw [← hkv]⟩

/-- The namespace a `put` leaves behind is empty unless it had checkpoints, so `list` visits the
groups with checkpoints as before. -/
theorem flatMap_listPairs_put [DecidableEq V] [PyNone V] (listConfig : Option RunnableConfig)
    {β : Type} {G : String × String → List β}
    (hG : ∀ t ns, (s.checkpointsAt t ns).entries = [] → G (t, ns) = []) :
    (listPairs (put serde getCheckpointMetadata s config checkpoint metadata newVersions).1
      listConfig).flatMap G = (listPairs s listConfig).flatMap G := by
  rw [listPairs_put]
  split
  · refine flatMap_listPairs_touchNs s _ _ _ fun hns => hG _ _ ?_
    by_contra he
    exact hns (mem_namespaces_of_entries_ne_nil s he).2
  · rfl

end Put

theorem storage_record_congr {s₁ s₂ : InMemorySaver} (h : s₁.storage = s₂.storage)
    (t ns id : String) (saved : Saved) :
    (s₁.record t ns id saved).storage = (s₂.record t ns id saved).storage := by
  unfold record checkpointsAt
  rw [h]

/-- Recording into a namespace that was only read is recording. -/
theorem storage_record_touchNs (s : InMemorySaver) (t ns id : String) (saved : Saved) :
    ((s.touchNs t ns).record t ns id saved).storage = (s.record t ns id saved).storage := by
  simp only [record, checkpointsAt_touchNs]
  simp only [touchNs, Dict.getD_set_self, Dict.setdefault_set, Dict.set_set]

/-- Recording a checkpoint of a `put`'s namespace after the `put` raised is recording it on the
tables before. -/
theorem storage_record_put_of_error
    (getCheckpointMetadata : RunnableConfig → CheckpointMetadata V → CheckpointMetadata V)
    (s : InMemorySaver) (config : RunnableConfig) (checkpoint : Checkpoint V R)
    (metadata : CheckpointMetadata V) (newVersions : Dict String String) {e : String}
    (hfail : (put serde getCheckpointMetadata s config checkpoint metadata newVersions).2 = .error e)
    {t ns : String} (ht : config.threadId = some t) (hns : config.checkpointNs = some ns)
    (id : String) (saved : Saved) :
    ((put serde getCheckpointMetadata s config checkpoint metadata newVersions).1.record t ns id
      saved).storage = (s.record t ns id saved).storage := by
  have hst := storage_put serde getCheckpointMetadata s config checkpoint metadata newVersions
  rw [putRecord_eq_none_of_error serde getCheckpointMetadata s config checkpoint metadata
    newVersions hfail] at hst
  rcases htg : putTarget serde config checkpoint newVersions with _ | ⟨t₁, ns₁⟩
  · rw [htg] at hst
    exact storage_record_congr hst _ _ _ _
  · rw [htg] at hst
    obtain ⟨h₁, h₂⟩ := putTarget_eq_some serde htg
    cases ht.symm.trans h₁
    cases hns.symm.trans h₂
    rw [storage_record_congr hst, storage_record_touchNs]

/-- The blobs of `put`'s loop are at the addresses of `new_versions`' items, in order, up to
the item that failed; all of them when none did. -/
theorem map_fst_blobWrites (t ns : String) (values : Dict String V) :
    ∀ l : List (String × String),
      ((blobWrites serde t ns values l).1.map Prod.fst) <+: l.map (fun kv => (t, ns, kv.1, kv.2)) ∧
        ((blobWrites serde t ns values l).2 = .ok () →
          (blobWrites serde t ns values l).1.map Prod.fst = l.map (fun kv => (t, ns, kv.1, kv.2)))
  | [] => ⟨List.prefix_refl _, fun _ => rfl⟩
  | (k, v) :: l => by
    unfold blobWrites
    split
    · exact ⟨List.nil_prefix, fun h => by cases h⟩
    · obtain ⟨hpre, hok⟩ := map_fst_blobWrites t ns values l
      exact ⟨(List.prefix_cons_inj _).2 hpre, fun h => by
        simp only [List.map_cons, List.cons.injEq, true_and]
        exact hok h⟩

/-- A `put` whose blob loop runs through writes at least every address another `put` of the
same arguments writes. -/
theorem map_fst_putBlobs_subset (serde' : SerializerProtocol V R) {config : RunnableConfig}
    {checkpoint : Checkpoint V R} {newVersions : Dict String String}
    (h : putTarget serde' config checkpoint newVersions ≠ none) :
    (putBlobs serde config checkpoint newVersions).map Prod.fst ⊆
      (putBlobs serde' config checkpoint newVersions).map Prod.fst := by
  unfold putTarget at h
  unfold putBlobs
  rcases ht : config.threadId with _ | t <;> rcases hn : config.checkpointNs with _ | ns <;>
    rcases hv : checkpoint.channelValues with _ | values <;> simp only [ht, hn, hv] at h ⊢ <;>
    try exact absurd rfl h
  split at h
  · next hok =>
    rw [(map_fst_blobWrites serde' t ns values _).2 hok]
    exact (map_fst_blobWrites serde t ns values _).1.subset
  · exact absurd rfl h

/-! ### What the reads see -/

section Reads

variable (newVersions : Dict String String) {s s' : InMemorySaver}
  (hw : ∀ key, s'.writesAt key = s.writesAt key)
  (hb : ∀ key, s'.blobs.get key ≠ s.blobs.get key → ∃ k v, newVersions.get k = some v ∧ key.2.2 = (k, v))

include hw hb in
/-- Tables that differ only in blobs at versions of `new_versions` build the same tuple of a
checkpoint that avoids them. -/
theorem checkpointTuple_sameUnless (config : RunnableConfig) (t ns id : String) (checkpoint : Typed)
    (metadata : CheckpointMetadata V) (parent : Option String) :
    SameUnless newVersions (checkpointTuple serde s' config t ns id checkpoint metadata parent :
      CheckpointTuple V R) (checkpointTuple serde s config t ns id checkpoint metadata parent) := by
  refine ⟨rfl, fun havoid => ?_⟩
  have hload : (loadBlobs serde s' t ns (serde.checkpoints.loadsTyped checkpoint).channelVersions :
      Dict String V) = loadBlobs serde s t ns (serde.checkpoints.loadsTyped checkpoint).channelVersions := by
    unfold loadBlobs
    refine List.foldl_ext _ _ _ fun acc kv hkv => ?_
    have hget : s'.blobs.get (t, ns, kv.1, kv.2) = s.blobs.get (t, ns, kv.1, kv.2) := by
      by_contra hne
      obtain ⟨k, v, hk, hkey⟩ := hb _ hne
      obtain ⟨rfl, rfl⟩ := Prod.mk.inj hkey
      exact havoid kv.1 kv.2 (Dict.mem_entries.1 hkv) hk
    rw [hget]
  simp only [checkpointTuple, hload, hw]

variable (hc : ∀ t ns, s'.checkpointsAt t ns = s.checkpointsAt t ns)

include hw hb hc in
theorem getTuple_sameUnless (config : RunnableConfig) :
    ResultRel (Option.Rel (SameUnless newVersions)) (getTuple serde s' config).2
      ((getTuple serde s config).2 : Except String (Option (CheckpointTuple V R))) := by
  rcases ht : config.threadId with _ | t
  · simp only [getTuple, ht, ResultRel]
  rcases hid : truthy (getCheckpointId config) with _ | id
  · rw [getTuple_snd_of_latest serde s' ht hid, getTuple_snd_of_latest serde s ht hid, hc]
    show Option.Rel _ _ _
    rcases (s.checkpointsAt t (config.checkpointNs.getD "")).keys.max? with _ | id
    · exact Option.Rel.none
    dsimp only [Option.bind]
    rcases (s.checkpointsAt t (config.checkpointNs.getD "")).get id with _ | e
    · exact Option.Rel.none
    exact Option.Rel.some (checkpointTuple_sameUnless serde newVersions hw hb _ _ _ _ _ _ _)
  · rw [getTuple_snd_of_id serde s' ht hid, getTuple_snd_of_id serde s ht hid, hc]
    show Option.Rel _ _ _
    rcases (s.checkpointsAt t (config.checkpointNs.getD "")).get id with _ | e
    · exact Option.Rel.none
    exact Option.Rel.some (checkpointTuple_sameUnless serde newVersions hw hb _ _ _ _ _ _ _)

include hw hb hc in
theorem listGroup_sameUnless [DecidableEq V] [PyNone V] (configCheckpointId : Option String)
    (filter : Option (CheckpointMetadata V)) (before : Option RunnableConfig) (t ns : String) :
    List.Forall₂ (SameUnless newVersions)
      (listGroup serde configCheckpointId filter before s' t ns : List (CheckpointTuple V R))
      (listGroup serde configCheckpointId filter before s t ns) := by
  simp only [listGroup, hc, List.forall₂_map_left_iff, List.forall₂_map_right_iff,
    List.forall₂_same]
  exact fun e _ => checkpointTuple_sameUnless serde newVersions hw hb _ _ _ _ _ _ _

include hw hb hc in
/-- Tables that differ only in blobs at versions of `new_versions`, and in which `list` visits the
groups with checkpoints in the same order, give `list` results that agree item by item. -/
theorem list_sameUnless [DecidableEq V] [PyNone V]
    (hpairs : ∀ c (G : String × String → List (CheckpointTuple V R)),
      (∀ t ns, (s.checkpointsAt t ns).entries = [] → G (t, ns) = []) →
        (listPairs s' c).flatMap G = (listPairs s c).flatMap G)
    (c : Option RunnableConfig) (filter : Option (CheckpointMetadata V))
    (before : Option RunnableConfig) (limit : Option Int) :
    ResultRel (List.Forall₂ (SameUnless newVersions)) (list serde s' c filter before limit)
      (list serde s c filter before limit) := by
  by_cases hcfg : (c.all fun c => c.threadId.isSome) = true
  · rw [list_eq_ok serde s' _ _ _ _ hcfg, list_eq_ok serde s _ _ _ _ hcfg]
    have hgroups : List.Forall₂ (SameUnless newVersions) (listGroups serde s' c filter before)
        (listGroups serde s c filter before) := by
      rw [listGroups_eq_flatMap_listPairs, listGroups_eq_flatMap_listPairs, hpairs c _ fun t ns he => by
        simp only [listGroup, hc, he, sortDesc, List.mergeSort_nil, List.filter_nil, List.map_nil]]
      exact forall₂_flatMap fun p _ => listGroup_sameUnless serde newVersions hw hb hc _ _ _ _ _
    cases limit with
    | none => exact hgroups
    | some n => exact List.forall₂_take _ hgroups
  · rw [list_eq_error serde hcfg, list_eq_error serde hcfg]
    rfl

end Reads

/-- **Retrying a `put`.** After a `put` that raised, the same `put` with any serializer, if it
returns, leaves the tables and returns the config that it leaves and returns on the tables the
failed call started from. -/
theorem put_retry
    (getCheckpointMetadata : RunnableConfig → CheckpointMetadata V → CheckpointMetadata V)
    (s : InMemorySaver) (config : RunnableConfig) (checkpoint : Checkpoint V R)
    (metadata : CheckpointMetadata V) (newVersions : Dict String String) {e : String}
    (hfail : (put serde getCheckpointMetadata s config checkpoint metadata newVersions).2 = .error e)
    (serde' : SerializerProtocol V R) {c : RunnableConfig}
    (hok : (put serde' getCheckpointMetadata
        (put serde getCheckpointMetadata s config checkpoint metadata newVersions).1
        config checkpoint metadata newVersions).2 = .ok c) :
    (put serde' getCheckpointMetadata
        (put serde getCheckpointMetadata s config checkpoint metadata newVersions).1
        config checkpoint metadata newVersions).1.storage =
      (put serde' getCheckpointMetadata s config checkpoint metadata newVersions).1.storage ∧
    (put serde' getCheckpointMetadata
        (put serde getCheckpointMetadata s config checkpoint metadata newVersions).1
        config checkpoint metadata newVersions).1.writes =
      (put serde' getCheckpointMetadata s config checkpoint metadata newVersions).1.writes ∧
    (∀ key, (put serde' getCheckpointMetadata
        (put serde getCheckpointMetadata s config checkpoint metadata newVersions).1
        config checkpoint metadata newVersions).1.blobs.get key =
      (put serde' getCheckpointMetadata s config checkpoint metadata newVersions).1.blobs.get key) ∧
    (put serde' getCheckpointMetadata s config checkpoint metadata newVersions).2 = .ok c := by
  set s' := (put serde getCheckpointMetadata s config checkpoint metadata newVersions).1
  obtain ⟨t, ns, id, saved, hrec', rfl⟩ := putRecord_of_ok serde' getCheckpointMetadata s' config
    checkpoint metadata newVersions hok
  obtain ⟨ht, hns, -⟩ := putRecord_eq_some serde' getCheckpointMetadata config checkpoint metadata
    newVersions hrec'
  refine ⟨?_, ?_, fun key => ?_, put_snd_of_putRecord serde' getCheckpointMetadata s config
    checkpoint metadata newVersions hrec'⟩
  · rw [storage_put serde' getCheckpointMetadata s', storage_put serde' getCheckpointMetadata s,
      hrec']
    exact storage_record_put_of_error serde getCheckpointMetadata s config checkpoint metadata
      newVersions hfail ht hns id saved
  · rw [put_writes serde' getCheckpointMetadata s', put_writes serde' getCheckpointMetadata s]
    exact put_writes _ _ _ _ _ _ _
  · rw [put_blobs serde' getCheckpointMetadata s', put_blobs serde' getCheckpointMetadata s,
      put_blobs serde getCheckpointMetadata s]
    refine Dict.get_setMany_setMany_of_subset (map_fst_putBlobs_subset serde serde' ?_) key
    rw [putTarget_of_putRecord serde' getCheckpointMetadata config checkpoint metadata newVersions
      hrec']
    exact Option.some_ne_none _

/-- What a `put` that raises leaves: the same checkpoints and write buffers, blobs changed only
at versions of `new_versions`, reads of each checkpoint unchanged unless its channel versions
meet `new_versions`, and a retry that returns leaves what the same `put` leaves on the tables
the failed call started from. -/
structure FailedPut [DecidableEq V] [PyNone V]
    (getCheckpointMetadata : RunnableConfig → CheckpointMetadata V → CheckpointMetadata V)
    (s : InMemorySaver) (config : RunnableConfig) (checkpoint : Checkpoint V R)
    (metadata : CheckpointMetadata V) (newVersions : Dict String String) : Prop where
  /-- The checkpoints of every namespace. -/
  checkpoints : ∀ t ns,
    (put serde getCheckpointMetadata s config checkpoint metadata newVersions).1.checkpointsAt t ns =
      s.checkpointsAt t ns
  /-- The write buffers. -/
  writes : (put serde getCheckpointMetadata s config checkpoint metadata newVersions).1.writes =
    s.writes
  /-- The blobs, but at `(thread_id, checkpoint_ns, k, new_versions[k])`. -/
  blobs : ∀ key,
    (put serde getCheckpointMetadata s config checkpoint metadata newVersions).1.blobs.get key ≠
        s.blobs.get key →
      ∃ t ns k v, config.threadId = some t ∧ config.checkpointNs = some ns ∧
        newVersions.get k = some v ∧ key = (t, ns, k, v)
  /-- `get_tuple` finds the same checkpoint, read the same unless it meets `new_versions`. -/
  getTuple : ∀ c,
    ResultRel (Option.Rel (SameUnless newVersions))
      (getTuple serde (put serde getCheckpointMetadata s config checkpoint metadata newVersions).1
        c).2 (getTuple serde s c).2
  /-- `list` yields the same checkpoints in the same order, each read the same unless it meets
  `new_versions`. -/
  list : ∀ c filter before limit,
    ResultRel (List.Forall₂ (SameUnless newVersions))
      (list serde (put serde getCheckpointMetadata s config checkpoint metadata newVersions).1
        c filter before limit) (list serde s c filter before limit)
  /-- A retry that returns leaves the tables the same `put` leaves on the tables the failed call
  started from, and returns the same config. -/
  retry : ∀ (serde' : SerializerProtocol V R) (c : RunnableConfig),
    (put serde' getCheckpointMetadata
        (put serde getCheckpointMetadata s config checkpoint metadata newVersions).1
        config checkpoint metadata newVersions).2 = .ok c →
      (put serde' getCheckpointMetadata
          (put serde getCheckpointMetadata s config checkpoint metadata newVersions).1
          config checkpoint metadata newVersions).1.storage =
        (put serde' getCheckpointMetadata s config checkpoint metadata newVersions).1.storage ∧
      (put serde' getCheckpointMetadata
          (put serde getCheckpointMetadata s config checkpoint metadata newVersions).1
          config checkpoint metadata newVersions).1.writes =
        (put serde' getCheckpointMetadata s config checkpoint metadata newVersions).1.writes ∧
      (∀ key, (put serde' getCheckpointMetadata
          (put serde getCheckpointMetadata s config checkpoint metadata newVersions).1
          config checkpoint metadata newVersions).1.blobs.get key =
        (put serde' getCheckpointMetadata s config checkpoint metadata newVersions).1.blobs.get key) ∧
      (put serde' getCheckpointMetadata s config checkpoint metadata newVersions).2 = .ok c

/-- **A `put` that raises.** It leaves the checkpoints and the write buffers as they were and
changes blobs only at `(thread_id, checkpoint_ns, k, new_versions[k])`; every read finds the same
checkpoints, and reads the same tuple of each checkpoint whose channel versions meet no item of
`new_versions`; and a retry that returns leaves the tables as the same `put` would have left
them without the failed call. -/
theorem failed_put [DecidableEq V] [PyNone V]
    (getCheckpointMetadata : RunnableConfig → CheckpointMetadata V → CheckpointMetadata V)
    (s : InMemorySaver) (config : RunnableConfig) (checkpoint : Checkpoint V R)
    (metadata : CheckpointMetadata V) (newVersions : Dict String String) {e : String}
    (hfail : (put serde getCheckpointMetadata s config checkpoint metadata newVersions).2 = .error e) :
    FailedPut serde getCheckpointMetadata s config checkpoint metadata newVersions := by
  have hrec := putRecord_eq_none_of_error serde getCheckpointMetadata s config checkpoint metadata
    newVersions hfail
  have hc : ∀ t ns, (put serde getCheckpointMetadata s config checkpoint metadata
      newVersions).1.checkpointsAt t ns = s.checkpointsAt t ns := fun t ns => by
    rw [checkpointsAt_put, hrec]
  have hwrites := put_writes serde getCheckpointMetadata s config checkpoint metadata newVersions
  have hw : ∀ key, (put serde getCheckpointMetadata s config checkpoint metadata
      newVersions).1.writesAt key = s.writesAt key := fun key => by
    simp only [writesAt, hwrites]
  have hb : ∀ key, (put serde getCheckpointMetadata s config checkpoint metadata
      newVersions).1.blobs.get key ≠ s.blobs.get key →
        ∃ k v, newVersions.get k = some v ∧ key.2.2 = (k, v) := fun key hne => by
    obtain ⟨t, ns, k, v, -, -, hnv, rfl⟩ := blobs_put_ne serde getCheckpointMetadata s config
      checkpoint metadata newVersions hne
    exact ⟨k, v, hnv, rfl⟩
  exact ⟨hc, hwrites, fun _ => blobs_put_ne serde getCheckpointMetadata s config checkpoint metadata
    newVersions, getTuple_sameUnless serde newVersions hw hb hc,
    list_sameUnless serde newVersions hw hb hc fun c _ hG =>
      flatMap_listPairs_put serde getCheckpointMetadata s config checkpoint metadata newVersions c hG,
    fun serde' _ hok => put_retry serde getCheckpointMetadata s config checkpoint metadata
      newVersions hfail serde' hok⟩

/-- A serializer whose `dumps_typed` fails on metadata. -/
def metadataFailingSerde : SerializerProtocol Unit Unit :=
  { unitSerde with metadata := ⟨fun _ => .error "TypeError", fun _ => ∅⟩ }

theorem failed_put_metadata :
    (put metadataFailingSerde (fun _ m => m) init ⟨some "t", some "", none⟩ unitCheckpoint ∅
        ((∅ : Dict String String).set "x" "1.0")).2 = .error "TypeError" ∧
    FailedPut metadataFailingSerde (fun _ m => m) init ⟨some "t", some "", none⟩ unitCheckpoint ∅
      ((∅ : Dict String String).set "x" "1.0") :=
  ⟨rfl, failed_put metadataFailingSerde (fun _ m => m) init _ unitCheckpoint ∅ _ rfl⟩

end InMemorySaver

end CheckpointSaver
