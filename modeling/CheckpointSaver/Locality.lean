import CheckpointSaver.PendingWrites
import CheckpointSaver.Listing

/-!
# What the reads depend on

Everything a read shows of a namespace `(t, ns)` comes from three parts of the tables: the
namespace's checkpoints, its blobs, keyed `(t, ns, channel, version)`, and the write buffers of
its checkpoints, keyed `(t, ns, id)`. Two states that agree on them (`SameNs`) build the same
tuples for the namespace, so `get_tuple` on a config of the namespace and `list`'s group of the
namespace agree on them (`getTuple_snd_congr`, `listGroup_congr`).

Every call keeps that agreement (`SameNs.exec`): what a call does to a namespace depends only
on the call and on the namespace itself. `put` reads nothing of the saver; `put_writes` reads
the buffer it writes, through the snapshot that `PendingWrites` shows is the buffer's content;
reads only create empty containers; `delete_thread` empties or keeps. So agreement on a
namespace survives any run (`SameNs.run`).

`list` reads one more thing: the order of threads and namespaces in `storage`, empty
namespaces included (`namespaces`). What a call does to a thread's namespace list depends only
on the call and on that list, so two states agreeing on a thread's namespaces and on each of its
namespaces (`SameThread`) still agree after any run (`SameThread.run`), and `list` on a config
of the thread gives them the same result (`list_congr_thread`).
-/

namespace CheckpointSaver

namespace InMemorySaver

/-- Two states agree on namespace `(t, ns)`: its checkpoints, its blobs and the write buffers of
its checkpoints. -/
structure SameNs (t ns : String) (s s' : InMemorySaver) : Prop where
  /-- The namespace's checkpoints. -/
  checkpoints : s.checkpointsAt t ns = s'.checkpointsAt t ns
  /-- The blobs `(t, ns, channel, version)`. -/
  blobs : ∀ k v, s.blobs.get (t, ns, k, v) = s'.blobs.get (t, ns, k, v)
  /-- The write buffers `(t, ns, id)`. -/
  writes : ∀ id, s.writesAt (t, ns, id) = s'.writesAt (t, ns, id)

theorem SameNs.refl (t ns : String) (s : InMemorySaver) : SameNs t ns s s :=
  ⟨rfl, fun _ _ => rfl, fun _ => rfl⟩

theorem SameNs.symm {t ns : String} {s s' : InMemorySaver} (h : SameNs t ns s s') :
    SameNs t ns s' s :=
  ⟨h.checkpoints.symm, fun k v => (h.blobs k v).symm, fun id => (h.writes id).symm⟩

theorem SameNs.trans {t ns : String} {s s' s'' : InMemorySaver} (h : SameNs t ns s s')
    (h' : SameNs t ns s' s'') : SameNs t ns s s'' :=
  ⟨h.checkpoints.trans h'.checkpoints, fun k v => (h.blobs k v).trans (h'.blobs k v),
    fun id => (h.writes id).trans (h'.writes id)⟩

/-! ### The reads agree -/

variable {V R : Type} (serde : SerializerProtocol V R)

theorem loadBlobs_congr {s s' : InMemorySaver} {t ns : String}
    (h : ∀ k v, s.blobs.get (t, ns, k, v) = s'.blobs.get (t, ns, k, v))
    (versions : Dict String String) :
    (loadBlobs serde s t ns versions : Dict String V) = loadBlobs serde s' t ns versions := by
  unfold loadBlobs
  congr 1
  funext acc kv
  rw [h]

theorem checkpointTuple_congr_ns {s s' : InMemorySaver} {t ns : String} (h : SameNs t ns s s')
    (config : RunnableConfig) (id : String) (checkpoint : Typed) (metadata : CheckpointMetadata V)
    (parent : Option String) :
    (checkpointTuple serde s config t ns id checkpoint metadata parent : CheckpointTuple V R) =
      checkpointTuple serde s' config t ns id checkpoint metadata parent := by
  simp only [checkpointTuple, loadBlobs_congr serde h.blobs, h.writes]

/-- `get_tuple` on a config of a namespace reads only the namespace. -/
theorem getTuple_snd_congr {s s' : InMemorySaver} {config : RunnableConfig} {t : String}
    (ht : config.threadId = some t) (h : SameNs t (config.checkpointNs.getD "") s s') :
    (getTuple serde s config).2 = ((getTuple serde s' config).2 :
      Except String (Option (CheckpointTuple V R))) := by
  rcases hid : truthy (getCheckpointId config) with _ | id
  · rw [getTuple_snd_of_latest serde s ht hid, getTuple_snd_of_latest serde s' ht hid,
      h.checkpoints]
    simp only [checkpointTuple_congr_ns serde h]
  · rw [getTuple_snd_of_id serde s ht hid, getTuple_snd_of_id serde s' ht hid, h.checkpoints]
    simp only [checkpointTuple_congr_ns serde h]

/-- `list`'s group of a namespace reads only the namespace. -/
theorem listGroup_congr [DecidableEq V] [PyNone V] {s s' : InMemorySaver} {t ns : String}
    (h : SameNs t ns s s') (configCheckpointId : Option String)
    (filter : Option (CheckpointMetadata V)) (before : Option RunnableConfig) :
    (listGroup serde configCheckpointId filter before s t ns : List (CheckpointTuple V R)) =
      listGroup serde configCheckpointId filter before s' t ns := by
  simp only [listGroup, h.checkpoints]
  congr 1
  funext e
  exact checkpointTuple_congr_ns serde h _ _ _ _ _

/-! ### Every call keeps the agreement -/

section Exec

variable [DecidableEq V] [PyNone V] (writesIdxMap : WritesIdxMap)
  (getCheckpointMetadata : RunnableConfig → CheckpointMetadata V → CheckpointMetadata V)

theorem writesAt_exec_congr {s s' : InMemorySaver} {key : String × String × String}
    (h : s.writesAt key = s'.writesAt key) (op : Op V R) :
    (exec serde writesIdxMap getCheckpointMetadata s op).writesAt key =
      (exec serde writesIdxMap getCheckpointMetadata s' op).writesAt key := by
  cases op with
  | getTuple config =>
    show (getTuple serde s config).1.writesAt key = (getTuple serde s' config).1.writesAt key
    rw [(getTuple_fst_views serde s config).2.1, (getTuple_fst_views serde s' config).2.1, h]
  | list config filter before limit drawn =>
    simp only [exec]
    split <;> split <;>
      simp only [(listDrawn_views _ config _ drawn).2.1, h]
  | put config checkpoint metadata newVersions =>
    simp only [exec, writesAt, put_writes]
    exact h
  | putWrites config writes taskId taskPath =>
    simp only [exec, writesAt_putWrites, h]
  | deleteThread t =>
    simp only [exec, writesAt_deleteThread, h]

/-- **A call keeps agreement on a namespace.** What a call does to a namespace depends only on
the call and on the namespace. -/
theorem SameNs.exec {s s' : InMemorySaver} {t ns : String} (h : SameNs t ns s s') (op : Op V R) :
    SameNs t ns (exec serde writesIdxMap getCheckpointMetadata s op)
      (exec serde writesIdxMap getCheckpointMetadata s' op) := by
  refine ⟨?_, fun k v => ?_, fun id => writesAt_exec_congr serde writesIdxMap
    getCheckpointMetadata (h.writes id) op⟩
  · rw [checkpointsAt_exec, checkpointsAt_exec]
    cases op with
    | put config checkpoint metadata newVersions =>
      dsimp only
      split
      · rw [checkpointsAt_record, checkpointsAt_record]
        split_ifs with ht
        · obtain ⟨rfl, rfl⟩ := ht
          rw [h.checkpoints]
        · exact h.checkpoints
      · exact h.checkpoints
    | deleteThread t' =>
      dsimp only
      split_ifs
      · rfl
      · exact h.checkpoints
    | _ => exact h.checkpoints
  · rw [blobs_exec, blobs_exec]
    cases op with
    | put config checkpoint metadata newVersions =>
      simp only [Dict.get_setMany, h.blobs k v]
    | deleteThread t' =>
      simp only [Dict.get_filter, h.blobs k v]
    | _ => exact h.blobs k v

/-- Agreement on a namespace survives any run. -/
theorem SameNs.run {s s' : InMemorySaver} {t ns : String} (h : SameNs t ns s s')
    (ops : List (Op V R)) :
    SameNs t ns (run serde writesIdxMap getCheckpointMetadata s ops)
      (run serde writesIdxMap getCheckpointMetadata s' ops) := by
  induction ops generalizing s s' with
  | nil => exact h
  | cons op ops ih => exact ih (h.exec serde writesIdxMap getCheckpointMetadata op)

end Exec

/-! ### The order `list` visits -/

/-- The namespaces of thread `t` in the order `list` visits them: the keys of `self.storage[t]`,
the empty namespaces that reads leave behind included. -/
def namespaces (s : InMemorySaver) (t : String) : List String :=
  (s.storage.getD t ∅).keys

section Namespaces

variable (s : InMemorySaver)

theorem namespaces_eq_nil_of_not_mem {t : String} (h : t ∉ s.storage.keys) : namespaces s t = [] := by
  simp [namespaces, Dict.getD, Dict.get_eq_none.2 h]

/-- A namespace with checkpoints is visited. -/
theorem mem_namespaces_of_entries_ne_nil {t ns : String} (h : (s.checkpointsAt t ns).entries ≠ []) :
    t ∈ s.storage.keys ∧ ns ∈ namespaces s t := by
  have hns : ns ∈ namespaces s t := by
    by_contra hns
    exact h (by rw [checkpointsAt, Dict.getD, Dict.get_eq_none.2 hns]; rfl)
  refine ⟨?_, hns⟩
  by_contra ht
  rw [namespaces_eq_nil_of_not_mem s ht] at hns
  cases hns

theorem namespaces_touchNs (t ns t' : String) :
    namespaces (s.touchNs t ns) t' =
      if t' = t then (if ns ∈ namespaces s t then namespaces s t else namespaces s t ++ [ns])
      else namespaces s t' := by
  unfold namespaces touchNs
  by_cases ht : t' = t
  · subst ht
    simp [Dict.getD, Dict.keys_setdefault]
  · simp [Dict.getD, ht]

theorem namespaces_record (t ns id : String) (saved : Saved) (t' : String) :
    namespaces (s.record t ns id saved) t' = namespaces (s.touchNs t ns) t' := by
  unfold namespaces record touchNs
  by_cases ht : t' = t
  · subst ht
    simp [Dict.getD, Dict.keys_setdefault, Dict.keys_set]
  · simp [Dict.getD, ht]

@[simp]
theorem namespaces_touchThread (t t' : String) :
    namespaces (s.touchThread t) t' = namespaces s t' := by
  unfold namespaces touchThread
  by_cases ht : t' = t
  · subst ht
    simp [Dict.getD]
  · simp [Dict.getD, ht]

@[simp]
theorem namespaces_touchWrites (key : String × String × String) (t' : String) :
    namespaces (s.touchWrites key) t' = namespaces s t' :=
  rfl

theorem namespaces_deleteThread (t t' : String) :
    namespaces (s.deleteThread t) t' = if t' = t then [] else namespaces s t' := by
  unfold namespaces deleteThread
  by_cases ht : t' = t <;> simp [Dict.getD, ht]

theorem storage_keys_touchNs (t ns : String) :
    (s.touchNs t ns).storage.keys =
      if t ∈ s.storage.keys then s.storage.keys else s.storage.keys ++ [t] :=
  Dict.keys_set _ _ _

/-- The read `self.storage[t][ns]` changes the order of a thread's namespaces only as a function
of the order before. -/
theorem namespaces_touchNs_congr {s' : InMemorySaver} {t : String} (h : namespaces s t = namespaces s' t)
    (t₁ ns : String) : namespaces (s.touchNs t₁ ns) t = namespaces (s'.touchNs t₁ ns) t := by
  rw [namespaces_touchNs, namespaces_touchNs]
  by_cases ht : t = t₁
  · subst ht
    simp [h]
  · simp [ht, h]

end Namespaces

section Calls

theorem namespaces_getTuple (s : InMemorySaver) (config : RunnableConfig) (t' : String) :
    namespaces (getTuple serde s config).1 t' =
      match config.threadId with
      | some t => namespaces (s.touchNs t (config.checkpointNs.getD "")) t'
      | none => namespaces s t' := by
  unfold getTuple
  rcases config.threadId with _ | t
  · rfl
  · dsimp only
    split
    · split <;> rfl
    · split
      · rfl
      · split <;> rfl

theorem storage_foldl_touchWrites (items : List (CheckpointTuple V R)) (s : InMemorySaver) :
    (items.foldl (fun s τ => s.touchWrites τ.writesKey) s).storage = s.storage := by
  induction items generalizing s with
  | nil => rfl
  | cons τ items ih => exact ih _

@[simp]
theorem namespaces_listDrawn (s : InMemorySaver) (config : Option RunnableConfig)
    (items : List (CheckpointTuple V R)) (n : Nat) (t' : String) :
    namespaces (listDrawn s config items n) t' = namespaces s t' := by
  unfold listDrawn
  split
  · rfl
  · rw [namespaces, storage_foldl_touchWrites]
    split
    · exact namespaces_touchThread s _ t'
    · rfl

variable (getCheckpointMetadata : RunnableConfig → CheckpointMetadata V → CheckpointMetadata V)

/-- The namespace whose entry `put` reads, `self.storage[thread_id][checkpoint_ns]`, when it
gets that far: once its blob loop has run through. -/
def putTarget (config : RunnableConfig) (checkpoint : Checkpoint V R)
    (newVersions : Dict String String) : Option (String × String) :=
  match config.threadId, config.checkpointNs, checkpoint.channelValues with
  | some threadId, some checkpointNs, some values =>
    match (blobWrites serde threadId checkpointNs values newVersions.entries).2 with
    | .ok () => some (threadId, checkpointNs)
    | .error _ => none
  | _, _, _ => none

variable (s : InMemorySaver) (config : RunnableConfig) (checkpoint : Checkpoint V R)
  (metadata : CheckpointMetadata V) (newVersions : Dict String String)

/-- For the order `list` visits, a `put` is the read of its namespace, once its blob loop has
run through, whether it then records the checkpoint or raises. -/
theorem namespaces_put (t' : String) :
    namespaces (put serde getCheckpointMetadata s config checkpoint metadata newVersions).1 t' =
      match putTarget serde config checkpoint newVersions with
      | some (t, ns) => namespaces (s.touchNs t ns) t'
      | none => namespaces s t' := by
  unfold put putTarget
  rcases config.threadId with _ | t <;> rcases config.checkpointNs with _ | ns <;>
    rcases checkpoint.channelValues with _ | values <;> try rfl
  dsimp only
  split
  · next h => simp only [h]; rfl
  · next h =>
    simp only [h]
    split
    · rfl
    · exact namespaces_record _ _ _ _ _ _

theorem storage_keys_put :
    (put serde getCheckpointMetadata s config checkpoint metadata newVersions).1.storage.keys =
      match putTarget serde config checkpoint newVersions with
      | some (t, ns) => (s.touchNs t ns).storage.keys
      | none => s.storage.keys := by
  unfold put putTarget
  rcases config.threadId with _ | t <;> rcases config.checkpointNs with _ | ns <;>
    rcases checkpoint.channelValues with _ | values <;> try rfl
  dsimp only
  split
  · next h => simp only [h]
  · next h =>
    simp only [h]
    split
    · rfl
    · simp only [record, touchNs, Dict.keys_set]

end Calls

/-! ### Agreement on a thread -/

/-- Two states agree on thread `t`: the order of its namespaces, and each namespace. -/
structure SameThread (t : String) (s s' : InMemorySaver) : Prop where
  /-- The thread's namespaces, in order. -/
  order : namespaces s t = namespaces s' t
  /-- Each of its namespaces. -/
  sameNs : ∀ ns, SameNs t ns s s'

section ThreadExec

variable [DecidableEq V] [PyNone V] (writesIdxMap : WritesIdxMap)
  (getCheckpointMetadata : RunnableConfig → CheckpointMetadata V → CheckpointMetadata V)

theorem namespaces_exec_congr {s s' : InMemorySaver} {t : String}
    (h : namespaces s t = namespaces s' t) (op : Op V R) :
    namespaces (exec serde writesIdxMap getCheckpointMetadata s op) t =
      namespaces (exec serde writesIdxMap getCheckpointMetadata s' op) t := by
  cases op with
  | getTuple config =>
    show namespaces (getTuple serde s config).1 t = namespaces (getTuple serde s' config).1 t
    rw [namespaces_getTuple, namespaces_getTuple]
    split
    · exact namespaces_touchNs_congr s h _ _
    · exact h
  | list config filter before limit drawn =>
    simp only [exec]
    split <;> split <;> simpa only [namespaces_listDrawn] using h
  | put config checkpoint metadata newVersions =>
    simp only [exec, namespaces_put]
    split
    · exact namespaces_touchNs_congr s h _ _
    · exact h
  | putWrites config writes taskId taskPath =>
    simpa only [exec, namespaces, (putWrites_fst serde writesIdxMap taskId taskPath _ config
      writes).1] using h
  | deleteThread t' =>
    simp only [exec, namespaces_deleteThread, h]

/-- **A call keeps agreement on a thread.** -/
theorem SameThread.exec {s s' : InMemorySaver} {t : String} (h : SameThread t s s') (op : Op V R) :
    SameThread t (exec serde writesIdxMap getCheckpointMetadata s op)
      (exec serde writesIdxMap getCheckpointMetadata s' op) :=
  ⟨namespaces_exec_congr serde writesIdxMap getCheckpointMetadata h.order op,
    fun ns => (h.sameNs ns).exec serde writesIdxMap getCheckpointMetadata op⟩

/-- Agreement on a thread survives any run. -/
theorem SameThread.run {s s' : InMemorySaver} {t : String} (h : SameThread t s s')
    (ops : List (Op V R)) :
    SameThread t (run serde writesIdxMap getCheckpointMetadata s ops)
      (run serde writesIdxMap getCheckpointMetadata s' ops) := by
  induction ops generalizing s s' with
  | nil => exact h
  | cons op ops ih => exact ih (h.exec serde writesIdxMap getCheckpointMetadata op)

end ThreadExec

/-- A `list` on a config without a thread id raises, whatever the tables. -/
theorem list_eq_error [DecidableEq V] [PyNone V] {config : Option RunnableConfig}
    (hconfig : ¬(config.all fun c => c.threadId.isSome) = true) (s : InMemorySaver)
    (filter : Option (CheckpointMetadata V)) (before : Option RunnableConfig) (limit : Option Int) :
    (list serde s config filter before limit : Except String (List (CheckpointTuple V R))) =
      .error "KeyError: 'thread_id'" := by
  rcases config with _ | c
  · exact absurd rfl hconfig
  · rcases ht : c.threadId with _ | t
    · simp only [list, Option.map_some', ht]
    · simp [ht] at hconfig

/-- `list` on a config of a thread reads only the thread. -/
theorem list_congr_thread [DecidableEq V] [PyNone V] {s s' : InMemorySaver} {t : String}
    (h : SameThread t s s') {config : RunnableConfig} (ht : config.threadId = some t)
    (filter : Option (CheckpointMetadata V)) (before : Option RunnableConfig) (limit : Option Int) :
    (list serde s (some config) filter before limit : Except String (List (CheckpointTuple V R))) =
      list serde s' (some config) filter before limit := by
  have hc : (some config).all (fun c => c.threadId.isSome) = true := by simp [ht]
  rw [list_eq_ok serde s _ filter before limit hc, list_eq_ok serde s' _ filter before limit hc]
  simp only [listGroups, ht, Option.toList_some, List.flatMap_singleton]
  rw [show (s.storage.getD t ∅).keys = (s'.storage.getD t ∅).keys from h.order]
  congr 3
  exact List.flatMap_congr fun ns _ => listGroup_congr serde (h.sameNs ns) _ _ _

/-! ### The groups `list` visits -/

/-- The threads `list` visits: the config's, or every thread of `storage` in order. -/
def listThreadIds (s : InMemorySaver) (config : Option RunnableConfig) : List String :=
  match config with
  | some c => c.threadId.toList
  | none => s.storage.keys

/-- The namespace filter of `list`: the config's `checkpoint_ns`, when it names one. -/
def listSelectsNs (config : Option RunnableConfig) (ns : String) : Bool :=
  (config.bind (·.checkpointNs)).all fun c => ns = c

/-- The `(thread, namespace)` groups `list` visits, in order. -/
def listPairs (s : InMemorySaver) (config : Option RunnableConfig) : List (String × String) :=
  (listThreadIds s config).flatMap fun t =>
    ((namespaces s t).filter (listSelectsNs config)).map (t, ·)

/-- The group of a tuple: its config's thread and namespace. -/
def tupleGroup (τ : CheckpointTuple V R) : Option String × Option String :=
  (τ.config.threadId, τ.config.checkpointNs)

@[simp]
theorem tupleGroup_listTuple (s : InMemorySaver) (t ns : String) (e : String × Saved) :
    tupleGroup (listTuple serde s t ns e : CheckpointTuple V R) = (some t, some ns) :=
  rfl

theorem flatMap_filter_eq_ite {α β : Type} (l : List α) (q : α → Bool) (f : α → List β) :
    (l.filter q).flatMap f = l.flatMap fun a => if q a then f a else [] := by
  induction l with
  | nil => rfl
  | cons a l ih => by_cases h : q a <;> simp [List.filter_cons, h, ih]

theorem flatMap_ite_eq_of_nodup {α β : Type} [DecidableEq α] {l : List α} (hl : l.Nodup) (x : α)
    (f : α → List β) : l.flatMap (fun a => if a = x then f a else []) = if x ∈ l then f x else [] := by
  induction l with
  | nil => rfl
  | cons a l ih =>
    obtain ⟨ha, hl⟩ := List.nodup_cons.1 hl
    by_cases hax : a = x
    · subst hax
      simp [ih hl, ha]
    · simp [hax, ih hl, Ne.symm hax]

theorem listPairs_congr {s s' : InMemorySaver} (hk : s.storage.keys = s'.storage.keys)
    (hn : ∀ t, namespaces s t = namespaces s' t) (config : Option RunnableConfig) :
    listPairs s config = listPairs s' config := by
  unfold listPairs listThreadIds
  cases config <;> simp only [hk, hn]

theorem mem_listPairs {s : InMemorySaver} {config : Option RunnableConfig} {p : String × String} :
    p ∈ listPairs s config ↔
      p.1 ∈ listThreadIds s config ∧ p.2 ∈ namespaces s p.1 ∧ listSelectsNs config p.2 := by
  obtain ⟨t, ns⟩ := p
  simp only [listPairs, List.mem_flatMap, List.mem_map, List.mem_filter, Prod.mk.injEq]
  constructor
  · rintro ⟨t', ht', ns', ⟨hns', hsel⟩, rfl, rfl⟩
    exact ⟨ht', hns', hsel⟩
  · rintro ⟨ht, hns, hsel⟩
    exact ⟨t, ht, ns, ⟨hns, hsel⟩, rfl, rfl⟩

theorem nodup_listPairs (s : InMemorySaver) (config : Option RunnableConfig) :
    (listPairs s config).Nodup := by
  have hthreads : (listThreadIds s config).Nodup := by
    unfold listThreadIds
    rcases config with _ | c
    · exact s.storage.nodup
    · show c.threadId.toList.Nodup
      rcases c.threadId with _ | t
      · exact List.nodup_nil
      · exact List.nodup_singleton t
  refine List.nodup_flatMap.2 ⟨fun t _ => ?_, hthreads.imp fun hne => ?_⟩
  · exact ((s.storage.getD t ∅).nodup.filter _).map fun _ _ h => (Prod.mk.inj h).2
  · intro p h₁ h₂
    simp only [List.mem_map] at h₁ h₂
    obtain ⟨_, -, rfl⟩ := h₁
    obtain ⟨_, -, h⟩ := h₂
    exact hne (Prod.mk.inj h).1.symm

section Groups

variable [DecidableEq V] [PyNone V] (configCheckpointId : Option String)
  (filter : Option (CheckpointMetadata V)) (before : Option RunnableConfig)

theorem listGroups_eq_flatMap_listPairs (s : InMemorySaver) (config : Option RunnableConfig) :
    (listGroups serde s config filter before : List (CheckpointTuple V R)) =
      (listPairs s config).flatMap fun p =>
        listGroup serde (config.bind getCheckpointId) filter before s p.1 p.2 := by
  simp only [listGroups, listPairs, listThreadIds, namespaces, List.flatMap_assoc,
    List.flatMap_map]
  rfl

theorem tupleGroup_of_mem_listGroup {s : InMemorySaver} {t ns : String} {τ : CheckpointTuple V R}
    (h : τ ∈ listGroup serde configCheckpointId filter before s t ns) :
    tupleGroup τ = (some t, some ns) := by
  simp only [listGroup, List.mem_map] at h
  obtain ⟨e, -, rfl⟩ := h
  rfl

/-- A filter on groups keeps a group of `list` whole or drops it. -/
theorem filter_listGroup (p : Option String × Option String → Bool) (s : InMemorySaver)
    (t ns : String) :
    (listGroup serde configCheckpointId filter before s t ns).filter (fun τ => p (tupleGroup τ)) =
      if p (some t, some ns) then listGroup serde configCheckpointId filter before s t ns
      else ([] : List (CheckpointTuple V R)) := by
  split_ifs with hp
  · exact List.filter_eq_self.2 fun τ hτ => by
      rw [tupleGroup_of_mem_listGroup serde _ _ _ hτ]; exact hp
  · exact List.filter_eq_nil_iff.2 fun τ hτ => by
      rw [tupleGroup_of_mem_listGroup serde _ _ _ hτ]; exact hp

/-- The tuples of `list` in the groups a filter keeps are the groups it keeps, in order. -/
theorem filter_listGroups (p : Option String × Option String → Bool) (s : InMemorySaver)
    (config : Option RunnableConfig) :
    (listGroups serde s config filter before).filter (fun τ => p (tupleGroup τ)) =
      ((listPairs s config).filter fun q => p (some q.1, some q.2)).flatMap fun q =>
        (listGroup serde (config.bind getCheckpointId) filter before s q.1 q.2 :
          List (CheckpointTuple V R)) := by
  rw [listGroups_eq_flatMap_listPairs, List.filter_flatMap, flatMap_filter_eq_ite]
  simp only [filter_listGroup]

end Groups

end InMemorySaver

end CheckpointSaver
