import CheckpointSaver.Locality

/-!
# Deleting a thread, and the isolation of scopes

A call is addressed to a scope: `put` and `put_writes` to one namespace `(thread_id,
checkpoint_ns)`, `delete_thread` to a thread. This module shows what a call leaves alone outside
its scope, and that a deleted thread is gone for good.

## The theorems, and what each rests on

* `deleteThread_complete`: `delete_thread` is exactly three filters of the tables
  (`writes_deleteThread`, `blobs_deleteThread`). After it the thread has no namespace, no
  checkpoint, no blob and no write buffer, which is all a fresh saver has of it
  (`sameThread_deleteThread_init`); from there the two agree on the thread after any run
  (`SameThread.run`), and reads of a thread read only the thread (`getTuple_snd_congr`,
  `list_congr_thread`): the thread starts afresh (`deleteThread_resets`). So nothing of the
  deleted thread resurfaces, whatever ids and versions a later run reuses.
* `scopes_isolated`: every key of the three tables carries its thread and namespace, so a call
  leaves every namespace outside its scope alone (`sameNs_put`, `sameNs_putWrites`,
  `sameNs_deleteThread`). What `list` shows of them also depends on the order of the groups, and
  there a call can only add its own namespace (`filter_listPairs_touchNs`) or take out its own
  thread (`filter_listPairs_deleteThread`); a `list` whose config selects no group of the scope
  sees no change at all, at any limit. `Frame` collects what follows for the reads.
  `put_writes` leaves `storage` (`putWrites_fst`), so a limited `list` takes the same number of
  tuples from every group and shows outside the scope what it showed (`list_limit_putWrites`,
  from `filter_take_flatMap`).
* `list_limit_frame_fails`: under a `limit` the groups of the scope of a `put` or a
  `delete_thread` use up part of the budget, so what `list` shows outside the scope can change:
  deleting the first thread lets the second into a listing of one.
-/

namespace CheckpointSaver

namespace InMemorySaver

variable {V R : Type} (serde : SerializerProtocol V R)

/-! ### Outside a scope, one call changes nothing -/

section Calls

variable [DecidableEq V] [PyNone V] (writesIdxMap : WritesIdxMap)
  (getCheckpointMetadata : RunnableConfig → CheckpointMetadata V → CheckpointMetadata V)
  (s : InMemorySaver)

theorem sameNs_put {config : RunnableConfig} {t ns : String} (ht : config.threadId = some t)
    (hns : config.checkpointNs = some ns) (checkpoint : Checkpoint V R)
    (metadata : CheckpointMetadata V) (newVersions : Dict String String) {t' ns' : String}
    (hne : (t', ns') ≠ (t, ns)) :
    SameNs t' ns' (exec serde writesIdxMap getCheckpointMetadata s
      (.put config checkpoint metadata newVersions)) s := by
  refine ⟨?_, fun k v => ?_, fun id => ?_⟩
  · rw [checkpointsAt_exec]
    dsimp only
    split
    · next h =>
      obtain ⟨h₁, h₂, -⟩ := putRecord_eq_some serde getCheckpointMetadata config checkpoint metadata
        newVersions h
      rw [checkpointsAt_record, if_neg]
      rintro ⟨rfl, rfl⟩
      exact hne (by rw [Option.some.inj (ht.symm.trans h₁), Option.some.inj (hns.symm.trans h₂)])
    · rfl
  · rw [blobs_exec]
    refine Dict.get_setMany_of_forall_ne fun ⟨key, b⟩ hkv hkey => hne ?_
    obtain ⟨_, _, _, h₁, h₂, -⟩ := mem_putBlobs serde config checkpoint newVersions hkv
    dsimp only at hkey
    subst hkey
    rw [Option.some.inj (ht.symm.trans h₁), Option.some.inj (hns.symm.trans h₂)]
  · simp only [exec, writesAt, put_writes]

theorem sameNs_putWrites {config : RunnableConfig} {t : String} (ht : config.threadId = some t)
    (writes : List (String × V)) (taskId taskPath : String) {t' ns' : String}
    (hne : (t', ns') ≠ (t, config.checkpointNs.getD "")) :
    SameNs t' ns' (exec serde writesIdxMap getCheckpointMetadata s
      (.putWrites config writes taskId taskPath)) s := by
  refine ⟨checkpointsAt_exec _ _ _ _ _ _ _, fun k v => by rw [blobs_exec], fun id => ?_⟩
  simp only [exec, writesAt_putWrites]
  rw [if_neg]
  intro h
  unfold writesAddress at h
  rw [ht] at h
  rcases hid : config.checkpointId with _ | id₀
  · simp [hid] at h
  · simp only [hid, Option.some.injEq, Prod.mk.injEq] at h
    exact hne (by rw [← h.1, ← h.2.1])

theorem sameNs_deleteThread {t t' : String} (hne : t' ≠ t) (ns' : String) :
    SameNs t' ns' (exec serde writesIdxMap getCheckpointMetadata s (.deleteThread t : Op V R)) s :=
  ⟨by rw [checkpointsAt_exec]; exact if_neg hne,
    fun k v => by rw [blobs_exec]; simp [Dict.get_filter, hne],
    fun id => by simp only [exec, writesAt_deleteThread]; exact if_neg hne⟩

end Calls

/-! ### Outside a scope, the order of the groups -/

theorem storage_deleteThread (s : InMemorySaver) (t : String) :
    (s.deleteThread t).storage = s.storage.erase t :=
  rfl

theorem putTarget_eq_some {config : RunnableConfig} {checkpoint : Checkpoint V R}
    {newVersions : Dict String String} {t ns : String}
    (h : putTarget serde config checkpoint newVersions = some (t, ns)) :
    config.threadId = some t ∧ config.checkpointNs = some ns := by
  unfold putTarget at h
  rcases ht : config.threadId with _ | t' <;> rcases hn : config.checkpointNs with _ | ns' <;>
    rcases hv : checkpoint.channelValues with _ | values <;> simp only [ht, hn, hv] at h <;>
    try cases h
  split at h <;> cases h
  exact ⟨rfl, rfl⟩

/-- For the order `list` visits, a `put` is the read of its namespace, or nothing. -/
theorem listPairs_put (getCheckpointMetadata : RunnableConfig → CheckpointMetadata V → CheckpointMetadata V)
    (s : InMemorySaver) (config : RunnableConfig) (checkpoint : Checkpoint V R)
    (metadata : CheckpointMetadata V) (newVersions : Dict String String)
    (listConfig : Option RunnableConfig) :
    listPairs (put serde getCheckpointMetadata s config checkpoint metadata newVersions).1 listConfig =
      match putTarget serde config checkpoint newVersions with
      | some (t, ns) => listPairs (s.touchNs t ns) listConfig
      | none => listPairs s listConfig := by
  have hk := storage_keys_put serde getCheckpointMetadata s config checkpoint metadata newVersions
  have hn := namespaces_put serde getCheckpointMetadata s config checkpoint metadata newVersions
  split
  · next h => simp only [h] at hk hn; exact listPairs_congr hk hn listConfig
  · next h => simp only [h] at hk hn; exact listPairs_congr hk hn listConfig

variable (s : InMemorySaver) (q : String × String → Bool)

/-- The read `self.storage[t][ns]` adds at most the group `(t, ns)` to the order `list` visits. -/
theorem filter_listPairs_touchNs {t ns : String} (hq : q (t, ns) = false)
    (config : Option RunnableConfig) :
    (listPairs (s.touchNs t ns) config).filter q = (listPairs s config).filter q := by
  unfold listPairs
  rw [List.filter_flatMap, List.filter_flatMap]
  have hthread : ∀ t', (((namespaces (s.touchNs t ns) t').filter (listSelectsNs config)).map
      (t', ·)).filter q = (((namespaces s t').filter (listSelectsNs config)).map (t', ·)).filter q := by
    intro t'
    rw [namespaces_touchNs]
    by_cases ht : t' = t
    · subst ht
      rw [if_pos rfl]
      split_ifs
      · rfl
      · simp [List.filter_append, List.filter_cons, hq]
    · simp only [ht, if_false]
  simp only [hthread]
  cases config with
  | some c => rfl
  | none =>
    simp only [listThreadIds, storage_keys_touchNs]
    split_ifs with hmem
    · rfl
    · simp [List.flatMap_append, namespaces_eq_nil_of_not_mem s hmem]

/-- A read of `self.storage[t][ns]` changes nothing `list` yields: a namespace it adds is
empty. -/
theorem flatMap_listPairs_touchNs {β : Type} (t ns : String)
    (config : Option RunnableConfig) {G : String × String → List β}
    (hG : ns ∉ namespaces s t → G (t, ns) = []) :
    (listPairs (s.touchNs t ns) config).flatMap G = (listPairs s config).flatMap G := by
  by_cases hns : ns ∈ namespaces s t
  · have ht : t ∈ s.storage.keys := by
      by_contra ht
      rw [namespaces_eq_nil_of_not_mem s ht] at hns
      cases hns
    have hpairs : listPairs (s.touchNs t ns) config = listPairs s config :=
      listPairs_congr (by rw [storage_keys_touchNs, if_pos ht]) (fun t' => ?_) config
    · rw [hpairs]
    · rw [namespaces_touchNs]
      split_ifs with h
      · subst h
        rfl
      · rfl
  · have hq : ∀ l : List (String × String),
        l.flatMap G = (l.filter fun p => p ≠ (t, ns)).flatMap G := fun l => by
      rw [flatMap_filter_eq_ite]
      refine List.flatMap_congr fun p _ => ?_
      by_cases hp : p = (t, ns)
      · simp [hp, hG hns]
      · simp [hp]
    rw [hq, hq (listPairs s config), filter_listPairs_touchNs s _ (by simp) config]

/-- Deleting thread `t` takes exactly the groups of `t` out of the order `list` visits. -/
theorem filter_listPairs_deleteThread {t : String} (hq : ∀ ns, q (t, ns) = false)
    (config : Option RunnableConfig) :
    (listPairs (s.deleteThread t) config).filter q = (listPairs s config).filter q := by
  have hnil : ∀ l : List String, (l.map (t, ·)).filter q = [] := fun l =>
    List.filter_eq_nil_iff.2 fun p hp => by
      obtain ⟨ns, -, rfl⟩ := List.mem_map.1 hp
      simp [hq]
  unfold listPairs
  rw [List.filter_flatMap, List.filter_flatMap]
  have hthread : ∀ t', (((namespaces (s.deleteThread t) t').filter (listSelectsNs config)).map
      (t', ·)).filter q = (((namespaces s t').filter (listSelectsNs config)).map (t', ·)).filter q := by
    intro t'
    rw [namespaces_deleteThread]
    split_ifs with ht
    · subst ht
      rw [hnil, hnil]
    · rfl
  simp only [hthread]
  cases config with
  | some c => rfl
  | none =>
    simp only [listThreadIds, storage_deleteThread, Dict.keys_erase, flatMap_filter_eq_ite]
    refine List.flatMap_congr fun t' _ => ?_
    split_ifs with ht
    · rfl
    · rw [show t' = t by simpa using ht, hnil]

/-- The groups of thread `t` that `list(None)` visits are the thread's namespaces, in order. -/
theorem filter_listPairs_thread (t : String) :
    (listPairs s none).filter (fun p => decide (some p.1 = some t)) =
      (namespaces s t).map (t, ·) := by
  unfold listPairs listThreadIds
  rw [List.filter_flatMap]
  have hthread : ∀ t', (((namespaces s t').filter (listSelectsNs none)).map (t', ·)).filter
      (fun p => decide (some p.1 = some t)) =
        if t' = t then (namespaces s t').map (t', ·) else [] := fun t' => by
    split_ifs with h <;> simp [List.filter_map, listSelectsNs, Function.comp_def, h]
  simp only [hthread]
  refine (flatMap_ite_eq_of_nodup s.storage.nodup t fun a => (namespaces s a).map (a, ·)).trans ?_
  split_ifs with h
  · rfl
  · rw [namespaces_eq_nil_of_not_mem s h]
    rfl

/-- What `list(None)` without a limit yields of a thread reads only the thread. -/
theorem list_none_congr_thread [DecidableEq V] [PyNone V] {s s' : InMemorySaver} {t : String}
    (h : SameThread t s s') (filter : Option (CheckpointMetadata V)) (before : Option RunnableConfig) :
    (list serde s none filter before none).map (List.filter fun τ => (tupleGroup τ).1 = some t) =
      ((list serde s' none filter before none).map
        (List.filter fun τ => (tupleGroup τ).1 = some t) :
          Except String (List (CheckpointTuple V R))) := by
  rw [list_eq_ok serde _ none _ _ _ rfl, list_eq_ok serde _ none _ _ _ rfl]
  show Except.ok (List.filter _ (listGroups serde s none filter before)) =
    Except.ok (List.filter _ (listGroups serde s' none filter before))
  rw [filter_listGroups serde filter before (fun k => decide (k.1 = some t)),
    filter_listGroups serde filter before (fun k => decide (k.1 = some t)),
    filter_listPairs_thread, filter_listPairs_thread, h.order]
  exact congrArg _ (List.flatMap_congr fun p hp => by
    obtain ⟨ns, -, rfl⟩ := List.mem_map.1 hp
    exact listGroup_congr serde (h.sameNs ns) _ _ _)

/-! ### What the reads see outside a scope -/

/-- What a call leaves of the groups that `outside` selects: each of their namespaces, `get_tuple`
on each of their configs, what `list` without a limit yields of them, and what `list` yields at
any limit on a config that selects only such groups. -/
structure Frame [DecidableEq V] [PyNone V] (outside : Option String × Option String → Bool)
    (s s' : InMemorySaver) : Prop where
  /-- Each namespace outside the scope. -/
  sameNs : ∀ t ns, outside (some t, some ns) → SameNs t ns s' s
  /-- `get_tuple` on a config outside the scope. -/
  getTuple : ∀ (config : RunnableConfig) t, config.threadId = some t →
    outside (some t, some (config.checkpointNs.getD "")) →
      (getTuple serde s' config).2 = ((getTuple serde s config).2 :
        Except String (Option (CheckpointTuple V R)))
  /-- The tuples outside the scope that `list` without a limit yields, in order. -/
  list : ∀ config filter before,
    (list serde s' config filter before none).map
        (List.filter fun τ => outside (tupleGroup τ)) =
      ((list serde s config filter before none).map (List.filter fun τ => outside (tupleGroup τ)) :
        Except String (List (CheckpointTuple V R)))
  /-- What `list` yields, at any limit, on a config that selects only groups outside the scope. -/
  listAway : ∀ (c : RunnableConfig) filter before limit,
    (∀ t ns, c.threadId = some t → listSelectsNs (some c) ns → outside (some t, some ns)) →
      (InMemorySaver.list serde s' (some c) filter before limit :
        Except String (List (CheckpointTuple V R))) =
          InMemorySaver.list serde s (some c) filter before limit

/-- A call that keeps every namespace outside its scope, and the order of the groups outside
it, keeps what the reads see there. -/
theorem Frame.of_sameNs [DecidableEq V] [PyNone V]
    {outside : Option String × Option String → Bool} {s s' : InMemorySaver}
    (hns : ∀ t ns, outside (some t, some ns) → SameNs t ns s' s)
    (hpairs : ∀ config, (listPairs s' config).filter (fun p => outside (some p.1, some p.2)) =
      (listPairs s config).filter (fun p => outside (some p.1, some p.2))) :
    Frame serde outside s s' where
  sameNs := hns
  getTuple := fun _ t ht hout => getTuple_snd_congr serde ht (hns t _ hout)
  list := fun config filter before => by
    by_cases hc : (config.all fun c => c.threadId.isSome) = true
    · rw [list_eq_ok serde s' _ _ _ _ hc, list_eq_ok serde s _ _ _ _ hc]
      show Except.ok (List.filter _ (listGroups serde s' config filter before)) =
        Except.ok (List.filter _ (listGroups serde s config filter before))
      rw [filter_listGroups, filter_listGroups, hpairs]
      exact congrArg _ (List.flatMap_congr fun p hp =>
        listGroup_congr serde (hns p.1 p.2 (List.mem_filter.1 hp).2) _ _ _)
    · rw [list_eq_error serde hc, list_eq_error serde hc]
  listAway := fun c filter before limit hout => by
    have hin : ∀ s₀ p, p ∈ listPairs s₀ (some c) → outside (some p.1, some p.2) := fun _ p hp => by
      obtain ⟨ht, -, hsel⟩ := mem_listPairs.1 hp
      exact hout p.1 p.2 (by simpa [listThreadIds] using ht) hsel
    have hall : ∀ s₀, (listPairs s₀ (some c)).filter (fun p => outside (some p.1, some p.2)) =
        listPairs s₀ (some c) := fun s₀ => List.filter_eq_self.2 (hin s₀)
    have hp : listPairs s' (some c) = listPairs s (some c) := by rw [← hall s', hpairs, hall s]
    by_cases hc : ((some c).all fun c => c.threadId.isSome) = true
    · rw [list_eq_ok serde s' _ _ _ _ hc, list_eq_ok serde s _ _ _ _ hc,
        listGroups_eq_flatMap_listPairs, listGroups_eq_flatMap_listPairs, hp,
        List.flatMap_congr fun p h => listGroup_congr serde (hns p.1 p.2 (hin s p h))
          ((some c).bind getCheckpointId) filter before]
    · rw [list_eq_error serde hc, list_eq_error serde hc]

/-- Truncating two concatenations of groups of equal lengths keeps the same items of a filter,
when each group is the same in both or the filter drops all of it in both. -/
theorem filter_take_flatMap {α β : Type} {q : β → Bool} {g g' : α → List β} :
    ∀ {P : List α} (n : Nat), (∀ p ∈ P, (g' p).length = (g p).length ∧
      (g' p = g p ∨ (∀ x ∈ g' p, q x = false) ∧ ∀ x ∈ g p, q x = false)) →
      ((P.flatMap g').take n).filter q = ((P.flatMap g).take n).filter q
  | [], _, _ => rfl
  | p :: P, n, h => by
    obtain ⟨hlen, hp⟩ := h p (List.mem_cons_self _ _)
    have ih := filter_take_flatMap (P := P) (n - (g p).length) fun p' hp' =>
      h p' (List.mem_cons_of_mem _ hp')
    simp only [List.flatMap_cons, List.take_append_eq_append_take, List.filter_append, hlen, ih]
    congr 1
    rcases hp with heq | ⟨h', h''⟩
    · rw [heq]
    · rw [List.filter_eq_nil_iff.2 fun x hx => by simp [h' x (List.mem_of_mem_take hx)],
        List.filter_eq_nil_iff.2 fun x hx => by simp [h'' x (List.mem_of_mem_take hx)]]

/-! ### Deleting a thread -/

/-- After `delete_thread(t)` the saver has of `t` what a fresh saver has. -/
theorem sameThread_deleteThread_init (s : InMemorySaver) (t : String) :
    SameThread t (s.deleteThread t) init :=
  ⟨by rw [namespaces_deleteThread, if_pos rfl]; rfl,
    fun _ => ⟨by rw [checkpointsAt_deleteThread, if_pos rfl]; rfl,
      fun _ _ => by rw [blobs_get_deleteThread, if_pos rfl]; rfl,
      fun _ => by rw [writesAt_deleteThread, if_pos rfl]; rfl⟩⟩

theorem getTuple_init {config : RunnableConfig} {t : String} (ht : config.threadId = some t) :
    (getTuple serde init config).2 = (.ok none : Except String (Option (CheckpointTuple V R))) := by
  rcases hid : truthy (getCheckpointId config) with _ | id
  · rw [getTuple_snd_of_latest serde init ht hid]
    rfl
  · rw [getTuple_snd_of_id serde init ht hid]
    rfl

/-- **A deleted thread starts afresh.** After `delete_thread(t)`, whatever the thread held and
whatever calls come after, every `get_tuple` and every `list` on thread `t`, and the part of
thread `t` in every `list` over all threads, return what they return after the same calls on a
new `InMemorySaver`. -/
theorem deleteThread_resets [DecidableEq V] [PyNone V] (writesIdxMap : WritesIdxMap)
    (getCheckpointMetadata : RunnableConfig → CheckpointMetadata V → CheckpointMetadata V)
    (s : InMemorySaver) (t : String) (ops : List (Op V R)) :
    (∀ config : RunnableConfig, config.threadId = some t →
      (getTuple serde (run serde writesIdxMap getCheckpointMetadata (s.deleteThread t) ops)
          config).2 =
        ((getTuple serde (run serde writesIdxMap getCheckpointMetadata init ops) config).2 :
          Except String (Option (CheckpointTuple V R))) ∧
      ∀ filter before limit,
        (list serde (run serde writesIdxMap getCheckpointMetadata (s.deleteThread t) ops)
            (some config) filter before limit : Except String (List (CheckpointTuple V R))) =
          list serde (run serde writesIdxMap getCheckpointMetadata init ops) (some config)
            filter before limit) ∧
    ∀ filter before,
      (list serde (run serde writesIdxMap getCheckpointMetadata (s.deleteThread t) ops) none
          filter before none).map (List.filter fun τ => (tupleGroup τ).1 = some t) =
        ((list serde (run serde writesIdxMap getCheckpointMetadata init ops) none filter before
          none).map (List.filter fun τ => (tupleGroup τ).1 = some t) :
            Except String (List (CheckpointTuple V R))) := by
  have h := (sameThread_deleteThread_init s t).run serde writesIdxMap getCheckpointMetadata ops
  exact ⟨fun config ht => ⟨getTuple_snd_congr serde ht (h.sameNs _),
    fun filter before limit => list_congr_thread serde h ht filter before limit⟩,
    fun filter before => list_none_congr_thread serde h filter before⟩

/-- **Thread deletion is complete.** `delete_thread(t)` removes exactly the thread's storage
entry, its write buffers and its blobs. Right after it, `get_tuple` finds nothing on any config of
`t` and `list` yields nothing of `t`; and after any later run, every read of `t` returns what it
returns after the same run from a fresh saver: `get_tuple` and `list` on a config of `t`, and
what `list(None)` without a limit yields of `t`. -/
theorem deleteThread_complete [DecidableEq V] [PyNone V] (writesIdxMap : WritesIdxMap)
    (getCheckpointMetadata : RunnableConfig → CheckpointMetadata V → CheckpointMetadata V)
    (s : InMemorySaver) (t : String) :
    s.deleteThread t = ⟨s.storage.erase t, s.writes.filter (fun key => ¬key.1 = t),
      s.blobs.filter (fun key => ¬key.1 = t)⟩ ∧
    (∀ config : RunnableConfig, config.threadId = some t →
      (getTuple serde (s.deleteThread t) config).2 =
        (.ok none : Except String (Option (CheckpointTuple V R)))) ∧
    (∀ config filter before limit (items : List (CheckpointTuple V R)),
      list serde (s.deleteThread t) config filter before limit = .ok items →
        ∀ τ ∈ items, τ.config.threadId ≠ some t) ∧
    (∀ (ops : List (Op V R)) (config : RunnableConfig), config.threadId = some t →
      (getTuple serde (run serde writesIdxMap getCheckpointMetadata (s.deleteThread t) ops)
          config).2 =
        ((getTuple serde (run serde writesIdxMap getCheckpointMetadata init ops) config).2 :
          Except String (Option (CheckpointTuple V R))) ∧
      ∀ filter before limit,
        (list serde (run serde writesIdxMap getCheckpointMetadata (s.deleteThread t) ops)
            (some config) filter before limit : Except String (List (CheckpointTuple V R))) =
          list serde (run serde writesIdxMap getCheckpointMetadata init ops) (some config) filter
            before limit) ∧
    ∀ (ops : List (Op V R)) filter before,
      (list serde (run serde writesIdxMap getCheckpointMetadata (s.deleteThread t) ops) none filter
          before none).map (List.filter fun τ => (tupleGroup τ).1 = some t) =
        ((list serde (run serde writesIdxMap getCheckpointMetadata init ops) none filter before
          none).map (List.filter fun τ => (tupleGroup τ).1 = some t) :
            Except String (List (CheckpointTuple V R))) := by
  have hfresh := sameThread_deleteThread_init s t
  refine ⟨?_, fun config ht => ?_, fun config filter before limit items h τ hτ => ?_,
    fun ops => (deleteThread_resets serde writesIdxMap getCheckpointMetadata s t ops).1,
    fun ops => (deleteThread_resets serde writesIdxMap getCheckpointMetadata s t ops).2⟩
  · rw [← writes_deleteThread, ← blobs_deleteThread]
    rfl
  · rw [getTuple_snd_congr serde ht (hfresh.sameNs _)]
    exact getTuple_init serde ht
  · rw [list_eq_ok serde _ _ _ _ _ (list_ok_threadId serde h)] at h
    obtain ⟨t', ns, e, he, rfl⟩ := mem_listGroups serde (takeLimit_fst_subset _ _ (Except.ok.inj h ▸ hτ))
    intro ht'
    cases ht'
    rw [checkpointsAt_deleteThread, if_pos rfl] at he
    cases he

/-! ### Isolation of scopes -/

section Frames

variable [DecidableEq V] [PyNone V] (writesIdxMap : WritesIdxMap)
  (getCheckpointMetadata : RunnableConfig → CheckpointMetadata V → CheckpointMetadata V)
  (s : InMemorySaver)

theorem frame_put {config : RunnableConfig} {t ns : String} (ht : config.threadId = some t)
    (hns : config.checkpointNs = some ns) (checkpoint : Checkpoint V R)
    (metadata : CheckpointMetadata V) (newVersions : Dict String String) :
    Frame serde (fun k => k ≠ (some t, some ns)) s
      (exec serde writesIdxMap getCheckpointMetadata s (.put config checkpoint metadata newVersions)) :=
  Frame.of_sameNs serde
    (fun _ _ hout => sameNs_put serde writesIdxMap getCheckpointMetadata s ht hns checkpoint
      metadata newVersions (by rintro ⟨⟩; simp at hout))
    fun listConfig => by
      show (listPairs (put serde getCheckpointMetadata s config checkpoint metadata
        newVersions).1 listConfig).filter _ = _
      rw [listPairs_put]
      split
      · next t₁ ns₁ h =>
        obtain ⟨h₁, h₂⟩ := putTarget_eq_some serde h
        cases ht.symm.trans h₁
        cases hns.symm.trans h₂
        exact filter_listPairs_touchNs s _ (by simp) listConfig
      · rfl

theorem frame_putWrites {config : RunnableConfig} {t : String} (ht : config.threadId = some t)
    (writes : List (String × V)) (taskId taskPath : String) :
    Frame serde (fun k => k ≠ (some t, some (config.checkpointNs.getD ""))) s
      (exec serde writesIdxMap getCheckpointMetadata s (.putWrites config writes taskId taskPath)) :=
  have hst := (putWrites_fst serde writesIdxMap taskId taskPath s config writes).1
  Frame.of_sameNs serde
    (fun _ _ hout => sameNs_putWrites serde writesIdxMap getCheckpointMetadata s ht writes taskId
      taskPath (by rintro ⟨⟩; simp at hout))
    fun listConfig => by
      show (listPairs (putWrites serde writesIdxMap s config writes taskId taskPath).1
        listConfig).filter _ = _
      rw [listPairs_congr (congrArg Dict.keys hst) (fun t => congrArg (fun d => (d.getD t ∅).keys) hst)]

/-- `put_writes` leaves `storage`, so every `list` takes its limit from the same groups, each as
long as before: what it yields outside the scope is what it yielded, at every limit. -/
theorem list_limit_putWrites {config : RunnableConfig} {t : String} (ht : config.threadId = some t)
    (writes : List (String × V)) (taskId taskPath : String) (listConfig : Option RunnableConfig)
    (filter : Option (CheckpointMetadata V)) (before : Option RunnableConfig) (limit : Option Int) :
    (list serde (exec serde writesIdxMap getCheckpointMetadata s
        (.putWrites config writes taskId taskPath)) listConfig filter before limit).map
        (List.filter fun τ => tupleGroup τ ≠ (some t, some (config.checkpointNs.getD ""))) =
      ((list serde s listConfig filter before limit).map
        (List.filter fun τ => tupleGroup τ ≠ (some t, some (config.checkpointNs.getD ""))) :
          Except String (List (CheckpointTuple V R))) := by
  set s' := exec serde writesIdxMap getCheckpointMetadata s (.putWrites config writes taskId taskPath)
  have hst : s'.storage = s.storage := (putWrites_fst serde writesIdxMap taskId taskPath s config writes).1
  have hcp : ∀ a b, s'.checkpointsAt a b = s.checkpointsAt a b := fun a b => by
    unfold checkpointsAt
    rw [hst]
  rcases limit with _ | n
  · exact (frame_putWrites serde writesIdxMap getCheckpointMetadata s ht writes taskId taskPath).list
      listConfig filter before
  by_cases hc : (listConfig.all fun c => c.threadId.isSome) = true
  · rw [list_eq_ok serde _ _ _ _ _ hc, list_eq_ok serde _ _ _ _ _ hc,
      listGroups_eq_flatMap_listPairs, listGroups_eq_flatMap_listPairs,
      listPairs_congr (congrArg Dict.keys hst) (fun t => congrArg (fun d => (d.getD t ∅).keys) hst)]
    simp only [Except.map, takeLimit]
    congr 1
    refine filter_take_flatMap _ fun p _ => ⟨by simp only [listGroup, List.length_map, hcp], ?_⟩
    by_cases hin : (p.1, p.2) = (t, config.checkpointNs.getD "")
    · obtain ⟨h₁, h₂⟩ := Prod.mk.inj hin
      exact .inr ⟨fun x hx => by simp [tupleGroup_of_mem_listGroup serde _ _ _ hx, h₁, h₂],
        fun x hx => by simp [tupleGroup_of_mem_listGroup serde _ _ _ hx, h₁, h₂]⟩
    · exact .inl (listGroup_congr serde
        (sameNs_putWrites serde writesIdxMap getCheckpointMetadata s ht writes taskId taskPath hin)
        _ _ _)
  · rw [list_eq_error serde hc, list_eq_error serde hc]

theorem frame_deleteThread (t : String) :
    Frame serde (fun k => k.1 ≠ some t) s
      (exec serde writesIdxMap getCheckpointMetadata s (.deleteThread t : Op V R)) :=
  Frame.of_sameNs serde
    (fun _ ns hout => sameNs_deleteThread serde writesIdxMap getCheckpointMetadata s
      (by simpa using hout) ns)
    fun listConfig => filter_listPairs_deleteThread s _ (fun _ => by simp) listConfig

end Frames

/-- **Scopes are isolated.** A `put` or `put_writes` addressed to a namespace `(t, ns)` keeps
every other namespace, every `get_tuple` result on a config of another namespace, what any
`list` without a limit yields of the other namespaces, in order, and all that `list` yields, at
any limit, on a config that selects no group of `(t, ns)`; `put_writes` moreover keeps what every
`list`, at any limit, yields of the other namespaces. `delete_thread(t)` keeps the same as `put`
of every other thread. -/
theorem scopes_isolated [DecidableEq V] [PyNone V] (writesIdxMap : WritesIdxMap)
    (getCheckpointMetadata : RunnableConfig → CheckpointMetadata V → CheckpointMetadata V)
    (s : InMemorySaver) :
    (∀ (config : RunnableConfig) (checkpoint : Checkpoint V R) metadata newVersions t ns,
      config.threadId = some t → config.checkpointNs = some ns →
        Frame serde (fun k => k ≠ (some t, some ns)) s (exec serde writesIdxMap
          getCheckpointMetadata s (.put config checkpoint metadata newVersions))) ∧
    (∀ (config : RunnableConfig) (writes : List (String × V)) taskId taskPath t,
      config.threadId = some t →
        Frame serde (fun k => k ≠ (some t, some (config.checkpointNs.getD ""))) s
          (exec serde writesIdxMap getCheckpointMetadata s
            (.putWrites config writes taskId taskPath : Op V R)) ∧
        ∀ listConfig filter before limit,
          (list serde (exec serde writesIdxMap getCheckpointMetadata s
              (.putWrites config writes taskId taskPath)) listConfig filter before limit).map
              (List.filter fun τ => tupleGroup τ ≠ (some t, some (config.checkpointNs.getD ""))) =
            ((list serde s listConfig filter before limit).map
              (List.filter fun τ => tupleGroup τ ≠ (some t, some (config.checkpointNs.getD ""))) :
                Except String (List (CheckpointTuple V R)))) ∧
    ∀ t, Frame serde (fun k => k.1 ≠ some t) s
      (exec serde writesIdxMap getCheckpointMetadata s (.deleteThread t : Op V R)) :=
  ⟨fun _ checkpoint metadata newVersions _ _ ht hns =>
    frame_put serde writesIdxMap getCheckpointMetadata s ht hns checkpoint metadata newVersions,
    fun _ writes taskId taskPath _ ht =>
      ⟨frame_putWrites serde writesIdxMap getCheckpointMetadata s ht writes taskId taskPath,
        list_limit_putWrites serde writesIdxMap getCheckpointMetadata s ht writes taskId taskPath⟩,
    frame_deleteThread serde writesIdxMap getCheckpointMetadata s⟩

/-- Threads `a` and `b`, one checkpoint each, `a` first. -/
def twoThreads : InMemorySaver :=
  run unitSerde WritesIdxMap.empty (fun _ m => m) init
    [.put ⟨some "a", some "", none⟩ unitCheckpoint ∅ ∅,
      .put ⟨some "b", some "", none⟩ unitCheckpoint ∅ ∅]

/-- Under a limit, deleting a thread changes what `list` yields of the others: with threads `a`
and `b`, `list(None, limit=1)` yields `a`'s checkpoint before and `b`'s after. -/
theorem list_limit_frame_fails :
    ¬∀ (s : InMemorySaver) (t : String) (config : Option RunnableConfig) (limit : Option Int),
      (list unitSerde (s.deleteThread t) config none none limit).map
          (List.filter fun τ => (tupleGroup τ).1 ≠ some t) =
        (list unitSerde s config none none limit).map
          (List.filter fun τ => (tupleGroup τ).1 ≠ some t) := by
  intro h
  obtain ⟨ea, hea⟩ : ∃ e, (twoThreads.checkpointsAt "a" "").entries = [e] := ⟨_, rfl⟩
  obtain ⟨eb, heb⟩ : ∃ e, (twoThreads.checkpointsAt "b" "").entries = [e] := ⟨_, rfl⟩
  have hb : (twoThreads.deleteThread "a").checkpointsAt "b" "" = twoThreads.checkpointsAt "b" "" := by
    rw [checkpointsAt_deleteThread, if_neg (by decide)]
  have hpairs : listPairs twoThreads none = [("a", ""), ("b", "")] := by decide
  have hpairs' : listPairs (twoThreads.deleteThread "a") none = [("b", "")] := by decide
  have hu := fun s t ns => listGroup_unfiltered unitSerde s (rfl : truthy (none : Option String) = none) t ns
  have := h twoThreads "a" none (some 1)
  rw [list_eq_ok _ _ none _ _ _ rfl, list_eq_ok _ _ none _ _ _ rfl, listGroups_eq_flatMap_listPairs,
    listGroups_eq_flatMap_listPairs, hpairs, hpairs'] at this
  simp [hu, hea, heb, hb, sortDesc, takeLimit, Except.map] at this

end InMemorySaver

end CheckpointSaver
