import CheckpointSaver.Isolation

/-!
# Reads are unobservable, up to the order of groups

`get_tuple` and `list` go through `defaultdict`s, so a read leaves behind the empty containers it
looked up: the thread and namespace it read in `storage`, and the write buffer of each tuple it
returned. None of them holds data, so a read changes no namespace (`obsEq_exec_read`), and
agreement on every namespace survives any run (`ObsEq.run`): every later `get_tuple` returns the
same, every `put_writes` keeps and drops the same writes, and `delete_thread` removes the same
data.

What an empty container can change is the order of the groups: a namespace read before it is
written takes its place in `storage` at the read. `list` visits the groups in that order, so a
`list` without a limit yields the same tuples, each group in the same order, the groups perhaps
in another order (`list_sameUpToGroupOrder`); under a limit it can yield other tuples
(`read_changes_limited_list`).

## The theorems, and what each rests on

* `reads_unobservable` rests on `SameNs.exec` (what a call does to a namespace depends on the
  namespace only) and on `getTuple_snd_congr` and `filter_listGroups_group`: the tuples of one
  group that `list` yields are the group itself or nothing, decided by the config alone.
* `read_changes_limited_list` is a fixed run: a `get_tuple` on thread `b` before `a` and then `b`
  are first written puts `b` first in `storage`, and `list(None, limit=1)` then yields `b`'s
  checkpoint instead of `a`'s.
-/

namespace CheckpointSaver

/-- The reads: `get_tuple`, and `list` drawn for any number of items. -/
def Op.isRead {V R : Type} : Op V R → Bool
  | .getTuple _ => true
  | .list _ _ _ _ _ => true
  | _ => false

namespace InMemorySaver

variable {V R : Type} (serde : SerializerProtocol V R)

/-- Two states that every read sees alike: they agree on every namespace. -/
def ObsEq (s s' : InMemorySaver) : Prop :=
  ∀ t ns, SameNs t ns s s'

/-- A read changes no namespace. -/
theorem obsEq_exec_read [DecidableEq V] [PyNone V] (writesIdxMap : WritesIdxMap)
    (getCheckpointMetadata : RunnableConfig → CheckpointMetadata V → CheckpointMetadata V)
    (s : InMemorySaver) {r : Op V R} (hr : r.isRead) :
    ObsEq (exec serde writesIdxMap getCheckpointMetadata s r) s := by
  intro t ns
  cases r with
  | getTuple config =>
    obtain ⟨hc, hw, hb⟩ := getTuple_fst_views serde s config
    exact ⟨hc t ns, fun k v => congrArg (fun d => d.get (t, ns, k, v)) hb, fun id => hw _⟩
  | list config filter before limit drawn =>
    simp only [exec]
    split
    · obtain ⟨hc, hw, hb⟩ := listDrawn_views s config _ drawn
      exact ⟨hc t ns, fun k v => by rw [hb], fun id => hw _⟩
    · exact SameNs.refl t ns s
  | _ => cases hr

theorem ObsEq.run [DecidableEq V] [PyNone V] (writesIdxMap : WritesIdxMap)
    (getCheckpointMetadata : RunnableConfig → CheckpointMetadata V → CheckpointMetadata V)
    {s s' : InMemorySaver} (h : ObsEq s s') (ops : List (Op V R)) :
    ObsEq (run serde writesIdxMap getCheckpointMetadata s ops)
      (run serde writesIdxMap getCheckpointMetadata s' ops) :=
  fun t ns => (h t ns).run serde writesIdxMap getCheckpointMetadata ops

/-! ### The groups of `list` -/

/-- Lists whose filters to every group agree are permutations of each other. -/
theorem perm_of_forall_filter_eq {α β : Type} [DecidableEq β] (g : α → β) {l₁ l₂ : List α}
    (h : ∀ k, l₁.filter (fun a => g a = k) = l₂.filter (fun a => g a = k)) : l₁.Perm l₂ := by
  classical
  refine List.perm_iff_count.2 fun a => ?_
  rw [← List.count_filter (p := fun x => decide (g x = g a)) (by simp), h,
    List.count_filter (by simp)]

section Groups

variable [DecidableEq V] [PyNone V] (filter : Option (CheckpointMetadata V))
  (before : Option RunnableConfig)

/-- A group with tuples is visited when the config selects it. -/
theorem mem_listPairs_of_listGroup_ne_nil {s : InMemorySaver} {config : Option RunnableConfig}
    {t ns : String}
    (h : (listGroup serde (config.bind getCheckpointId) filter before s t ns :
      List (CheckpointTuple V R)) ≠ [])
    (ht : config.all fun c => c.threadId = some t) (hns : listSelectsNs config ns) :
    (t, ns) ∈ listPairs s config := by
  have he : (s.checkpointsAt t ns).entries ≠ [] := fun he => h (by
    simp only [listGroup, he, sortDesc, List.mergeSort_nil, List.filter_nil, List.map_nil])
  obtain ⟨hkeys, hmem⟩ := mem_namespaces_of_entries_ne_nil s he
  refine mem_listPairs.2 ⟨?_, hmem, hns⟩
  rcases config with _ | c
  · exact hkeys
  · simp only [Option.all_some, decide_eq_true_eq] at ht
    simp [listThreadIds, ht]

/-- **The tuples of one group.** What `list` yields of a group is the whole group, in order, or
nothing, and which is decided by the config alone. -/
theorem filter_listGroups_group (s : InMemorySaver) (config : Option RunnableConfig) (t ns : String) :
    (listGroups serde s config filter before).filter (fun τ => tupleGroup τ = (some t, some ns)) =
      if (config.all fun c => c.threadId = some t) ∧ listSelectsNs config ns then
        listGroup serde (config.bind getCheckpointId) filter before s t ns
      else ([] : List (CheckpointTuple V R)) := by
  have hfilter := filter_listGroups serde filter before (fun k => decide (k = (some t, some ns))) s
    config
  simp only [Prod.mk.injEq, Option.some.injEq] at hfilter
  rw [hfilter, flatMap_filter_eq_ite]
  have hite : ∀ q : String × String, (if decide (q.1 = t ∧ q.2 = ns) = true then
      listGroup serde (config.bind getCheckpointId) filter before s q.1 q.2 else []) =
      if q = (t, ns) then listGroup serde (config.bind getCheckpointId) filter before s q.1 q.2
      else ([] : List (CheckpointTuple V R)) := fun q => by
    simp only [decide_eq_true_eq, Prod.ext_iff]
  simp only [hite, flatMap_ite_eq_of_nodup (nodup_listPairs s config)]
  by_cases hmem : (t, ns) ∈ listPairs s config
  · obtain ⟨ht, -, hns⟩ := mem_listPairs.1 hmem
    have hsel : (config.all fun c => c.threadId = some t) = true := by
      rcases config with _ | c
      · rfl
      · simpa [listThreadIds] using ht
    simp [hmem, hsel, hns]
  · rw [if_neg hmem]
    split_ifs with hsel
    · by_contra hne
      exact hmem (mem_listPairs_of_listGroup_ne_nil serde filter before (Ne.symm hne) hsel.1 hsel.2)
    · rfl

/-- Every tuple `list` yields names its thread and namespace. -/
theorem filter_listGroups_of_ne (s : InMemorySaver) (config : Option RunnableConfig)
    {k : Option String × Option String} (hk : ∀ t ns, k ≠ (some t, some ns)) :
    (listGroups serde s config filter before).filter (fun τ => tupleGroup τ = k) =
      ([] : List (CheckpointTuple V R)) :=
  List.filter_eq_nil_iff.2 fun τ hτ => by
    obtain ⟨t, ns, e, -, rfl⟩ := mem_listGroups serde hτ
    simpa [eq_comm] using hk t ns

end Groups

/-- Two results of a call: related by `r` when both return, the same error when both raise. -/
def ResultRel {α β : Type} (r : α → β → Prop) : Except String α → Except String β → Prop
  | .ok a, .ok b => r a b
  | .error e, .error e' => e = e'
  | _, _ => False

/-- Two results of `list` that yield the same tuples, the tuples of each group
`(thread_id, checkpoint_ns)` in the same order, the groups perhaps in another order; or that
raise the same error. -/
def SameUpToGroupOrder : Except String (List (CheckpointTuple V R)) →
    Except String (List (CheckpointTuple V R)) → Prop :=
  ResultRel fun items items' => items.Perm items' ∧
    ∀ k, items.filter (fun τ => tupleGroup τ = k) = items'.filter (fun τ => tupleGroup τ = k)

/-- On states that agree on every namespace, `list` without a limit yields the same groups. -/
theorem list_sameUpToGroupOrder [DecidableEq V] [PyNone V] {s s' : InMemorySaver} (h : ObsEq s s')
    (config : Option RunnableConfig) (filter : Option (CheckpointMetadata V))
    (before : Option RunnableConfig) :
    SameUpToGroupOrder (list serde s config filter before none : Except String (List (CheckpointTuple V R)))
      (list serde s' config filter before none) := by
  by_cases hc : (config.all fun c => c.threadId.isSome) = true
  · rw [list_eq_ok serde s _ _ _ _ hc, list_eq_ok serde s' _ _ _ _ hc]
    have hgroups : ∀ k, (listGroups serde s config filter before).filter
        (fun τ => tupleGroup τ = k) =
          (listGroups serde s' config filter before).filter (fun τ => tupleGroup τ = k) := by
      rintro ⟨_ | t, _ | ns⟩
      rotate_right
      · rw [filter_listGroups_group, filter_listGroups_group, listGroup_congr serde (h t ns)]
      all_goals rw [filter_listGroups_of_ne serde filter before s config (by simp),
        filter_listGroups_of_ne serde filter before s' config (by simp)]
    exact ⟨perm_of_forall_filter_eq tupleGroup hgroups, hgroups⟩
  · rw [list_eq_error serde hc, list_eq_error serde hc]
    rfl

/-- **Reads are unobservable, up to the order of groups.** After a read, any run reaches a state
that agrees on every namespace with the state the same run reaches without the read, so every
`get_tuple` returns the same, every `put_writes` and `delete_thread` does the same to the tables
the reads see, and every `list` without a limit yields the same groups, perhaps in another order. -/
theorem reads_unobservable [DecidableEq V] [PyNone V] (writesIdxMap : WritesIdxMap)
    (getCheckpointMetadata : RunnableConfig → CheckpointMetadata V → CheckpointMetadata V)
    (s : InMemorySaver) {r : Op V R} (hr : r.isRead) (ops : List (Op V R)) :
    ObsEq (run serde writesIdxMap getCheckpointMetadata
        (exec serde writesIdxMap getCheckpointMetadata s r) ops)
      (run serde writesIdxMap getCheckpointMetadata s ops) ∧
    (∀ config, (getTuple serde (run serde writesIdxMap getCheckpointMetadata
        (exec serde writesIdxMap getCheckpointMetadata s r) ops) config).2 =
      ((getTuple serde (run serde writesIdxMap getCheckpointMetadata s ops) config).2 :
        Except String (Option (CheckpointTuple V R)))) ∧
    ∀ config filter before,
      SameUpToGroupOrder (list serde (run serde writesIdxMap getCheckpointMetadata
          (exec serde writesIdxMap getCheckpointMetadata s r) ops) config filter before none :
          Except String (List (CheckpointTuple V R)))
        (list serde (run serde writesIdxMap getCheckpointMetadata s ops) config filter before none) := by
  have h := (obsEq_exec_read serde writesIdxMap getCheckpointMetadata s hr).run serde writesIdxMap
    getCheckpointMetadata ops
  refine ⟨h, fun config => ?_, list_sameUpToGroupOrder serde h⟩
  rcases ht : config.threadId with _ | t
  · simp only [getTuple, ht]
  · exact getTuple_snd_congr serde ht (h _ _)

theorem reads_unobservable_fresh :
    (Op.getTuple ⟨some "t", none, none⟩ : Op Unit Unit).isRead = true ∧
    ObsEq (run unitSerde WritesIdxMap.empty (fun _ m => m)
        (exec unitSerde WritesIdxMap.empty (fun _ m => m) init (.getTuple ⟨some "t", none, none⟩))
        [.put ⟨some "t", some "", none⟩ unitCheckpoint ∅ ∅])
      (run unitSerde WritesIdxMap.empty (fun _ m => m) init
        [.put ⟨some "t", some "", none⟩ unitCheckpoint ∅ ∅]) ∧
    (∀ config, (getTuple unitSerde (run unitSerde WritesIdxMap.empty (fun _ m => m)
        (exec unitSerde WritesIdxMap.empty (fun _ m => m) init (.getTuple ⟨some "t", none, none⟩))
        [.put ⟨some "t", some "", none⟩ unitCheckpoint ∅ ∅]) config).2 =
      (getTuple unitSerde (run unitSerde WritesIdxMap.empty (fun _ m => m) init
        [.put ⟨some "t", some "", none⟩ unitCheckpoint ∅ ∅]) config).2) ∧
    ∀ config filter before,
      SameUpToGroupOrder (list unitSerde (run unitSerde WritesIdxMap.empty (fun _ m => m)
          (exec unitSerde WritesIdxMap.empty (fun _ m => m) init (.getTuple ⟨some "t", none, none⟩))
          [.put ⟨some "t", some "", none⟩ unitCheckpoint ∅ ∅]) config filter before none)
        (list unitSerde (run unitSerde WritesIdxMap.empty (fun _ m => m) init
          [.put ⟨some "t", some "", none⟩ unitCheckpoint ∅ ∅]) config filter before none) :=
  ⟨rfl, reads_unobservable unitSerde WritesIdxMap.empty (fun _ m => m) init
    (r := .getTuple ⟨some "t", none, none⟩) rfl _⟩

/-- Under a limit a read can change what `list` yields: reading thread `b` before `a` and `b` are
written puts `b` first, and `list(None, limit=1)` then yields `b`'s checkpoint, not `a`'s. -/
theorem read_changes_limited_list :
    ¬∀ (s : InMemorySaver) (r : Op Unit Unit), r.isRead → ∀ (ops : List (Op Unit Unit))
      (config : Option RunnableConfig) (limit : Option Int),
      SameUpToGroupOrder (list unitSerde (run unitSerde WritesIdxMap.empty (fun _ m => m)
          (exec unitSerde WritesIdxMap.empty (fun _ m => m) s r) ops) config none none limit)
        (list unitSerde (run unitSerde WritesIdxMap.empty (fun _ m => m) s ops) config none none
          limit) := by
  intro h
  have := h init (.getTuple ⟨some "b", none, none⟩) rfl
    [.put ⟨some "a", some "", none⟩ unitCheckpoint ∅ ∅,
      .put ⟨some "b", some "", none⟩ unitCheckpoint ∅ ∅] none (some 1)
  set s₁ := run unitSerde WritesIdxMap.empty (fun _ m => m)
    (exec unitSerde WritesIdxMap.empty (fun _ m => m) init (.getTuple ⟨some "b", none, none⟩))
    [.put ⟨some "a", some "", none⟩ unitCheckpoint ∅ ∅,
      .put ⟨some "b", some "", none⟩ unitCheckpoint ∅ ∅] with hs₁
  obtain ⟨ea, hea⟩ : ∃ e, (twoThreads.checkpointsAt "a" "").entries = [e] := ⟨_, rfl⟩
  obtain ⟨eb, heb⟩ : ∃ e, (s₁.checkpointsAt "b" "").entries = [e] := ⟨_, rfl⟩
  have hpairs : listPairs twoThreads none = [("a", ""), ("b", "")] := by decide
  have hpairs₁ : listPairs s₁ none = [("b", ""), ("a", "")] := by decide
  have hu := fun s t ns => listGroup_unfiltered unitSerde s (rfl : truthy (none : Option String) = none) t ns
  rw [show run unitSerde WritesIdxMap.empty (fun _ m => m) init
    [.put ⟨some "a", some "", none⟩ unitCheckpoint ∅ ∅,
      .put ⟨some "b", some "", none⟩ unitCheckpoint ∅ ∅] = twoThreads from rfl,
    list_eq_ok _ _ none _ _ _ rfl, list_eq_ok _ _ none _ _ _ rfl, listGroups_eq_flatMap_listPairs,
    listGroups_eq_flatMap_listPairs, hpairs, hpairs₁] at this
  simp only [SameUpToGroupOrder, ResultRel, List.flatMap_cons, List.flatMap_nil, Option.none_bind, hu, hea,
    heb, sortDesc, List.mergeSort_singleton, List.map_cons, List.map_nil, takeLimit] at this
  have hg := congrArg (List.map tupleGroup) (List.perm_singleton.1 this.1)
  simp at hg

end InMemorySaver

end CheckpointSaver
