import CheckpointSaver.Lookup

/-!
# What `list` yields

`list`'s three loops share one `limit` counter, and the `break` on an exhausted limit leaves only
the innermost loop: the outer loops go on to the next namespace and thread, where the first
selected checkpoint meets the same exhausted limit and `break`s again. The loops therefore
yield a prefix of the concatenation of what each namespace selects, and `takeLimit` is that
prefix together with the counter left: each loop is `takeLimit` of its own concatenation
(`listCheckpoints_eq`, `listNamespaces_eq`, `listThreads_eq`), because `takeLimit` of a
concatenation is `takeLimit` of its parts run one after the other (`takeLimit_append`).

`listSelects` is the selection in the words of the spec: the config's id when non-empty, below
`before`'s id when non-empty, and the metadata filter. `listGroup` is what one namespace
yields, in descending id order, and `listGroups` the concatenation over the selected threads
and namespaces in storage order.
-/

namespace CheckpointSaver

namespace InMemorySaver

/-- The first `max limit 0` items of `xs` and the limit left after yielding them, or all of
`xs` when there is no limit. -/
def takeLimit {α : Type} : Option Int → List α → List α × Option Int
  | none, xs => (xs, none)
  | some n, xs => (xs.take n.toNat, some (n - (xs.take n.toNat).length))

theorem takeLimit_append {α : Type} (limit : Option Int) (xs ys : List α) :
    takeLimit limit (xs ++ ys) =
      ((takeLimit limit xs).1 ++ (takeLimit (takeLimit limit xs).2 ys).1,
        (takeLimit (takeLimit limit xs).2 ys).2) := by
  cases limit with
  | none => rfl
  | some n =>
    simp only [takeLimit, List.take_append_eq_append_take, List.length_append, List.length_take,
      Prod.mk.injEq]
    have h : (n - (min n.toNat xs.length : Nat)).toNat = n.toNat - xs.length := by omega
    rw [h]
    exact ⟨rfl, by push_cast; rw [Int.sub_sub]⟩

theorem takeLimit_cons_pos {α : Type} (x : α) (xs : List α) {n : Int} (hn : 0 < n) :
    takeLimit (some n) (x :: xs) =
      (x :: (takeLimit (some (n - 1)) xs).1, (takeLimit (some (n - 1)) xs).2) := by
  have h : n.toNat = (n - 1).toNat + 1 := by omega
  simp only [takeLimit, h, List.take_succ_cons, List.length_cons, Prod.mk.injEq, true_and]
  congr 1
  omega

theorem all_eq_eq_not_any_ne (o : Option String) (x : String) :
    o.all (fun c => x = c) = !o.any (· ≠ x) := by
  cases o <;> simp [eq_comm]

/-! ### Sorting -/

theorem sortDesc_perm (items : List (String × Saved)) : (sortDesc items).Perm items :=
  List.mergeSort_perm _ _

theorem sortDesc_sorted (items : List (String × Saved)) :
    (sortDesc items).Pairwise fun a b => b.1 ≤ a.1 := by
  have h : (sortDesc items).Pairwise fun a b => decide (b.1 ≤ a.1) :=
    List.sorted_mergeSort
      (fun a b c hab hbc => by simp only [decide_eq_true_eq] at *; exact le_trans hbc hab)
      (fun a b => by simpa using le_total b.1 a.1) items
  exact h.imp fun hab => of_decide_eq_true hab

/-- A namespace's checkpoints, sorted as `list` sorts them, are in strictly descending id
order. -/
theorem sortDesc_ids_desc (d : Dict String Saved) :
    ((sortDesc d.entries).map Prod.fst).Pairwise fun a b => a > b := by
  have hnodup : ((sortDesc d.entries).map Prod.fst).Nodup :=
    ((sortDesc_perm _).map Prod.fst).nodup_iff.2 d.nodup
  have hle : ((sortDesc d.entries).map Prod.fst).Pairwise fun a b => b ≤ a :=
    List.pairwise_map.2 (sortDesc_sorted d.entries)
  exact (hle.and hnodup).imp fun h => lt_of_le_of_ne h.1 (Ne.symm h.2)

variable {V R : Type} (serde : SerializerProtocol V R)

section Select

variable [DecidableEq V] [PyNone V] (configCheckpointId : Option String)
  (filter : Option (CheckpointMetadata V)) (before : Option RunnableConfig)

/-- Whether `list` selects the checkpoint `id` with decoded `metadata`: its id is the config's
when that is non-empty, it is strictly below `before`'s id when that is non-empty, and every
item `(k, v)` of the filter has `metadata.get(k) == v`. -/
def listSelects (id : String) (metadata : CheckpointMetadata V) : Bool :=
  (truthy configCheckpointId).all (fun c => id = c) &&
    (before.bind fun b => truthy (getCheckpointId b)).all (fun b => id < b) &&
    filter.all (matchesFilter · metadata)

/-- The tuple `list` builds for an item of a namespace. -/
def listTuple (s : InMemorySaver) (t ns : String) (e : String × Saved) : CheckpointTuple V R :=
  checkpointTuple serde s ⟨some t, some ns, some e.1⟩ t ns e.1 e.2.1
    (serde.metadata.loadsTyped e.2.2.1) e.2.2.2

/-- What `list` yields from namespace `(t, ns)`: its selected checkpoints, in descending id
order. -/
def listGroup (s : InMemorySaver) (t ns : String) : List (CheckpointTuple V R) :=
  ((sortDesc (s.checkpointsAt t ns).entries).filter fun e =>
    listSelects configCheckpointId filter before e.1 (serde.metadata.loadsTyped e.2.2.1)).map
      (listTuple serde s t ns)

theorem listSelects_eq (id : String) (metadata : CheckpointMetadata V) :
    listSelects configCheckpointId filter before id metadata =
      (!(truthy configCheckpointId).any (· ≠ id) &&
        !(before.bind fun b => truthy (getCheckpointId b)).any (· ≤ id) &&
        filter.all (matchesFilter · metadata)) := by
  unfold listSelects
  congr 2
  · exact all_eq_eq_not_any_ne _ _
  · cases before.bind fun b => truthy (getCheckpointId b) with
    | none => rfl
    | some b => simp only [Option.all_some, Option.any_some, ← decide_not, not_le]

/-- The innermost loop yields the selected checkpoints up to the limit. -/
theorem listCheckpoints_eq (s : InMemorySaver) (t ns : String) :
    ∀ (limit : Option Int) (l : List (String × Saved)),
      listCheckpoints serde s configCheckpointId filter before t ns limit l =
        takeLimit limit ((l.filter fun e => listSelects configCheckpointId filter before e.1
          (serde.metadata.loadsTyped e.2.2.1)).map (listTuple serde s t ns)) := by
  intro limit l
  induction l generalizing limit with
  | nil => cases limit <;> simp [listCheckpoints, takeLimit]
  | cons e l ih =>
    obtain ⟨id, c, m, p⟩ := e
    simp only [listCheckpoints]
    rw [List.filter_cons, listSelects_eq]
    by_cases h₁ : (truthy configCheckpointId).any (· ≠ id) = true
    · simp only [h₁, if_true, Bool.not_true, Bool.false_and, Bool.false_eq_true, if_false, ih]
    by_cases h₂ : (before.bind fun b => truthy (getCheckpointId b)).any (· ≤ id) = true
    · simp only [h₁, h₂, if_true, Bool.not_true, Bool.and_false, Bool.false_and,
        Bool.false_eq_true, if_false, ih]
    by_cases h₃ : filter.all (matchesFilter · (serde.metadata.loadsTyped m)) = true
    · simp only [h₁, h₂, h₃, Bool.not_true, Bool.not_false, Bool.false_eq_true, if_false,
        Bool.and_true, if_true, List.map_cons]
      cases limit with
      | none => simp only [ih]; rfl
      | some n =>
        by_cases hn : n ≤ 0
        · have : n.toNat = 0 := by omega
          simp [hn, takeLimit, this]
        · simp only [hn, if_false, ih, takeLimit_cons_pos _ _ (not_le.1 hn)]
          rfl
    · simp only [h₁, h₂, h₃, Bool.not_false, Bool.not_true, Bool.false_eq_true, if_false,
        Bool.and_false, if_true, ih]

/-- The middle loop yields the selected namespaces' groups up to the limit. -/
theorem listNamespaces_eq (s : InMemorySaver) (configCheckpointNs : Option String) (t : String) :
    ∀ (limit : Option Int) (nss : List String),
      listNamespaces serde s configCheckpointId filter before configCheckpointNs t limit nss =
        takeLimit limit ((nss.filter fun ns => configCheckpointNs.all fun c => ns = c).flatMap
          (listGroup serde configCheckpointId filter before s t)) := by
  intro limit nss
  induction nss generalizing limit with
  | nil => cases limit <;> simp [listNamespaces, takeLimit]
  | cons ns nss ih =>
    simp only [listNamespaces]
    rw [List.filter_cons, all_eq_eq_not_any_ne]
    by_cases h : configCheckpointNs.any (· ≠ ns) = true
    · simp only [h, if_true, Bool.not_true, Bool.false_eq_true, if_false, ih]
    · simp only [h, Bool.false_eq_true, if_false, Bool.not_false, if_true, List.flatMap_cons,
        takeLimit_append, listCheckpoints_eq, ih]
      rfl

/-- The outer loop yields the groups of the threads' selected namespaces up to the limit. -/
theorem listThreads_eq (s : InMemorySaver) (configCheckpointNs : Option String) :
    ∀ (limit : Option Int) (ts : List String),
      listThreads serde s configCheckpointId filter before configCheckpointNs limit ts =
        takeLimit limit (ts.flatMap fun t =>
          ((s.storage.getD t ∅).keys.filter fun ns => configCheckpointNs.all fun c => ns = c).flatMap
            (listGroup serde configCheckpointId filter before s t)) := by
  intro limit ts
  induction ts generalizing limit with
  | nil => cases limit <;> simp [listThreads, takeLimit]
  | cons t ts ih =>
    simp only [listThreads, List.flatMap_cons, takeLimit_append, listNamespaces_eq, ih]

end Select

/-- What `list(config, filter=filter, before=before)` yields, as the spec describes it: the
config's thread, or every thread in storage order; each thread's namespaces in storage order,
only the config's namespace when it names one; and each namespace's selected checkpoints in
descending id order. -/
def listGroups [DecidableEq V] [PyNone V] (s : InMemorySaver) (config : Option RunnableConfig)
    (filter : Option (CheckpointMetadata V)) (before : Option RunnableConfig) :
    List (CheckpointTuple V R) :=
  (match config with
    | some c => c.threadId.toList
    | none => s.storage.keys).flatMap fun t =>
    ((s.storage.getD t ∅).keys.filter fun ns =>
      (config.bind (·.checkpointNs)).all fun c => ns = c).flatMap
      (listGroup serde (config.bind getCheckpointId) filter before s t)

theorem takeLimit_fst_subset {α : Type} (limit : Option Int) (xs : List α) :
    (takeLimit limit xs).1 ⊆ xs := by
  cases limit with
  | none => exact List.Subset.refl _
  | some n => exact List.take_subset _ _

/-- `list` on no config, or on a config with a thread id, yields `listGroups` up to the limit. -/
theorem list_eq_ok [DecidableEq V] [PyNone V] (s : InMemorySaver) (config : Option RunnableConfig)
    (filter : Option (CheckpointMetadata V)) (before : Option RunnableConfig) (limit : Option Int)
    (hconfig : config.all fun c => c.threadId.isSome) :
    list serde s config filter before limit =
      .ok (takeLimit limit (listGroups serde s config filter before)).1 := by
  cases config with
  | none => simp only [list, Option.map_none', listThreads_eq]; rfl
  | some c =>
    obtain ⟨t, ht⟩ := Option.isSome_iff_exists.1 (by simpa using hconfig)
    simp only [list, Option.map_some', ht, listThreads_eq, listGroups, Option.toList_some]
    rfl

/-- A `list` that yields was given no config or a config with a thread id. -/
theorem list_ok_threadId [DecidableEq V] [PyNone V] {s : InMemorySaver}
    {config : Option RunnableConfig} {filter : Option (CheckpointMetadata V)}
    {before : Option RunnableConfig} {limit : Option Int} {items : List (CheckpointTuple V R)}
    (h : list serde s config filter before limit = .ok items) :
    config.all fun c => c.threadId.isSome := by
  cases config with
  | none => rfl
  | some c => cases ht : c.threadId <;> simp_all [list]

/-- The tables after `put` of `unitCheckpoint` on thread `"t"`, namespace `""`. -/
def oneCheckpoint : InMemorySaver :=
  run unitSerde WritesIdxMap.empty (fun _ m => m) init
    [.put ⟨some "t", some "", none⟩ unitCheckpoint ∅ ∅]

theorem oneCheckpoint_eq :
    oneCheckpoint = exec unitSerde WritesIdxMap.empty (fun _ m => m) init
      (.put ⟨some "t", some "", none⟩ unitCheckpoint ∅ ∅) :=
  rfl

theorem max?_eq_of_forall_le {xs : List String} {x : String} (hx : x ∈ xs)
    (h : ∀ y ∈ xs, y ≤ x) : xs.max? = some x := by
  obtain ⟨m, hm⟩ := Option.isSome_iff_exists.1 (List.isSome_max?_of_mem hx)
  have hle : ∀ y ∈ xs, y ≤ m := (List.max?_le_iff (fun _ _ _ => max_le_iff) hm).1 le_rfl
  rw [hm, le_antisymm (h m (List.max?_mem max_choice hm)) (hle x hx)]

/-- The first of a namespace's checkpoints in `list`'s order is the one with the greatest id,
which `get_tuple` takes as the latest. -/
theorem head?_sortDesc (d : Dict String Saved) :
    (sortDesc d.entries).head? = d.keys.max?.bind fun id => (d.get id).map fun e => (id, e) := by
  have hperm := sortDesc_perm d.entries
  have hsorted := sortDesc_sorted d.entries
  cases h : sortDesc d.entries with
  | nil =>
    rw [h] at hperm
    simp [Dict.keys, List.nil_perm.1 hperm]
  | cons e rest =>
    rw [h] at hperm hsorted
    have he : e ∈ d.entries := hperm.subset (List.mem_cons_self _ _)
    have hmax : d.keys.max? = some e.1 := by
      refine max?_eq_of_forall_le (List.mem_map_of_mem _ he) fun y hy => ?_
      obtain ⟨e', he', rfl⟩ := List.mem_map.1 hy
      rcases List.mem_cons.1 (hperm.symm.subset he') with rfl | h'
      · exact le_rfl
      · exact List.rel_of_pairwise_cons hsorted h'
    simp [hmax, Dict.mem_entries.1 he]

theorem mem_listGroups [DecidableEq V] [PyNone V] {s : InMemorySaver}
    {config : Option RunnableConfig} {filter : Option (CheckpointMetadata V)}
    {before : Option RunnableConfig} {τ : CheckpointTuple V R}
    (h : τ ∈ listGroups serde s config filter before) :
    ∃ t ns e, e ∈ (s.checkpointsAt t ns).entries ∧ τ = listTuple serde s t ns e := by
  simp only [listGroups, listGroup, List.mem_flatMap, List.mem_map, List.mem_filter] at h
  obtain ⟨t, -, ns, -, e, ⟨he, -⟩, rfl⟩ := h
  exact ⟨t, ns, e, (sortDesc_perm _).subset he, rfl⟩

/-- The tuple `list` builds for a stored checkpoint with a non-empty id is what `get_tuple`
returns on that tuple's config. -/
theorem getTuple_listTuple (s : InMemorySaver) {t ns : String} {e : String × Saved}
    (he : e ∈ (s.checkpointsAt t ns).entries) (hid : e.1 ≠ "") :
    (getTuple serde s (listTuple serde s t ns e).config).2 =
      .ok (some (listTuple serde s t ns e : CheckpointTuple V R)) := by
  obtain ⟨id, saved⟩ := e
  have ht : (⟨some t, some ns, some id⟩ : RunnableConfig).threadId = some t := rfl
  have hid' : truthy (getCheckpointId ⟨some t, some ns, some id⟩) = some id := by
    simpa [getCheckpointId, truthy_some] using hid
  rw [show (listTuple serde s t ns (id, saved)).config = ⟨some t, some ns, some id⟩ from rfl,
    getTuple_snd_of_id serde s ht hid']
  simp only [Option.getD_some, Dict.mem_entries.1 he, Option.map_some']
  rfl

/-- On a config naming a namespace, `list` yields only that namespace's group. -/
theorem listGroups_of_ns [DecidableEq V] [PyNone V] (s : InMemorySaver) {config : RunnableConfig}
    {t ns : String} (ht : config.threadId = some t) (hns : config.checkpointNs = some ns)
    (filter : Option (CheckpointMetadata V)) (before : Option RunnableConfig) :
    listGroups serde s (some config) filter before =
      (listGroup serde (getCheckpointId config) filter before s t ns : List (CheckpointTuple V R)) := by
  simp only [listGroups, ht, hns, Option.toList_some, Option.some_bind, Option.all_some,
    List.flatMap_singleton]
  rw [List.filter_eq]
  rcases Nat.le_one_iff_eq_zero_or_eq_one.1
      (List.nodup_iff_count_le_one.1 (s.storage.getD t ∅).nodup ns) with h | h
  · have hnot : ns ∉ (s.storage.getD t ∅).keys := List.count_eq_zero.1 h
    have hempty : s.checkpointsAt t ns = ∅ := by
      rw [checkpointsAt, Dict.getD, Dict.get_eq_none.2 hnot]
      rfl
    change (s.storage.getD t ∅).keys.count ns = 0 at h
    simp [h, listGroup, hempty, sortDesc]
  · change (s.storage.getD t ∅).keys.count ns = 1 at h
    simp [h]

theorem listGroup_unfiltered [DecidableEq V] [PyNone V] (s : InMemorySaver)
    {configCheckpointId : Option String} (hid : truthy configCheckpointId = none) (t ns : String) :
    listGroup serde configCheckpointId (none : Option (CheckpointMetadata V)) none s t ns =
      ((sortDesc (s.checkpointsAt t ns).entries).map (listTuple serde s t ns) :
        List (CheckpointTuple V R)) := by
  simp [listGroup, listSelects, hid]

/-- `list` and `get_tuple` agree. Every tuple `list` yields is what `get_tuple` returns on its
own config; and on a config naming a thread and a namespace but no checkpoint id, `get_tuple`
returns the first tuple `list` yields, `None` when it yields none, and that tuple is the stored
checkpoint with the greatest id. -/
theorem list_agrees_getTuple [DecidableEq V] [PyNone V] (s : InMemorySaver)
    (hids : ∀ t ns, ∀ id ∈ (s.checkpointsAt t ns).keys, id ≠ "") :
    (∀ config filter before limit (items : List (CheckpointTuple V R)),
      list serde s config filter before limit = .ok items →
        ∀ τ ∈ items, (getTuple serde s τ.config).2 = .ok (some τ)) ∧
    (∀ config t ns, config.threadId = some t → config.checkpointNs = some ns →
      truthy (getCheckpointId config) = none →
      ∃ items : List (CheckpointTuple V R),
        list serde s (some config) none none none = .ok items ∧
        (getTuple serde s config).2 = .ok items.head? ∧
        ∀ τ ∈ items.head?, ∃ id saved, (s.checkpointsAt t ns).get id = some saved ∧
          τ = listTuple serde s t ns (id, saved) ∧
          ∀ id' ∈ (s.checkpointsAt t ns).keys, id' ≤ id) := by
  constructor
  · intro config filter before limit items h τ hτ
    rw [list_eq_ok serde s config filter before limit (list_ok_threadId serde h),
      Except.ok.injEq] at h
    subst h
    obtain ⟨t, ns, e, he, rfl⟩ := mem_listGroups serde (takeLimit_fst_subset _ _ hτ)
    exact getTuple_listTuple serde s he (hids t ns _ (List.mem_map_of_mem _ he))
  · intro config t ns ht hns hid
    have hitems : (takeLimit none (listGroups serde s (some config) none none)).1 =
        (sortDesc (s.checkpointsAt t ns).entries).map (listTuple serde s t ns) := by
      rw [takeLimit, listGroups_of_ns serde s ht hns, listGroup_unfiltered serde s hid]
    refine ⟨_, list_eq_ok serde s _ none none none (by simp [ht]), ?_, ?_⟩
    · rw [getTuple_snd_of_latest serde s ht hid, hitems, List.head?_map, head?_sortDesc, hns,
        Option.map_bind]
      simp only [Option.getD_some, Option.map_map, Function.comp_def]
      rfl
    · rw [hitems, List.head?_map, head?_sortDesc]
      intro τ hτ
      obtain ⟨⟨id, saved⟩, hx, rfl⟩ := Option.map_eq_some'.1 hτ
      obtain ⟨id', hm, hg⟩ := Option.bind_eq_some.1 hx
      obtain ⟨saved', hg', hpair⟩ := Option.map_eq_some'.1 hg
      cases hpair
      exact ⟨id, saved, hg', rfl, (List.max?_le_iff (fun _ _ _ => max_le_iff) hm).1 le_rfl⟩

theorem list_agrees_getTuple_one :
    (∀ t ns, ∀ id ∈ (oneCheckpoint.checkpointsAt t ns).keys, id ≠ "") ∧
    (∀ config filter before limit (items : List (CheckpointTuple Unit Unit)),
      list unitSerde oneCheckpoint config filter before limit = .ok items →
        ∀ τ ∈ items, (getTuple unitSerde oneCheckpoint τ.config).2 = .ok (some τ)) ∧
    (∀ config t ns, config.threadId = some t → config.checkpointNs = some ns →
      truthy (getCheckpointId config) = none →
      ∃ items : List (CheckpointTuple Unit Unit),
        list unitSerde oneCheckpoint (some config) none none none = .ok items ∧
        (getTuple unitSerde oneCheckpoint config).2 = .ok items.head? ∧
        ∀ τ ∈ items.head?, ∃ id saved, (oneCheckpoint.checkpointsAt t ns).get id = some saved ∧
          τ = listTuple unitSerde oneCheckpoint t ns (id, saved) ∧
          ∀ id' ∈ (oneCheckpoint.checkpointsAt t ns).keys, id' ≤ id) := by
  have hstorage : oneCheckpoint.storage = (∅ : Dict String _).set "t"
      ((∅ : Dict String _).set "" ((∅ : Dict String Saved).set "1"
        (⟨"checkpoint", []⟩, ⟨"metadata", []⟩, none))) := by
    decide
  have hids : ∀ t ns, ∀ id ∈ (oneCheckpoint.checkpointsAt t ns).keys, id ≠ "" := by
    intro t ns id hid
    rw [Dict.mem_keys, checkpointsAt, hstorage] at hid
    by_cases ht : t = "t" <;> by_cases hns : ns = "" <;> by_cases h : id = "1" <;>
      simp_all [Dict.getD]
  exact ⟨hids, list_agrees_getTuple unitSerde oneCheckpoint hids⟩

end InMemorySaver

end CheckpointSaver
