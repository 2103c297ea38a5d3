import CheckpointSaver.FailedPut

/-!
# Runs of several clients

One `InMemorySaver` serves every thread of a graph, and the calls its clients make interleave.
This module shows that no client sees how. A call changes a namespace only when it is a `put`
or a `put_writes` addressed to it, or `delete_thread` of its thread (`Op.touchesNs`); what the
namespace holds after a run is then what it holds after the run's calls addressed to it, in
their order, with every read and every call on another namespace taken out
(`getTuple_run_filter_ns`). What `list` shows of a thread also depends on the order in which the
thread's namespaces were first met, which a `get_tuple` on the thread can fix as well; that is
what it shows after the run's calls naming the thread (`list_run_filter_thread`).

**A retried `put` changes nothing more** (`put_put`). Every table `put` writes it writes from
its arguments alone: the blobs of `new_versions`, set once more to the same values, and the
checkpoint of its `id`. So a `put` made again with the same arguments, on the tables the first
call left, returns or raises as the first did and leaves the tables exactly as they were, the
order of every key included; whether the first call returned or raised partway. And a `put`
and a `put_writes` commute, whatever their configs (`put_putWrites_comm`): they write different
tables, and neither reads what the other writes.

## The theorems, and what each rests on

* `getTuple_run_filter_ns`: a call that does not touch a namespace leaves it as it was
  (`sameNs_exec_of_not_touchesNs`, from `sameNs_put`, `sameNs_putWrites`, `sameNs_deleteThread`
  and, for the reads, `obsEq_exec_read`), and what a call does to a namespace depends on the
  namespace only (`SameNs.run`); one induction over the run then drops the calls.
* `list_run_filter_thread`: the same over a thread's namespaces and their order
  (`sameThread_exec_of_not_namesThread`), then `list_congr_thread` and
  `list_none_congr_thread`.
* `put_put`: `put_blobs`, `put_writes` and `storage_put` say what `put` does to each table in
  terms of state-independent views; setting the same blobs twice is setting them once
  (`Dict.setMany_setMany_self`), and reading or recording into a namespace twice is doing it once
  (`storage_touchNs_touchNs`, `storage_record_record`).
* `put_putWrites_comm`: what `put` leaves in `storage` depends on `storage` alone
  (`storage_put_congr`), and what `put_writes` leaves and returns on `writes` alone
  (`putWrites_congr_writes`).
-/

namespace CheckpointSaver

/-- Whether a call can change namespace `(t, ns)`: a `put` or a `put_writes` addressed to it,
or `delete_thread(t)`. A read changes no namespace, whatever empty containers it leaves. -/
def Op.touchesNs {V R : Type} (t ns : String) : Op V R → Bool
  | .put config _ _ _ => config.threadId = some t ∧ config.checkpointNs = some ns
  | .putWrites config _ _ _ => config.threadId = some t ∧ config.checkpointNs.getD "" = ns
  | .deleteThread t' => t' = t
  | _ => false

/-- Whether a call names thread `t`: a `get_tuple`, a `put` or a `put_writes` on a config of it,
or `delete_thread(t)`. `list` is left out: it changes the order of no thread's namespaces. -/
def Op.namesThread {V R : Type} (t : String) : Op V R → Bool
  | .getTuple config => config.threadId = some t
  | .put config _ _ _ => config.threadId = some t
  | .putWrites config _ _ _ => config.threadId = some t
  | .deleteThread t' => t' = t
  | .list _ _ _ _ _ => false

theorem Op.touchesNs_eq_false {V R : Type} {t : String} {op : Op V R}
    (h : op.namesThread t = false) (ns : String) : op.touchesNs t ns = false := by
  cases op <;> simp_all [Op.namesThread, Op.touchesNs]

namespace InMemorySaver

@[ext]
theorem ext {s s' : InMemorySaver} (h₁ : s.storage = s'.storage) (h₂ : s.writes = s'.writes)
    (h₃ : s.blobs = s'.blobs) : s = s' := by
  cases s
  cases s'
  cases h₁
  cases h₂
  cases h₃
  rfl

variable {V R : Type} (serde : SerializerProtocol V R)

/-! ### Calls a namespace does not see -/

section Namespaces

variable [DecidableEq V] [PyNone V] (writesIdxMap : WritesIdxMap)
  (getCheckpointMetadata : RunnableConfig → CheckpointMetadata V → CheckpointMetadata V)

/-- A call that does not touch a namespace leaves it as it was. -/
theorem sameNs_exec_of_not_touchesNs (s : InMemorySaver) {t ns : String} {op : Op V R}
    (h : op.touchesNs t ns = false) :
    SameNs t ns (exec serde writesIdxMap getCheckpointMetadata s op) s := by
  cases op with
  | getTuple config =>
    exact obsEq_exec_read serde writesIdxMap getCheckpointMetadata s
      (show (Op.getTuple config : Op V R).isRead from rfl) t ns
  | list config filter before limit drawn =>
    exact obsEq_exec_read serde writesIdxMap getCheckpointMetadata s
      (show (Op.list config filter before limit drawn : Op V R).isRead from rfl) t ns
  | put config checkpoint metadata newVersions =>
    rcases ht : config.threadId with _ | t'
    · show SameNs t ns (put serde getCheckpointMetadata s config checkpoint metadata newVersions).1 s
      simp only [put, ht]
      exact SameNs.refl t ns s
    rcases hns : config.checkpointNs with _ | ns'
    · show SameNs t ns (put serde getCheckpointMetadata s config checkpoint metadata newVersions).1 s
      simp only [put, ht, hns]
      exact SameNs.refl t ns s
    refine sameNs_put serde writesIdxMap getCheckpointMetadata s ht hns checkpoint metadata
      newVersions fun he => ?_
    cases he
    simp [Op.touchesNs, ht, hns] at h
  | putWrites config writes taskId taskPath =>
    rcases ht : config.threadId with _ | t'
    · show SameNs t ns (putWrites serde writesIdxMap s config writes taskId taskPath).1 s
      simp only [putWrites, ht]
      exact SameNs.refl t ns s
    refine sameNs_putWrites serde writesIdxMap getCheckpointMetadata s ht writes taskId taskPath
      fun he => ?_
    cases he
    simp [Op.touchesNs, ht] at h
  | deleteThread t' =>
    exact sameNs_deleteThread serde writesIdxMap getCheckpointMetadata s
      (by simpa [Op.touchesNs, eq_comm] using h) ns

/-- A run holds in a namespace what the run's calls touching the namespace alone hold there. -/
theorem sameNs_run_filter (t ns : String) (s : InMemorySaver) (ops : List (Op V R)) :
    SameNs t ns (run serde writesIdxMap getCheckpointMetadata s ops)
      (run serde writesIdxMap getCheckpointMetadata s (ops.filter (Op.touchesNs t ns))) := by
  induction ops generalizing s with
  | nil => exact SameNs.refl t ns s
  | cons op ops ih =>
    by_cases h : op.touchesNs t ns = true
    · rw [List.filter_cons_of_pos h, run_cons, run_cons]
      exact ih _
    · rw [List.filter_cons_of_neg h, run_cons]
      exact (ih _).trans ((sameNs_exec_of_not_touchesNs serde writesIdxMap getCheckpointMetadata s
        (by simpa using h)).run serde writesIdxMap getCheckpointMetadata _)

/-- **Each namespace sees only its own calls.** After any run from any state, a namespace holds
(its checkpoints, its blobs and its write buffers), and `get_tuple` returns on every config of
it, what they are after the run's calls addressed to the namespace alone, in their order: its
`put`s and `put_writes`, and `delete_thread` of its thread. Every read, and every call on
another namespace, can be taken out of the run. -/
theorem getTuple_run_filter_ns (s : InMemorySaver) (ops : List (Op V R)) (t ns : String) :
    SameNs t ns (run serde writesIdxMap getCheckpointMetadata s ops)
        (run serde writesIdxMap getCheckpointMetadata s (ops.filter (Op.touchesNs t ns))) ∧
      ∀ config : RunnableConfig, config.threadId = some t → config.checkpointNs.getD "" = ns →
        (getTuple serde (run serde writesIdxMap getCheckpointMetadata s ops) config).2 =
          ((getTuple serde (run serde writesIdxMap getCheckpointMetadata s
            (ops.filter (Op.touchesNs t ns))) config).2 :
              Except String (Option (CheckpointTuple V R))) := by
  have h := sameNs_run_filter serde writesIdxMap getCheckpointMetadata t ns s ops
  refine ⟨h, fun config ht hns => ?_⟩
  subst hns
  exact getTuple_snd_congr serde ht h

end Namespaces

/-! ### Calls a thread does not see -/

section Threads

variable [DecidableEq V] [PyNone V] (writesIdxMap : WritesIdxMap)
  (getCheckpointMetadata : RunnableConfig → CheckpointMetadata V → CheckpointMetadata V)

theorem SameThread.trans {t : String} {s s' s'' : InMemorySaver} (h : SameThread t s s')
    (h' : SameThread t s' s'') : SameThread t s s'' :=
  ⟨h.order.trans h'.order, fun ns => (h.sameNs ns).trans (h'.sameNs ns)⟩

/-- A call that does not name a thread leaves the order of its namespaces as it was. -/
theorem namespaces_exec_of_not_namesThread (s : InMemorySaver) {t : String} {op : Op V R}
    (h : op.namesThread t = false) :
    namespaces (exec serde writesIdxMap getCheckpointMetadata s op) t = namespaces s t := by
  cases op with
  | getTuple config =>
    show namespaces (getTuple serde s config).1 t = _
    rw [namespaces_getTuple]
    rcases ht : config.threadId with _ | t'
    · rfl
    · dsimp only
      rw [namespaces_touchNs, if_neg]
      rintro rfl
      simp [Op.namesThread, ht] at h
  | list config filter before limit drawn =>
    simp only [exec]
    split
    · exact namespaces_listDrawn s config _ drawn t
    · rfl
  | put config checkpoint metadata newVersions =>
    show namespaces (put serde getCheckpointMetadata s config checkpoint metadata newVersions).1 t = _
    rw [namespaces_put]
    split
    · next t₁ ns₁ hput =>
      rw [namespaces_touchNs, if_neg]
      rintro rfl
      simp [Op.namesThread, (putTarget_eq_some serde hput).1] at h
    · rfl
  | putWrites config writes taskId taskPath =>
    show namespaces (putWrites serde writesIdxMap s config writes taskId taskPath).1 t = _
    rw [namespaces, (putWrites_fst serde writesIdxMap taskId taskPath s config writes).1]
    rfl
  | deleteThread t' =>
    show namespaces (s.deleteThread t') t = _
    rw [namespaces_deleteThread, if_neg (by simpa [Op.namesThread, eq_comm] using h)]

/-- A call that does not name a thread leaves the thread as it was. -/
theorem sameThread_exec_of_not_namesThread (s : InMemorySaver) {t : String} {op : Op V R}
    (h : op.namesThread t = false) :
    SameThread t (exec serde writesIdxMap getCheckpointMetadata s op) s :=
  ⟨namespaces_exec_of_not_namesThread serde writesIdxMap getCheckpointMetadata s h,
    fun ns => sameNs_exec_of_not_touchesNs serde writesIdxMap getCheckpointMetadata s
      (Op.touchesNs_eq_false h ns)⟩

/-- A run holds in a thread what the run's calls naming the thread alone hold there. -/
theorem sameThread_run_filter (t : String) (s : InMemorySaver) (ops : List (Op V R)) :
    SameThread t (run serde writesIdxMap getCheckpointMetadata s ops)
      (run serde writesIdxMap getCheckpointMetadata s (ops.filter (Op.namesThread t))) := by
  induction ops generalizing s with
  | nil => exact ⟨rfl, fun ns => SameNs.refl t ns s⟩
  | cons op ops ih =>
    by_cases h : op.namesThread t = true
    · rw [List.filter_cons_of_pos h, run_cons, run_cons]
      exact ih _
    · rw [List.filter_cons_of_neg h, run_cons]
      exact (ih _).trans ((sameThread_exec_of_not_namesThread serde writesIdxMap
        getCheckpointMetadata s (by simpa using h)).run serde writesIdxMap getCheckpointMetadata _)

/-- **Each thread sees only its own calls.** After any run from any state, a thread holds what it
holds after the run's calls naming it alone, in their order: its `get_tuple`s, `put`s and
`put_writes`, and `delete_thread` of it. So every `list` on a config of the thread yields the
same tuples in the same order, whatever its filter, `before` and `limit`, and so does the
thread's part of every `list(None)`. Every `list`, and every call on another thread, can be
taken out of the run. -/
theorem list_run_filter_thread (s : InMemorySaver) (ops : List (Op V R)) (t : String) :
    SameThread t (run serde writesIdxMap getCheckpointMetadata s ops)
        (run serde writesIdxMap getCheckpointMetadata s (ops.filter (Op.namesThread t))) ∧
      (∀ config : RunnableConfig, config.threadId = some t → ∀ filter before limit,
        (list serde (run serde writesIdxMap getCheckpointMetadata s ops) (some config) filter
            before limit : Except String (List (CheckpointTuple V R))) =
          list serde (run serde writesIdxMap getCheckpointMetadata s
            (ops.filter (Op.namesThread t))) (some config) filter before limit) ∧
      ∀ filter before,
        (list serde (run serde writesIdxMap getCheckpointMetadata s ops) none filter before
            none).map (List.filter fun τ => (tupleGroup τ).1 = some t) =
          ((list serde (run serde writesIdxMap getCheckpointMetadata s
            (ops.filter (Op.namesThread t))) none filter before none).map
              (List.filter fun τ => (tupleGroup τ).1 = some t) :
                Except String (List (CheckpointTuple V R))) := by
  have h := sameThread_run_filter serde writesIdxMap getCheckpointMetadata t s ops
  exact ⟨h, fun config ht filter before limit => list_congr_thread serde h ht filter before limit,
    fun filter before => list_none_congr_thread serde h filter before⟩

end Threads

/-! ### A retried `put` -/

section Compose

variable (getCheckpointMetadata : RunnableConfig → CheckpointMetadata V → CheckpointMetadata V)

theorem storage_touchNs_congr {s s' : InMemorySaver} (h : s.storage = s'.storage) (t ns : String) :
    (s.touchNs t ns).storage = (s'.touchNs t ns).storage := by
  unfold touchNs
  rw [h]

theorem storage_touchNs_touchNs (s : InMemorySaver) (t ns : String) :
    ((s.touchNs t ns).touchNs t ns).storage = (s.touchNs t ns).storage := by
  simp only [touchNs, Dict.getD_set_self, Dict.setdefault_setdefault, Dict.set_set]

theorem storage_record_record (s : InMemorySaver) (t ns id : String) (saved : Saved) :
    ((s.record t ns id saved).record t ns id saved).storage = (s.record t ns id saved).storage := by
  simp only [record, checkpointsAt, Dict.getD_set_self, Dict.set_set]

/-- What `put` returns, or raises, depends on its arguments alone. -/
theorem put_snd_congr (s s' : InMemorySaver) (config : RunnableConfig)
    (checkpoint : Checkpoint V R) (metadata : CheckpointMetadata V)
    (newVersions : Dict String String) :
    (put serde getCheckpointMetadata s config checkpoint metadata newVersions).2 =
      (put serde getCheckpointMetadata s' config checkpoint metadata newVersions).2 := by
  unfold put
  rcases config.threadId with _ | t <;> rcases config.checkpointNs with _ | ns <;>
    rcases checkpoint.channelValues with _ | values <;> try rfl
  dsimp only
  split
  · rfl
  · split <;> rfl

/-- **A retried `put` changes nothing more.** Made again with the same arguments on the tables it
left, `put` returns or raises as it did, and leaves the tables exactly as they were, the order of
every key included: whether the first call returned or raised partway. -/
theorem put_put (s : InMemorySaver) (config : RunnableConfig) (checkpoint : Checkpoint V R)
    (metadata : CheckpointMetadata V) (newVersions : Dict String String) :
    put serde getCheckpointMetadata
        (put serde getCheckpointMetadata s config checkpoint metadata newVersions).1 config
        checkpoint metadata newVersions =
      put serde getCheckpointMetadata s config checkpoint metadata newVersions := by
  set s₁ := (put serde getCheckpointMetadata s config checkpoint metadata newVersions).1
  refine Prod.ext (InMemorySaver.ext ?_ ?_ ?_) (put_snd_congr serde getCheckpointMetadata _ _ _ _ _ _)
  · have h₁ := storage_put serde getCheckpointMetadata s₁ config checkpoint metadata newVersions
    have h₂ := storage_put serde getCheckpointMetadata s config checkpoint metadata newVersions
    rcases hrec : putRecord serde getCheckpointMetadata config checkpoint metadata newVersions with
      _ | ⟨t, ns, id, saved⟩
    · rcases htar : putTarget serde config checkpoint newVersions with _ | ⟨t, ns⟩ <;>
        simp only [hrec, htar] at h₁ h₂
      · exact h₁
      · rw [h₁, storage_touchNs_congr h₂, storage_touchNs_touchNs, h₂]
    · simp only [hrec] at h₁ h₂
      rw [h₁, storage_record_congr h₂, storage_record_record, h₂]
  · rw [put_writes, put_writes]
  · rw [put_blobs, put_blobs, Dict.setMany_setMany_self]

/-! ### `put` and `put_writes` commute -/

theorem storage_put_congr {s s' : InMemorySaver} (h : s.storage = s'.storage)
    (config : RunnableConfig) (checkpoint : Checkpoint V R) (metadata : CheckpointMetadata V)
    (newVersions : Dict String String) :
    (put serde getCheckpointMetadata s config checkpoint metadata newVersions).1.storage =
      (put serde getCheckpointMetadata s' config checkpoint metadata newVersions).1.storage := by
  rw [storage_put, storage_put]
  split
  · exact storage_record_congr h _ _ _ _
  · split
    · exact storage_touchNs_congr h _ _
    · exact h

theorem putWrites_congr_writes (writesIdxMap : WritesIdxMap) {s s' : InMemorySaver}
    (h : s.writes = s'.writes) (config : RunnableConfig) (writes : List (String × V))
    (taskId taskPath : String) :
    (putWrites serde writesIdxMap s config writes taskId taskPath).1.writes =
        (putWrites serde writesIdxMap s' config writes taskId taskPath).1.writes ∧
      (putWrites serde writesIdxMap s config writes taskId taskPath).2 =
        (putWrites serde writesIdxMap s' config writes taskId taskPath).2 := by
  unfold putWrites
  split <;> simp only [h, and_self]

/-- **`put` and `put_writes` commute.** Whatever their configs, the same namespace or another,
a `put` and a `put_writes` leave the same tables in either order, and each returns or raises as
it would alone: `put` writes `storage` and `blobs` from its arguments, `put_writes` writes
`writes`, and neither reads what the other writes. -/
theorem put_putWrites_comm (writesIdxMap : WritesIdxMap) (s : InMemorySaver)
    (config : RunnableConfig) (checkpoint : Checkpoint V R) (metadata : CheckpointMetadata V)
    (newVersions : Dict String String) (config' : RunnableConfig) (writes : List (String × V))
    (taskId taskPath : String) :
    (putWrites serde writesIdxMap
        (put serde getCheckpointMetadata s config checkpoint metadata newVersions).1 config'
        writes taskId taskPath).1 =
      (put serde getCheckpointMetadata
        (putWrites serde writesIdxMap s config' writes taskId taskPath).1 config checkpoint
        metadata newVersions).1 ∧
    (putWrites serde writesIdxMap
        (put serde getCheckpointMetadata s config checkpoint metadata newVersions).1 config'
        writes taskId taskPath).2 =
      (putWrites serde writesIdxMap s config' writes taskId taskPath).2 ∧
    (put serde getCheckpointMetadata (putWrites serde writesIdxMap s config' writes taskId
        taskPath).1 config checkpoint metadata newVersions).2 =
      (put serde getCheckpointMetadata s config checkpoint metadata newVersions).2 := by
  have hw := putWrites_congr_writes serde writesIdxMap
    (put_writes serde getCheckpointMetadata s config checkpoint metadata newVersions) config'
    writes taskId taskPath
  have hp := putWrites_fst serde writesIdxMap taskId taskPath
  refine ⟨InMemorySaver.ext ?_ ?_ ?_, hw.2, put_snd_congr serde getCheckpointMetadata _ _ _ _ _ _⟩
  · rw [(hp _ config' writes).1]
    exact storage_put_congr serde getCheckpointMetadata (hp s config' writes).1.symm _ _ _ _
  · rw [hw.1, put_writes]
  · rw [(hp _ config' writes).2, put_blobs, put_blobs, (hp s config' writes).2]

end Compose

end InMemorySaver

end CheckpointSaver
