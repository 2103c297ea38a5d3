import CheckpointSaver.History

/-!
# Pending writes

The spec's rule for a checkpoint's write buffer is per write: under key `(task_id, i)`, a write
with `i ≥ 0` is dropped when the buffer already holds the key, and any other write is stored
(`storeWrite`). Folded over the writes a run produces, the rule keeps the earliest write of each
key with `i ≥ 0` and the last of each key with `i < 0` (`get_foldl_storeWrite`).

`put_writes` does not check the buffer as it is: it checks a snapshot `outer_writes_`, taken
before its loop, which is `None` when the buffer was absent and otherwise the buffer itself,
live. So the code drops a write only when the buffer existed before the call. That is the rule
all the same (`putWritesLoop_getD`): when the buffer was absent, the call's own keys with
`i ≥ 0` are its positions, all distinct, and `WRITES_IDX_MAP`'s indices are negative, so the
live check would drop nothing either (`KeysBefore`).

`producedWrites` lists the writes a call produces on a buffer, keyed, the call stopping at the
first write the buffer does not drop and the serializer refuses. The buffer after the call is
the rule folded over them (`writesAt_putWrites`), and what a run leaves in a buffer is the rule
folded over what its calls produced, call after call (`writesAt_run`). From there: a repeated
call changes nothing (`putWrites_putWrites`), and calls of different tasks, which produce
disjoint keys and whose drops read only their own keys, commute up to the order of the
buffer's items (`writesAt_putWrites_comm`).
-/

namespace CheckpointSaver

namespace InMemorySaver

/-- A checkpoint's write buffer: `(task_id, idx)` → pending write. -/
abbrev WriteBuffer :=
  Dict (String × Int) PendingWrite

/-! ### The buffer rule -/

/-- The spec's rule for a write reaching a buffer: a write with a non-negative index whose key
the buffer holds is dropped, and any other write is stored under its key. -/
def storeWrite (B : WriteBuffer) (kw : (String × Int) × PendingWrite) : WriteBuffer :=
  if 0 ≤ kw.1.2 ∧ (B.get kw.1).isSome then B else B.set kw.1 kw.2

/-- The first write under key `k`. -/
def firstWrite (ws : List ((String × Int) × PendingWrite)) (k : String × Int) :
    Option PendingWrite :=
  (ws.find? fun kw => kw.1 = k).map Prod.snd

/-- The last write under key `k`. -/
def lastWrite (ws : List ((String × Int) × PendingWrite)) (k : String × Int) :
    Option PendingWrite :=
  firstWrite ws.reverse k

theorem firstWrite_cons (kw : (String × Int) × PendingWrite) (ws : List ((String × Int) × PendingWrite))
    (k : String × Int) :
    firstWrite (kw :: ws) k = if kw.1 = k then some kw.2 else firstWrite ws k := by
  by_cases h : kw.1 = k <;> simp [firstWrite, List.find?_cons, h]

theorem lastWrite_cons (kw : (String × Int) × PendingWrite) (ws : List ((String × Int) × PendingWrite))
    (k : String × Int) :
    lastWrite (kw :: ws) k = (lastWrite ws k).or (if kw.1 = k then some kw.2 else none) := by
  simp only [lastWrite, firstWrite, List.reverse_cons, List.find?_append, List.find?_singleton]
  cases List.find? (fun kw => decide (kw.1 = k)) ws.reverse <;> by_cases h : kw.1 = k <;> simp [h]

theorem firstWrite_isSome {ws : List ((String × Int) × PendingWrite)} {kw} (h : kw ∈ ws) :
    (firstWrite ws kw.1).isSome := by
  rw [firstWrite, Option.isSome_map', List.find?_isSome]
  exact ⟨kw, h, by simp⟩

/-- **The rule, folded.** After a sequence of writes, a key with a non-negative index holds the
buffer's entry or else the earliest write under it, and a key with a negative index the last
write under it or else the buffer's entry. -/
theorem get_foldl_storeWrite (B : WriteBuffer) (ws : List ((String × Int) × PendingWrite))
    (k : String × Int) :
    (ws.foldl storeWrite B).get k =
      if 0 ≤ k.2 then (B.get k).or (firstWrite ws k) else (lastWrite ws k).or (B.get k) := by
  induction ws generalizing B with
  | nil => by_cases hk : 0 ≤ k.2 <;> simp [firstWrite, lastWrite, hk]
  | cons kw ws ih =>
    rw [List.foldl_cons, ih, firstWrite_cons, lastWrite_cons]
    unfold storeWrite
    by_cases hkw : kw.1 = k
    · subst hkw
      by_cases hk : 0 ≤ kw.1.2
      · cases hB : B.get kw.1 <;> simp [hB, hk]
      · cases lastWrite ws kw.1 <;> simp [hk]
    · split_ifs <;> simp [Dict.get_set_ne _ _ (Ne.symm hkw), hkw, Option.or_assoc]

theorem firstWrite_eq_none {ws : List ((String × Int) × PendingWrite)} {k : String × Int}
    (h : ∀ kw ∈ ws, kw.1 ≠ k) : firstWrite ws k = none := by
  rw [firstWrite, Option.map_eq_none', List.find?_eq_none]
  simpa only [decide_eq_true_eq] using h

theorem get_foldl_storeWrite_of_forall_ne {B : WriteBuffer}
    {ws : List ((String × Int) × PendingWrite)} {k : String × Int} (h : ∀ kw ∈ ws, kw.1 ≠ k) :
    (ws.foldl storeWrite B).get k = B.get k := by
  rw [get_foldl_storeWrite, firstWrite_eq_none h, lastWrite,
    firstWrite_eq_none fun kw hkw => h kw (List.mem_reverse.1 hkw)]
  split_ifs <;> simp

theorem isSome_get_foldl_storeWrite {B : WriteBuffer} {ws : List ((String × Int) × PendingWrite)}
    {k : String × Int} (h : (B.get k).isSome ∨ ∃ kw ∈ ws, kw.1 = k) :
    ((ws.foldl storeWrite B).get k).isSome := by
  rw [get_foldl_storeWrite]
  rcases h with h | ⟨kw, hkw, rfl⟩
  · obtain ⟨w, hw⟩ := Option.isSome_iff_exists.1 h
    split_ifs
    · simp [hw]
    · cases lastWrite ws k <;> simp [hw]
  · obtain ⟨w, hw⟩ := Option.isSome_iff_exists.1 (firstWrite_isSome hkw)
    obtain ⟨w', hw'⟩ := Option.isSome_iff_exists.1 (firstWrite_isSome (List.mem_reverse.2 hkw))
    split_ifs
    · cases B.get kw.1 <;> simp [hw]
    · simp [lastWrite, hw']

/-- The rule adds no key the buffer already holds. -/
theorem keys_foldl_storeWrite_of_mem {B : WriteBuffer} {ws : List ((String × Int) × PendingWrite)}
    (h : ∀ kw ∈ ws, (B.get kw.1).isSome) : (ws.foldl storeWrite B).keys = B.keys := by
  induction ws generalizing B with
  | nil => rfl
  | cons kw ws ih =>
    have hmem : kw.1 ∈ B.keys := Dict.mem_keys.2 (h kw (List.mem_cons_self _ _))
    have hstore : storeWrite B kw = B ∨ storeWrite B kw = B.set kw.1 kw.2 := by
      unfold storeWrite; split_ifs <;> simp
    have hkeys : (storeWrite B kw).keys = B.keys := by
      rcases hstore with h' | h' <;> simp [h', Dict.keys_set, hmem]
    rw [List.foldl_cons, ih, hkeys]
    intro kw' hkw'
    rw [← Dict.mem_keys, hkeys, Dict.mem_keys]
    exact h kw' (List.mem_cons_of_mem _ hkw')

/-- Folding the rule twice over the same writes is folding it once. -/
theorem foldl_storeWrite_idem (B : WriteBuffer) (ws : List ((String × Int) × PendingWrite)) :
    ws.foldl storeWrite (ws.foldl storeWrite B) = ws.foldl storeWrite B := by
  refine Dict.ext_of_keys_get (keys_foldl_storeWrite_of_mem fun kw hkw =>
    isSome_get_foldl_storeWrite (.inr ⟨kw, hkw, rfl⟩)) fun k => ?_
  rw [get_foldl_storeWrite, get_foldl_storeWrite]
  split_ifs
  · cases B.get k <;> cases firstWrite ws k <;> rfl
  · cases lastWrite ws k <;> rfl

theorem get_foldl_storeWrite_congr {B B' : WriteBuffer} {k : String × Int} (h : B.get k = B'.get k)
    (ws : List ((String × Int) × PendingWrite)) :
    (ws.foldl storeWrite B).get k = (ws.foldl storeWrite B').get k := by
  rw [get_foldl_storeWrite, get_foldl_storeWrite, h]

theorem isSome_get_storeWrite (B : WriteBuffer) (kw : (String × Int) × PendingWrite)
    (k : String × Int) :
    ((storeWrite B kw).get k).isSome ↔ (B.get k).isSome ∨ kw.1 = k := by
  unfold storeWrite
  split_ifs with h
  · constructor
    · exact .inl
    · rintro (h' | rfl)
      exacts [h', h.2]
  · by_cases hk : k = kw.1
    · subst hk; simp
    · simp [hk, Ne.symm hk]

/-! ### What a call produces -/

variable {V : Type}

section Call

variable (values : Codec V) (writesIdxMap : WritesIdxMap) (taskId taskPath : String)

/-- The writes a `put_writes` call of task `taskId` produces on buffer `B`, keyed: the write at
position `idx` on channel `c` under `(task_id, WRITES_IDX_MAP.get(c, idx))`, with its serialized
value, each in turn, until a write that the buffer does not drop fails to serialize, where the
call raises. (The code serializes only the writes it stores: a dropped write is listed with the
value it serializes to, and left out when it serializes to none.) -/
def producedWrites (B : WriteBuffer) :
    Nat → List (String × V) → List ((String × Int) × PendingWrite)
  | _, [] => []
  | idx, (c, v) :: rest =>
    let k : String × Int := (taskId, (writesIdxMap.get c).getD idx)
    match values.dumpsTyped v with
    | .ok b =>
      (k, (taskId, c, b, taskPath)) ::
        producedWrites (storeWrite B (k, (taskId, c, b, taskPath))) (idx + 1) rest
    | .error _ => if 0 ≤ k.2 ∧ (B.get k).isSome then producedWrites B (idx + 1) rest else []

theorem task_of_mem_producedWrites {B : WriteBuffer} {idx : Nat} {ws : List (String × V)}
    {kw : (String × Int) × PendingWrite}
    (h : kw ∈ producedWrites values writesIdxMap taskId taskPath B idx ws) : kw.1.1 = taskId := by
  induction ws generalizing B idx with
  | nil => cases h
  | cons cv ws ih =>
    obtain ⟨c, v⟩ := cv
    simp only [producedWrites] at h
    split at h
    · rcases List.mem_cons.1 h with rfl | h
      exacts [rfl, ih h]
    · split_ifs at h
      exacts [ih h, absurd h (List.not_mem_nil _)]

/-- What a call produces depends on the buffer only through which of the task's keys with a
non-negative index it holds. -/
theorem producedWrites_congr {B B' : WriteBuffer}
    (h : ∀ k : String × Int, k.1 = taskId → 0 ≤ k.2 → ((B.get k).isSome ↔ (B'.get k).isSome))
    (idx : Nat) (ws : List (String × V)) :
    producedWrites values writesIdxMap taskId taskPath B idx ws =
      producedWrites values writesIdxMap taskId taskPath B' idx ws := by
  induction ws generalizing B B' idx with
  | nil => rfl
  | cons cv ws ih =>
    obtain ⟨c, v⟩ := cv
    simp only [producedWrites]
    split
    · congr 1
      refine ih (fun k hk hk₀ => ?_) _
      rw [isSome_get_storeWrite, isSome_get_storeWrite, h k hk hk₀]
    · have hk := h (taskId, (writesIdxMap.get c).getD idx) rfl
      by_cases h₀ : 0 ≤ (writesIdxMap.get c).getD idx
      · simp only [h₀, true_and, hk h₀]
        split_ifs
        exacts [ih h _, rfl]
      · simp only [h₀, false_and, if_false]

/-- A call run again on the buffer it left produces the same writes. -/
theorem producedWrites_foldl (B : WriteBuffer) (idx : Nat) (ws : List (String × V)) :
    producedWrites values writesIdxMap taskId taskPath
        ((producedWrites values writesIdxMap taskId taskPath B idx ws).foldl storeWrite B) idx ws =
      producedWrites values writesIdxMap taskId taskPath B idx ws := by
  induction ws generalizing B idx with
  | nil => rfl
  | cons cv ws ih =>
    obtain ⟨c, v⟩ := cv
    set k : String × Int := (taskId, (writesIdxMap.get c).getD idx)
    rcases hv : values.dumpsTyped v with e | b
    · by_cases hd : 0 ≤ k.2 ∧ (B.get k).isSome
      · simp only [producedWrites, hv, if_pos hd]
        rw [if_pos ⟨hd.1, isSome_get_foldl_storeWrite (.inl hd.2)⟩, ih]
      · simp [producedWrites, hv, hd]
    · simp only [producedWrites, hv, List.foldl_cons]
      congr 1
      set kw : (String × Int) × PendingWrite := (k, (taskId, c, b, taskPath))
      set B₁ := (producedWrites values writesIdxMap taskId taskPath (storeWrite B kw) (idx + 1) ws).foldl
        storeWrite (storeWrite B kw)
      have hmem : (B₁.get kw.1).isSome :=
        isSome_get_foldl_storeWrite (.inl ((isSome_get_storeWrite _ _ _).2 (.inr rfl)))
      have hsame : ∀ k : String × Int, k.1 = taskId → 0 ≤ k.2 →
          (((storeWrite B₁ kw).get k).isSome ↔ (B₁.get k).isSome) := fun k _ _ => by
        rw [isSome_get_storeWrite]
        exact ⟨fun h => h.elim id (· ▸ hmem), .inl⟩
      rw [producedWrites_congr values writesIdxMap taskId taskPath hsame, ih]

end Call

/-! ### The snapshot check is the rule -/

section Code

variable {R : Type} (serde : SerializerProtocol V R) (writesIdxMap : WritesIdxMap)
  (taskId taskPath : String)

/-- The keys that a buffer absent when a call began can hold at the call's position `idx`:
reserved ones, which are negative, and the call's own positions before `idx`. -/
def KeysBefore (idx : Nat) (B : WriteBuffer) : Prop :=
  ∀ k, (B.get k).isSome → k.2 < idx

/-- A channel's write goes to its reserved (negative) index or to the loop's position. -/
theorem writesIdx_getD_cases (c : String) (idx : Int) :
    (writesIdxMap.get c).getD idx = idx ∨ (writesIdxMap.get c).getD idx < 0 := by
  cases hc : writesIdxMap.get c with
  | none => exact .inl rfl
  | some i => exact .inr (writesIdxMap.neg c i hc)

theorem not_drop_of_keysBefore {idx : Nat} {B : WriteBuffer} (h : KeysBefore idx B) (c : String) :
    ¬(0 ≤ (writesIdxMap.get c).getD (idx : Int) ∧
      (B.get (taskId, (writesIdxMap.get c).getD idx)).isSome) := by
  rintro ⟨h₀, hk⟩
  have hlt : (writesIdxMap.get c).getD (idx : Int) < idx := h _ hk
  rcases writesIdx_getD_cases writesIdxMap c idx with h' | h' <;> omega

theorem KeysBefore.succ {idx : Nat} {B : WriteBuffer} (h : KeysBefore idx B) :
    KeysBefore (idx + 1) B := fun k hk => by
  have := h k hk
  omega

/-- Storing the write of the loop's position keeps the keys before the next position. -/
theorem KeysBefore.set {idx : Nat} {B : WriteBuffer} (h : KeysBefore idx B) (c : String)
    (pw : PendingWrite) : KeysBefore (idx + 1) (B.set (taskId, (writesIdxMap.get c).getD idx) pw) := by
  intro k hk
  rw [Dict.get_set] at hk
  split_ifs at hk with hk'
  · subst hk'
    show (writesIdxMap.get c).getD (idx : Int) < ((idx + 1 : Nat) : Int)
    rcases writesIdx_getD_cases writesIdxMap c idx with h' | h' <;> omega
  · exact h.succ k hk

/-- **The snapshot check is the rule.** The loop of `put_writes` leaves in its buffer the writes
it produces there, stored by the spec's rule, when the buffer existed before the call
(`present`) or held only keys before the loop's position. -/
theorem putWritesLoop_getD (outerKey : String × String × String) (present : Bool) :
    ∀ (idx : Nat) (ws : List (String × V)) (w : Dict (String × String × String) WriteBuffer),
      (present = true ∨ KeysBefore idx (w.getD outerKey ∅)) →
      (putWritesLoop serde writesIdxMap outerKey present taskId taskPath idx ws w).1.getD
          outerKey ∅ =
        (producedWrites serde.values writesIdxMap taskId taskPath (w.getD outerKey ∅) idx ws).foldl
          storeWrite (w.getD outerKey ∅) := by
  intro idx ws
  induction ws generalizing idx with
  | nil => intro w _; rfl
  | cons cv ws ih =>
    intro w hpresent
    obtain ⟨c, v⟩ := cv
    have hdrop : (0 ≤ (writesIdxMap.get c).getD (idx : Int) ∧ present = true ∧
          ((w.getD outerKey ∅).get (taskId, (writesIdxMap.get c).getD idx)).isSome) ↔
        (0 ≤ (writesIdxMap.get c).getD (idx : Int) ∧
          ((w.getD outerKey ∅).get (taskId, (writesIdxMap.get c).getD idx)).isSome) := by
      rcases hpresent with hp | hkeys
      · simp [hp]
      · exact ⟨fun h => ⟨h.1, h.2.2⟩,
          fun h => absurd h (not_drop_of_keysBefore writesIdxMap taskId hkeys c)⟩
    simp only [putWritesLoop, producedWrites]
    by_cases hd : 0 ≤ (writesIdxMap.get c).getD (idx : Int) ∧
        ((w.getD outerKey ∅).get (taskId, (writesIdxMap.get c).getD idx)).isSome
    · rw [if_pos (hdrop.2 hd)]
      rcases serde.values.dumpsTyped v with e | b <;>
        simp only [List.foldl_cons, storeWrite, if_pos hd] <;>
        exact ih _ _ (hpresent.imp_right KeysBefore.succ)
    · rw [if_neg (mt hdrop.1 hd)]
      rcases serde.values.dumpsTyped v with e | b
      · rw [if_neg hd]
        rfl
      · rw [List.foldl_cons, storeWrite, if_neg hd]
        dsimp only
        rw [ih, Dict.getD_set_self]
        rw [Dict.getD_set_self]
        exact hpresent.imp_right (KeysBefore.set writesIdxMap taskId · c _)

/-- The loop of `put_writes` leaves the table as it was or replaces its own buffer. -/
theorem putWritesLoop_fst_cases (outerKey : String × String × String) (present : Bool) :
    ∀ (idx : Nat) (ws : List (String × V)) (w : Dict (String × String × String) WriteBuffer),
      (putWritesLoop serde writesIdxMap outerKey present taskId taskPath idx ws w).1 = w ∨
        ∃ B, (putWritesLoop serde writesIdxMap outerKey present taskId taskPath idx ws w).1 =
          w.set outerKey B := by
  intro idx ws
  induction ws generalizing idx with
  | nil => intro w; exact .inl rfl
  | cons cv ws ih =>
    intro w
    obtain ⟨c, v⟩ := cv
    simp only [putWritesLoop]
    split_ifs
    · exact ih _ w
    · split
      · exact .inl rfl
      · rcases ih (idx + 1) (w.set outerKey _) with h | ⟨B, h⟩
        · exact .inr ⟨_, h⟩
        · exact .inr ⟨B, h.trans (Dict.set_set _ _ _ _)⟩

theorem putWritesLoop_getD_start (outerKey : String × String × String) (ws : List (String × V))
    (w : Dict (String × String × String) WriteBuffer) :
    (putWritesLoop serde writesIdxMap outerKey (w.get outerKey).isSome taskId taskPath 0 ws w).1.getD
        outerKey ∅ =
      (producedWrites serde.values writesIdxMap taskId taskPath (w.getD outerKey ∅) 0 ws).foldl
        storeWrite (w.getD outerKey ∅) := by
  refine putWritesLoop_getD serde writesIdxMap taskId taskPath outerKey _ 0 ws w ?_
  cases h : w.get outerKey with
  | none => exact .inr fun k hk => by simp [Dict.getD, h] at hk
  | some B => exact .inl rfl

/-! ### `put_writes` -/

/-- The buffer `put_writes` writes to, `(thread_id, checkpoint_ns, checkpoint_id)`, when the
config has a thread id and a checkpoint id. -/
def writesAddress (config : RunnableConfig) : Option (String × String × String) :=
  match config.threadId, config.checkpointId with
  | some t, some id => some (t, config.checkpointNs.getD "", id)
  | _, _ => none

/-- A `put_writes` call stores the writes it produces in the buffer it addresses, by the spec's
rule, and leaves every other buffer alone. -/
theorem writesAt_putWrites (s : InMemorySaver) (config : RunnableConfig)
    (writes : List (String × V)) (a : String × String × String) :
    (putWrites serde writesIdxMap s config writes taskId taskPath).1.writesAt a =
      if writesAddress config = some a then
        (producedWrites serde.values writesIdxMap taskId taskPath (s.writesAt a) 0 writes).foldl
          storeWrite (s.writesAt a)
      else s.writesAt a := by
  unfold putWrites writesAddress
  cases ht : config.threadId <;> cases hid : config.checkpointId <;> simp only [ht, hid] <;>
    try simp
  rename_i t id
  by_cases ha : (t, config.checkpointNs.getD "", id) = a
  · subst ha
    rw [if_pos rfl]
    exact putWritesLoop_getD_start serde writesIdxMap taskId taskPath _ writes s.writes
  · rw [if_neg (by simpa using ha)]
    simp only [writesAt, Dict.getD]
    rw [putWritesLoop_get_ne serde writesIdxMap _ _ taskId taskPath (Ne.symm ha)]

/-- **Repeating a call changes nothing.** A `put_writes` call made again on the tables it left
leaves them as they are. -/
theorem putWrites_putWrites (s : InMemorySaver) (config : RunnableConfig)
    (writes : List (String × V)) :
    (putWrites serde writesIdxMap (putWrites serde writesIdxMap s config writes taskId taskPath).1
        config writes taskId taskPath).1 =
      (putWrites serde writesIdxMap s config writes taskId taskPath).1 := by
  unfold putWrites
  cases ht : config.threadId <;> cases hid : config.checkpointId <;> simp only [ht, hid]
  rename_i t id
  congr 1
  generalize hk : (t, config.checkpointNs.getD "", id) = outerKey
  rcases putWritesLoop_fst_cases serde writesIdxMap taskId taskPath outerKey
      (s.writes.get outerKey).isSome 0 writes s.writes with h₁ | ⟨B₁, h₁⟩
  · rw [h₁]
    exact h₁
  · have hget : (putWritesLoop serde writesIdxMap outerKey (s.writes.get outerKey).isSome taskId
        taskPath 0 writes s.writes).1.get outerKey = some B₁ := by
      rw [h₁]; simp
    have hB₁ := putWritesLoop_getD_start serde writesIdxMap taskId taskPath outerKey writes s.writes
    rw [Dict.getD, hget, Option.getD_some] at hB₁
    rw [hget, Option.isSome_some]
    rcases putWritesLoop_fst_cases serde writesIdxMap taskId taskPath outerKey true 0 writes
        (putWritesLoop serde writesIdxMap outerKey (s.writes.get outerKey).isSome taskId taskPath 0
          writes s.writes).1 with h₂ | ⟨B₂, h₂⟩
    · exact h₂
    · have hB₂ := putWritesLoop_getD serde writesIdxMap taskId taskPath outerKey true 0 writes
        (putWritesLoop serde writesIdxMap outerKey (s.writes.get outerKey).isSome taskId taskPath 0
          writes s.writes).1 (.inl rfl)
      rw [h₂, Dict.getD_set_self, Dict.getD, hget, Option.getD_some, hB₁, producedWrites_foldl,
        foldl_storeWrite_idem, ← hB₁] at hB₂
      rw [h₂, hB₂]
      exact Dict.set_of_get_eq hget

end Code

/-- **Different tasks commute.** Two `put_writes` calls of different task ids leave every buffer
with the same items whichever runs first: their keys differ, and what each drops depends only on
its own keys. -/
theorem writesAt_putWrites_comm {R : Type} (serde : SerializerProtocol V R)
    (writesIdxMap : WritesIdxMap) (s : InMemorySaver)
    (config₁ : RunnableConfig) (writes₁ : List (String × V)) (taskId₁ taskPath₁ : String)
    (config₂ : RunnableConfig) (writes₂ : List (String × V)) (taskId₂ taskPath₂ : String)
    (htask : taskId₁ ≠ taskId₂) (a : String × String × String) :
    ((putWrites serde writesIdxMap (putWrites serde writesIdxMap s config₁ writes₁ taskId₁
        taskPath₁).1 config₂ writes₂ taskId₂ taskPath₂).1.writesAt a).entries.Perm
      ((putWrites serde writesIdxMap (putWrites serde writesIdxMap s config₂ writes₂ taskId₂
        taskPath₂).1 config₁ writes₁ taskId₁ taskPath₁).1.writesAt a).entries := by
  apply Dict.perm_of_get
  intro k
  simp only [writesAt_putWrites]
  set B := s.writesAt a
  set L₁ := producedWrites serde.values writesIdxMap taskId₁ taskPath₁ B 0 writes₁
  set L₂ := producedWrites serde.values writesIdxMap taskId₂ taskPath₂ B 0 writes₂
  have hL₁ : ∀ kw ∈ L₁, kw.1.1 = taskId₁ := fun _ h => task_of_mem_producedWrites _ _ _ _ h
  have hL₂ : ∀ kw ∈ L₂, kw.1.1 = taskId₂ := fun _ h => task_of_mem_producedWrites _ _ _ _ h
  have hsame : ∀ {L : List ((String × Int) × PendingWrite)} {t : String}, (∀ kw ∈ L, kw.1.1 = t) →
      ∀ k' : String × Int, k'.1 ≠ t → ((L.foldl storeWrite B).get k').isSome = (B.get k').isSome :=
    fun hL k' hk' => by
      rw [get_foldl_storeWrite_of_forall_ne fun kw hkw h => hk' (by rw [← h]; exact hL kw hkw)]
  have h₂₁ : producedWrites serde.values writesIdxMap taskId₂ taskPath₂ (L₁.foldl storeWrite B) 0
      writes₂ = L₂ :=
    producedWrites_congr _ _ _ _ (fun k' hk' _ => by rw [hsame hL₁ k' (hk' ▸ Ne.symm htask)]) _ _
  have h₁₂ : producedWrites serde.values writesIdxMap taskId₁ taskPath₁ (L₂.foldl storeWrite B) 0
      writes₁ = L₁ :=
    producedWrites_congr _ _ _ _ (fun k' hk' _ => by rw [hsame hL₂ k' (hk' ▸ htask)]) _ _
  by_cases ha₁ : writesAddress config₁ = some a <;> by_cases ha₂ : writesAddress config₂ = some a <;>
    simp only [ha₁, ha₂, if_true, if_false, h₂₁, h₁₂]
  by_cases hk : k.1 = taskId₁
  · have hn₂ : ∀ kw ∈ L₂, kw.1 ≠ k := fun kw hkw h => htask (by rw [← hk, ← h]; exact hL₂ kw hkw)
    rw [get_foldl_storeWrite_of_forall_ne hn₂]
    exact get_foldl_storeWrite_congr (get_foldl_storeWrite_of_forall_ne hn₂).symm _
  · have hn₁ : ∀ kw ∈ L₁, kw.1 ≠ k := fun kw hkw h => hk (by rw [← h]; exact hL₁ kw hkw)
    rw [get_foldl_storeWrite_of_forall_ne hn₁]
    exact get_foldl_storeWrite_congr (get_foldl_storeWrite_of_forall_ne hn₁) _

/-! ### Runs -/

section Run

variable {R : Type} [DecidableEq V] [PyNone V] (serde : SerializerProtocol V R)
  (writesIdxMap : WritesIdxMap)
  (getCheckpointMetadata : RunnableConfig → CheckpointMetadata V → CheckpointMetadata V)

/-- The writes a call produces in buffer `a`, on the buffer `B` it finds there. -/
def opWrites (a : String × String × String) (B : WriteBuffer) :
    Op V R → List ((String × Int) × PendingWrite)
  | .putWrites config writes taskId taskPath =>
    if writesAddress config = some a then
      producedWrites serde.values writesIdxMap taskId taskPath B 0 writes
    else []
  | _ => []

/-- The writes a run produces in buffer `a`, each call on the buffer the calls before it left. -/
def runWrites (a : String × String × String) :
    WriteBuffer → List (Op V R) → List ((String × Int) × PendingWrite)
  | _, [] => []
  | B, op :: ops => opWrites serde writesIdxMap a B op ++
      runWrites a ((opWrites serde writesIdxMap a B op).foldl storeWrite B) ops

/-- A call other than `delete_thread` of the buffer's thread changes a buffer only by the writes
it produces there. -/
theorem writesAt_exec (s : InMemorySaver) (op : Op V R) (a : String × String × String)
    (hop : op.deletes a.1 = false) :
    (exec serde writesIdxMap getCheckpointMetadata s op).writesAt a =
      (opWrites serde writesIdxMap a (s.writesAt a) op).foldl storeWrite (s.writesAt a) := by
  cases op with
  | getTuple config => exact (getTuple_fst_views serde s config).2.1 a
  | list config filter before limit drawn =>
    simp only [exec]
    split
    · exact (listDrawn_views s config _ drawn).2.1 a
    · rfl
  | put config checkpoint metadata newVersions =>
    simp only [exec, writesAt, put_writes]
    rfl
  | putWrites config writes taskId taskPath =>
    simp only [exec, opWrites, writesAt_putWrites]
    split_ifs <;> rfl
  | deleteThread t =>
    simp only [Op.deletes, decide_eq_false_iff_not] at hop
    simp only [exec, writesAt_deleteThread, if_neg (Ne.symm hop)]
    rfl

/-- What a run without `delete_thread` of the buffer's thread leaves in a buffer is the rule
folded over the writes its calls produced there. -/
theorem writesAt_run (s : InMemorySaver) (a : String × String × String) (ops : List (Op V R))
    (hops : ∀ op ∈ ops, op.deletes a.1 = false) :
    (run serde writesIdxMap getCheckpointMetadata s ops).writesAt a =
      (runWrites serde writesIdxMap a (s.writesAt a) ops).foldl storeWrite (s.writesAt a) := by
  induction ops generalizing s with
  | nil => rfl
  | cons op ops ih =>
    rw [run_cons, ih _ fun op' h => hops op' (List.mem_cons_of_mem _ h),
      writesAt_exec serde writesIdxMap getCheckpointMetadata s op a (hops op (List.mem_cons_self _ _)),
      runWrites, List.foldl_append]

end Run

end InMemorySaver

end CheckpointSaver
