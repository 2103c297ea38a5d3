import CheckpointSaver.Read

/-!
# Writes: `put`, `put_writes` and `delete_thread`

Each write returns the tables it leaves and, for `put` and `put_writes`, what it returns or
raises. A raising call keeps what it did before raising, since nothing is rolled back:

* `put` writes its blobs one by one (`blobWrites`), then reads
  `self.storage[thread_id][checkpoint_ns]`, and only then builds the entry it records
  (`savedEntry`), whose `dumps_typed` calls may raise;
* `put_writes` writes its pending writes one by one, and a raising `dumps_typed` stops it.

None of `put`'s steps reads the saver, so what it writes and whether it raises depend on the
call alone. `put_writes` does read it: a write with a non-negative index is dropped when its key
is already in a buffer that existed before the call.
-/

namespace CheckpointSaver

namespace InMemorySaver

/-- `self.storage[t][ns].update({id: saved})`. -/
def record (s : InMemorySaver) (threadId checkpointNs checkpointId : String) (saved : Saved) :
    InMemorySaver :=
  { s with storage := s.storage.set threadId ((s.storage.getD threadId ∅).set checkpointNs
      ((s.checkpointsAt threadId checkpointNs).set checkpointId saved)) }

variable {V R : Type} (serde : SerializerProtocol V R)

/-- The blob loop of `put`: for each `(channel, version)` of `new_versions`, the channel's
serialized value, or the `"empty"` blob when the checkpoint has no value for it. It reads
nothing of the saver, so it is the list of the blobs it writes, in order, with the error of the
`dumps_typed` that stopped it, if one did. -/
def blobWrites (threadId checkpointNs : String) (values : Dict String V) :
    List (String × String) → List ((String × String × String × String) × Typed) × Except String Unit
  | [] => ([], .ok ())
  | (k, v) :: rest =>
    match (match values.get k with
      | some x => serde.values.dumpsTyped x
      | none => .ok Typed.empty) with
    | .error e => ([], .error e)
    | .ok b =>
      let r := blobWrites threadId checkpointNs values rest
      (((threadId, checkpointNs, k, v), b) :: r.1, r.2)

/-- The dict `{checkpoint["id"]: (dumps(c), dumps(metadata), parent)}` that `put` records, `c`
being the checkpoint with `channel_values` popped and the parent the config's `checkpoint_id`. -/
def savedEntry (getCheckpointMetadata : RunnableConfig → CheckpointMetadata V → CheckpointMetadata V)
    (config : RunnableConfig) (checkpoint : Checkpoint V R) (metadata : CheckpointMetadata V) :
    Except String (String × Saved) :=
  match checkpoint.id with
  | none => .error "KeyError: 'id'"
  | some checkpointId => do
    let c ← serde.checkpoints.dumpsTyped { checkpoint with channelValues := none }
    let m ← serde.metadata.dumpsTyped (getCheckpointMetadata config metadata)
    pure (checkpointId, c, m, config.checkpointId)

/-- `put`: write the blobs of `new_versions`, then record the checkpoint, without its channel
values, under its id. Returns the config of the recorded checkpoint. -/
def put (getCheckpointMetadata : RunnableConfig → CheckpointMetadata V → CheckpointMetadata V)
    (s : InMemorySaver) (config : RunnableConfig) (checkpoint : Checkpoint V R)
    (metadata : CheckpointMetadata V) (newVersions : Dict String String) :
    InMemorySaver × Except String RunnableConfig :=
  match config.threadId, config.checkpointNs, checkpoint.channelValues with
  | none, _, _ => (s, .error "KeyError: 'thread_id'")
  | some _, none, _ => (s, .error "KeyError: 'checkpoint_ns'")
  | some _, some _, none => (s, .error "KeyError: 'channel_values'")
  | some threadId, some checkpointNs, some values =>
    let r := blobWrites serde threadId checkpointNs values newVersions.entries
    let s := { s with blobs := s.blobs.setMany r.1 }
    match r.2 with
    | .error e => (s, .error e)
    | .ok () =>
      match savedEntry serde getCheckpointMetadata config checkpoint metadata with
      | .error e => (s.touchNs threadId checkpointNs, .error e)
      | .ok (checkpointId, saved) =>
        (s.record threadId checkpointNs checkpointId saved,
          .ok ⟨some threadId, some checkpointNs, some checkpointId⟩)

/-- The loop of `put_writes` over `enumerate(writes)`, a write's key being
`(task_id, WRITES_IDX_MAP.get(c, idx))`. The snapshot `outer_writes_` is `None` when the buffer
was absent before the loop, and otherwise the buffer itself, which the loop's own writes then
change: a write with a non-negative index is dropped when the buffer existed before the call
(`present`) and now holds its key. -/
def putWritesLoop (writesIdxMap : WritesIdxMap) (outerKey : String × String × String)
    (present : Bool) (taskId taskPath : String) :
    Nat → List (String × V) → Dict (String × String × String) (Dict (String × Int) PendingWrite) →
      Dict (String × String × String) (Dict (String × Int) PendingWrite) × Except String Unit
  | _, [], w => (w, .ok ())
  | idx, (c, v) :: rest, w =>
    let innerKey : String × Int := (taskId, (writesIdxMap.get c).getD idx)
    if 0 ≤ innerKey.2 ∧ present ∧ ((w.getD outerKey ∅).get innerKey).isSome then
      putWritesLoop writesIdxMap outerKey present taskId taskPath (idx + 1) rest w
    else
      match serde.values.dumpsTyped v with
      | .error e => (w, .error e)
      | .ok b =>
        putWritesLoop writesIdxMap outerKey present taskId taskPath (idx + 1) rest
          (w.set outerKey ((w.getD outerKey ∅).set innerKey (taskId, c, b, taskPath)))

/-- `put_writes`: stage `writes` against the checkpoint the config names. -/
def putWrites (writesIdxMap : WritesIdxMap) (s : InMemorySaver) (config : RunnableConfig)
    (writes : List (String × V)) (taskId taskPath : String) :
    InMemorySaver × Except String Unit :=
  match config.threadId, config.checkpointId with
  | none, _ => (s, .error "KeyError: 'thread_id'")
  | some _, none => (s, .error "KeyError: 'checkpoint_id'")
  | some threadId, some checkpointId =>
    let outerKey := (threadId, config.checkpointNs.getD "", checkpointId)
    let r := putWritesLoop serde writesIdxMap outerKey (s.writes.get outerKey).isSome taskId
      taskPath 0 writes s.writes
    ({ s with writes := r.1 }, r.2)

/-- `delete_thread`: drop the thread's storage entry, then, over a snapshot of the keys, every
write buffer and every blob whose key starts with the thread id. -/
def deleteThread (s : InMemorySaver) (threadId : String) : InMemorySaver where
  storage := s.storage.erase threadId
  writes := s.writes.keys.foldl (fun w k => if k.1 = threadId then w.erase k else w) s.writes
  blobs := s.blobs.keys.foldl (fun b k => if k.1 = threadId then b.erase k else b) s.blobs

end InMemorySaver

end CheckpointSaver
