import CheckpointSaver.Basic

/-!
# Reads: `_load_blobs`, `get_tuple` and `list`

`get_tuple` and `list` build the same `CheckpointTuple` from a stored checkpoint: the source
repeats that code three times, and here it is `checkpointTuple`, given the config each site
echoes and the metadata it decoded (`list` decodes it before its metadata filter).

Both reads go through `defaultdict`s. `get_tuple` reads `self.storage[thread_id][checkpoint_ns]`,
which creates the thread and the namespace when absent, and the write buffer of the checkpoint
it returns. `list` is a generator: `list` below is the sequence it yields when drawn to the end,
and `listDrawn` the tables after its first `n` items were drawn, which is when its `defaultdict`
reads have happened.

`list`'s three nested loops are `listThreads`, `listNamespaces` and `listCheckpoints`, each
returning what it yields and the `limit` left, since the loops share that one counter and the
`break` on an exhausted limit leaves only the innermost loop.
-/

namespace CheckpointSaver

namespace InMemorySaver

/-- `InMemorySaver()` with the default factory: three empty tables. -/
def init : InMemorySaver :=
  ⟨∅, ∅, ∅⟩

/-- The checkpoints of a namespace, as the `defaultdict` read `self.storage[t][ns]` sees them. -/
def checkpointsAt (s : InMemorySaver) (threadId checkpointNs : String) : Dict String Saved :=
  (s.storage.getD threadId ∅).getD checkpointNs ∅

/-- The pending writes of a checkpoint, as the `defaultdict` read `self.writes[key]` sees them. -/
def writesAt (s : InMemorySaver) (key : String × String × String) : Dict (String × Int) PendingWrite :=
  s.writes.getD key ∅

/-- What the read `self.storage[t]` leaves behind. -/
def touchThread (s : InMemorySaver) (threadId : String) : InMemorySaver :=
  { s with storage := s.storage.setdefault threadId ∅ }

/-- What the read `self.storage[t][ns]` leaves behind: the thread and the namespace. -/
def touchNs (s : InMemorySaver) (threadId checkpointNs : String) : InMemorySaver :=
  { s with storage := s.storage.set threadId ((s.storage.getD threadId ∅).setdefault checkpointNs ∅) }

/-- What the read `self.writes[key]` leaves behind. -/
def touchWrites (s : InMemorySaver) (key : String × String × String) : InMemorySaver :=
  { s with writes := s.writes.setdefault key ∅ }

variable {V R : Type} (serde : SerializerProtocol V R)

/-- `_load_blobs`: each channel's value at its version. A version with no blob, or with the
`"empty"` blob, gives no value. -/
def loadBlobs (s : InMemorySaver) (threadId checkpointNs : String)
    (versions : Dict String String) : Dict String V :=
  versions.entries.foldl (fun channelValues kv =>
    match s.blobs.get (threadId, checkpointNs, kv.1, kv.2) with
    | some vv =>
      if vv.tag ≠ "empty" then channelValues.set kv.1 (serde.values.loadsTyped vv)
      else channelValues
    | none => channelValues) ∅

/-- The `CheckpointTuple` built for the stored checkpoint `(checkpoint, _, parent)` at
`(threadId, checkpointNs, checkpointId)`, echoing `config`, with `metadata` already decoded:
the checkpoint merged with its channel values, and the pending writes of its buffer. -/
def checkpointTuple (s : InMemorySaver) (config : RunnableConfig)
    (threadId checkpointNs checkpointId : String) (checkpoint : Typed)
    (metadata : CheckpointMetadata V) (parent : Option String) : CheckpointTuple V R :=
  let checkpoint_ := serde.checkpoints.loadsTyped checkpoint
  { config
    checkpoint := { checkpoint_ with
      channelValues := some (loadBlobs serde s threadId checkpointNs checkpoint_.channelVersions) }
    metadata
    parentConfig := (truthy parent).map fun p => ⟨some threadId, some checkpointNs, some p⟩
    pendingWrites := (s.writesAt (threadId, checkpointNs, checkpointId)).values.map
      fun w => (w.1, w.2.1, serde.values.loadsTyped w.2.2.1) }

/-- `get_tuple`: the checkpoint with the config's id, or when the config has no (non-empty) id
the one with the greatest id in its namespace; `none` when there is none. Returns the tables
its `defaultdict` reads leave behind. -/
def getTuple (s : InMemorySaver) (config : RunnableConfig) :
    InMemorySaver × Except String (Option (CheckpointTuple V R)) :=
  match config.threadId with
  | none => (s, .error "KeyError: 'thread_id'")
  | some threadId =>
    let checkpointNs := config.checkpointNs.getD ""
    let checkpoints := s.checkpointsAt threadId checkpointNs
    let s := s.touchNs threadId checkpointNs
    match truthy (getCheckpointId config) with
    | some checkpointId =>
      match checkpoints.get checkpointId with
      | some (checkpoint, metadata, parent) =>
        let s := s.touchWrites (threadId, checkpointNs, checkpointId)
        (s, .ok (some (checkpointTuple serde s config threadId checkpointNs checkpointId
          checkpoint (serde.metadata.loadsTyped metadata) parent)))
      | none => (s, .ok none)
    | none =>
      match checkpoints.keys.max? with
      | none => (s, .ok none)
      | some checkpointId =>
        match checkpoints.get checkpointId with
        | some (checkpoint, metadata, parent) =>
          let s := s.touchWrites (threadId, checkpointNs, checkpointId)
          (s, .ok (some (checkpointTuple serde s ⟨some threadId, some checkpointNs, some checkpointId⟩
            threadId checkpointNs checkpointId checkpoint (serde.metadata.loadsTyped metadata)
            parent)))
        | none => (s, .error "KeyError")

/-- The metadata filter of `list`: `metadata.get(k) == v` for every item `(k, v)` of `filter`. -/
def matchesFilter [DecidableEq V] [PyNone V] (filter metadata : CheckpointMetadata V) : Bool :=
  filter.entries.all fun kv => kv.2 = metadata.getD kv.1 PyNone.none

/-- `sorted(checkpoints.items(), key=lambda x: x[0], reverse=True)`. -/
def sortDesc (items : List (String × Saved)) : List (String × Saved) :=
  items.mergeSort fun a b => decide (b.1 ≤ a.1)

section List

variable [DecidableEq V] [PyNone V] (s : InMemorySaver) (configCheckpointId : Option String)
  (filter : Option (CheckpointMetadata V)) (before : Option RunnableConfig)

/-- The innermost loop of `list`, over one namespace's checkpoints in descending id order. The
id, `before` and metadata filters `continue`; an exhausted `limit` `break`s this loop only.
(`if filter and not all(...)`: an empty filter passes `all` anyway.) -/
def listCheckpoints (threadId checkpointNs : String) :
    Option Int → List (String × Saved) → List (CheckpointTuple V R) × Option Int
  | limit, [] => ([], limit)
  | limit, (checkpointId, checkpoint, metadataB, parent) :: rest =>
    if (truthy configCheckpointId).any (· ≠ checkpointId) then
      listCheckpoints threadId checkpointNs limit rest
    else if (before.bind fun b => truthy (getCheckpointId b)).any (· ≤ checkpointId) then
      listCheckpoints threadId checkpointNs limit rest
    else
      let metadata := serde.metadata.loadsTyped metadataB
      if !filter.all (matchesFilter · metadata) then
        listCheckpoints threadId checkpointNs limit rest
      else
        let τ := checkpointTuple serde s ⟨some threadId, some checkpointNs, some checkpointId⟩
          threadId checkpointNs checkpointId checkpoint metadata parent
        match limit with
        | some l =>
          if l ≤ 0 then ([], limit)
          else
            let r := listCheckpoints threadId checkpointNs (some (l - 1)) rest
            (τ :: r.1, r.2)
        | none =>
          let r := listCheckpoints threadId checkpointNs none rest
          (τ :: r.1, r.2)

/-- The middle loop of `list`, over a thread's namespaces in storage order, keeping only the
config's namespace when it names one. -/
def listNamespaces (configCheckpointNs : Option String) (threadId : String) :
    Option Int → List String → List (CheckpointTuple V R) × Option Int
  | limit, [] => ([], limit)
  | limit, checkpointNs :: rest =>
    if configCheckpointNs.any (· ≠ checkpointNs) then
      listNamespaces configCheckpointNs threadId limit rest
    else
      let r := listCheckpoints serde s configCheckpointId filter before threadId checkpointNs limit
        (sortDesc (s.checkpointsAt threadId checkpointNs).entries)
      let r' := listNamespaces configCheckpointNs threadId r.2 rest
      (r.1 ++ r'.1, r'.2)

/-- The outer loop of `list`, over the selected threads. -/
def listThreads (configCheckpointNs : Option String) :
    Option Int → List String → List (CheckpointTuple V R) × Option Int
  | limit, [] => ([], limit)
  | limit, threadId :: rest =>
    let r := listNamespaces serde s configCheckpointId filter before configCheckpointNs threadId
      limit (s.storage.getD threadId ∅).keys
    let r' := listThreads configCheckpointNs r.2 rest
    (r.1 ++ r'.1, r'.2)

end List

/-- `list`, drawn to the end: the tuples it yields. The threads are the config's, or every
thread of `storage` in order; a config without `thread_id` raises on the first draw. -/
def list [DecidableEq V] [PyNone V] (s : InMemorySaver) (config : Option RunnableConfig)
    (filter : Option (CheckpointMetadata V)) (before : Option RunnableConfig)
    (limit : Option Int) : Except String (List (CheckpointTuple V R)) :=
  match config.map (·.threadId) with
  | some none => .error "KeyError: 'thread_id'"
  | some (some threadId) =>
    .ok (listThreads serde s (getCheckpointId =<< config) filter before
      (config.bind (·.checkpointNs)) limit [threadId]).1
  | none =>
    .ok (listThreads serde s none filter before none limit s.storage.keys).1

/-- The tables after the first `n` items of `list` were drawn. Once the generator has started
it has read `self.storage[thread_id]` of the config's thread, and before each item it yields
the item's write buffer. -/
def listDrawn {V R : Type} (s : InMemorySaver) (config : Option RunnableConfig)
    (items : List (CheckpointTuple V R)) (n : Nat) : InMemorySaver :=
  if n = 0 then s
  else
    (items.take n).foldl (fun s τ => s.touchWrites τ.writesKey)
      (match config.bind (·.threadId) with
        | some threadId => s.touchThread threadId
        | none => s)

end InMemorySaver

end CheckpointSaver
