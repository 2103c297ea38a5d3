import CheckpointSaver.Write

/-!
# Runs

A run is a sequence of calls on one saver, each applied to the tables the previous one left.
A call that raises still leaves its tables (the caller may catch the error and go on), and a
read leaves what its `defaultdict` reads created. A `list` call records how many items were
drawn from its generator.

What the saver takes from outside (its serializer, `WRITES_IDX_MAP` and
`get_checkpoint_metadata`) is fixed along a run.
-/

namespace CheckpointSaver

/-- A call on the saver. -/
inductive Op (V R : Type)
  | getTuple (config : RunnableConfig)
  | list (config : Option RunnableConfig) (filter : Option (CheckpointMetadata V))
      (before : Option RunnableConfig) (limit : Option Int) (drawn : Nat)
  | put (config : RunnableConfig) (checkpoint : Checkpoint V R) (metadata : CheckpointMetadata V)
      (newVersions : Dict String String)
  | putWrites (config : RunnableConfig) (writes : List (String × V)) (taskId taskPath : String)
  | deleteThread (threadId : String)

namespace InMemorySaver

variable {V R : Type} [DecidableEq V] [PyNone V] (serde : SerializerProtocol V R)
  (writesIdxMap : WritesIdxMap)
  (getCheckpointMetadata : RunnableConfig → CheckpointMetadata V → CheckpointMetadata V)

/-- The tables after one call. -/
def exec (s : InMemorySaver) : Op V R → InMemorySaver
  | .getTuple config => (getTuple serde s config).1
  | .list config filter before limit drawn =>
    match list serde s config filter before limit with
    | .ok items => listDrawn s config items drawn
    | .error _ => s
  | .put config checkpoint metadata newVersions =>
    (put serde getCheckpointMetadata s config checkpoint metadata newVersions).1
  | .putWrites config writes taskId taskPath =>
    (putWrites serde writesIdxMap s config writes taskId taskPath).1
  | .deleteThread threadId => deleteThread s threadId

/-- The tables after a run. -/
def run (s : InMemorySaver) (ops : List (Op V R)) : InMemorySaver :=
  ops.foldl (exec serde writesIdxMap getCheckpointMetadata) s

@[simp]
theorem run_nil (s : InMemorySaver) : run serde writesIdxMap getCheckpointMetadata s [] = s :=
  rfl

@[simp]
theorem run_cons (s : InMemorySaver) (op : Op V R) (ops : List (Op V R)) :
    run serde writesIdxMap getCheckpointMetadata s (op :: ops) =
      run serde writesIdxMap getCheckpointMetadata
        (exec serde writesIdxMap getCheckpointMetadata s op) ops :=
  rfl

theorem run_append (s : InMemorySaver) (ops ops' : List (Op V R)) :
    run serde writesIdxMap getCheckpointMetadata s (ops ++ ops') =
      run serde writesIdxMap getCheckpointMetadata
        (run serde writesIdxMap getCheckpointMetadata s ops) ops' :=
  List.foldl_append _ _ _ _

/-- The states that runs from `InMemorySaver()` reach when each call keeps the caller contract
`P` in the state it is made in. -/
inductive Reachable (P : InMemorySaver → Op V R → Prop) : InMemorySaver → Prop
  | start : Reachable P init
  | step {s : InMemorySaver} {op : Op V R} :
      Reachable P s → P s op → Reachable P (exec serde writesIdxMap getCheckpointMetadata s op)

end InMemorySaver

end CheckpointSaver
