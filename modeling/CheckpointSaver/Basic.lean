import CheckpointSaver.Dict
import Mathlib.Data.String.Basic

/-!
# The data of `InMemorySaver`

The saver keeps three tables, all of serialized data: `storage` (thread ID → checkpoint NS →
checkpoint ID → stored checkpoint), `writes` ((thread ID, checkpoint NS, checkpoint ID) →
(task ID, write index) → pending write) and `blobs` ((thread ID, checkpoint NS, channel,
version) → channel value). Since every stored value went through the serializer, the state
`InMemorySaver` has no type parameters; the Python values it is handed have types `V` (channel
and written values, metadata values) and `R` (the checkpoint keys the saver never reads).

What the saver takes from outside its file is modelled as parameters:

* the serializer `self.serde`, at the three types it is applied to (`SerializerProtocol`);
  `dumps_typed` may raise, and a raised error is a `String`;
* `WRITES_IDX_MAP` and `get_checkpoint_id` of `langgraph.checkpoint.base`, which are not in
  the source, modelled from the spec (`WritesIdxMap`, `getCheckpointId`);
* `get_checkpoint_metadata`, an arbitrary function passed to `put`.

Python's truthiness of an optional string (present and non-empty) is `truthy`: the saver tests
checkpoint ids and parent ids that way, so an empty id counts as no id.
-/

namespace CheckpointSaver

/-- What `dumps_typed` returns and `loads_typed` reads: a type tag and a payload. -/
structure Typed where
  /-- The type tag. -/
  tag : String
  /-- The serialized bytes. -/
  payload : List UInt8
  deriving DecidableEq

/-- The blob `("empty", b"")` that `put` stores for a versioned channel with no value. -/
def Typed.empty : Typed :=
  ⟨"empty", []⟩

/-- `SerializerProtocol` at one type: `dumps_typed` may raise, `loads_typed` reads back. -/
structure Codec (α : Type) where
  /-- `dumps_typed`. -/
  dumpsTyped : α → Except String Typed
  /-- `loads_typed`. -/
  loadsTyped : Typed → α

/-- A codec whose `loads_typed` inverts `dumps_typed` and whose tags are never the `"empty"`
the saver reserves. -/
structure Codec.Lawful {α : Type} (c : Codec α) : Prop where
  /-- Decoding what was encoded gives it back. -/
  loads_dumps : ∀ x b, c.dumpsTyped x = .ok b → c.loadsTyped b = x
  /-- The reserved tag is never emitted. -/
  tag_ne_empty : ∀ x b, c.dumpsTyped x = .ok b → b.tag ≠ "empty"

/-- The codec that serializes exactly `x`, as `b`, and raises on anything else: lawful when
`b` is not tagged `"empty"`, and small enough to run the model on. -/
def Codec.single {α : Type} [DecidableEq α] (x : α) (b : Typed) : Codec α where
  dumpsTyped y := if y = x then .ok b else .error "TypeError"
  loadsTyped _ := x

theorem Codec.single_lawful {α : Type} [DecidableEq α] (x : α) {b : Typed}
    (hb : b.tag ≠ "empty") : (Codec.single x b).Lawful where
  loads_dumps y b' h := by
    by_cases hy : y = x <;> simp_all [Codec.single]
  tag_ne_empty y b' h := by
    by_cases hy : y = x <;> simp_all [Codec.single]

/-- Python's `None` among the values `V`: what `dict.get` returns for a missing key. -/
class PyNone (V : Type) where
  /-- `None`. -/
  none : V

/-- `Unit` is the type whose one value is `None`. -/
instance : PyNone Unit :=
  ⟨()⟩

/-- `CheckpointMetadata`: a dictionary of Python values. -/
abbrev CheckpointMetadata (V : Type) :=
  Dict String V

/-- A `Checkpoint` as the saver handles it. `put` looks up `id` and pops `channel_values`, and a
`TypedDict` guarantees neither at runtime, so both may be absent (`none`); a stored checkpoint
has had `channel_values` popped. `get_tuple` reads `channel_versions`. The remaining keys are
only handed to the serializer: `rest`. -/
structure Checkpoint (V R : Type) where
  /-- `checkpoint["id"]`. -/
  id : Option String
  /-- `checkpoint["channel_values"]`. -/
  channelValues : Option (Dict String V)
  /-- `checkpoint["channel_versions"]`: channel → version. -/
  channelVersions : Dict String String
  /-- Every other key. -/
  rest : R
  deriving DecidableEq

/-- `SerializerProtocol` at the three types the saver serializes. -/
structure SerializerProtocol (V R : Type) where
  /-- Channel values and pending-write values. -/
  values : Codec V
  /-- Checkpoints with `channel_values` popped. -/
  checkpoints : Codec (Checkpoint V R)
  /-- Metadata. -/
  metadata : Codec (CheckpointMetadata V)

/-- A serializer all of whose codecs are lawful. -/
structure SerializerProtocol.Lawful {V R : Type} (serde : SerializerProtocol V R) : Prop where
  values : serde.values.Lawful
  checkpoints : serde.checkpoints.Lawful
  metadata : serde.metadata.Lawful

/-- The `configurable` keys of a `RunnableConfig` that the saver reads; each may be absent. -/
structure RunnableConfig where
  /-- `thread_id`. -/
  threadId : Option String
  /-- `checkpoint_ns`. -/
  checkpointNs : Option String
  /-- `checkpoint_id`. -/
  checkpointId : Option String
  deriving DecidableEq

/-- Python's truthiness of an optional string: the string, when present and non-empty. -/
def truthy (o : Option String) : Option String :=
  o.filter fun s => s ≠ ""

@[simp]
theorem truthy_none : truthy none = none :=
  rfl

theorem truthy_some (s : String) : truthy (some s) = if s = "" then none else some s := by
  by_cases h : s = "" <;> simp [truthy, Option.filter, h]

theorem truthy_eq_some {o : Option String} {s : String} :
    truthy o = some s ↔ o = some s ∧ s ≠ "" := by
  cases o with
  | none => simp
  | some s' =>
    rw [truthy_some]
    split_ifs with h
    · subst h
      simp only [reduceCtorEq, false_iff, not_and, Option.some.injEq]
      exact fun h h' => h' h.symm
    · simp only [Option.some.injEq, iff_self_and]
      exact fun h' => h' ▸ h

/-- Modelled from the spec: `get_checkpoint_id` of `langgraph.checkpoint.base` is not in the
source. The spec's address `(thread_id, checkpoint_ns, checkpoint_id | absent)` reads an absent
`checkpoint_id` as "resolve to latest": the id is the config's `checkpoint_id` key. -/
def getCheckpointId (config : RunnableConfig) : Option String :=
  config.checkpointId

/-- Modelled from the spec: `WRITES_IDX_MAP` of `langgraph.checkpoint.base` is not in the
source. The spec describes it as a mapping from reserved channel names to fixed negative
indices, and the negativity is a field. -/
structure WritesIdxMap where
  /-- `WRITES_IDX_MAP.get(channel)`. -/
  get : String → Option Int
  /-- Reserved indices are negative. -/
  neg : ∀ c i, get c = some i → i < 0

/-- No reserved channels. -/
def WritesIdxMap.empty : WritesIdxMap :=
  ⟨fun _ => none, fun _ _ h => by cases h⟩

/-- A stored checkpoint: the serialized checkpoint without channel values, the serialized
metadata, and the parent id as the config of `put` gave it. -/
abbrev Saved :=
  Typed × Typed × Option String

/-- A pending write: task ID, channel, serialized value, task path. -/
abbrev PendingWrite :=
  String × String × Typed × String

/-- The three tables of `InMemorySaver`. -/
structure InMemorySaver where
  /-- thread ID → checkpoint NS → checkpoint ID → checkpoint mapping. -/
  storage : Dict String (Dict String (Dict String Saved))
  /-- (thread ID, checkpoint NS, checkpoint ID) → (task ID, write idx) → pending write. -/
  writes : Dict (String × String × String) (Dict (String × Int) PendingWrite)
  /-- (thread ID, checkpoint NS, channel, version) → blob. -/
  blobs : Dict (String × String × String × String) Typed

/-- What `get_tuple` and `list` return. -/
structure CheckpointTuple (V R : Type) where
  config : RunnableConfig
  checkpoint : Checkpoint V R
  metadata : CheckpointMetadata V
  parentConfig : Option RunnableConfig
  /-- (task ID, channel, value) of each pending write. -/
  pendingWrites : List (String × String × V)

/-- The address a tuple's config names, `(thread_id, checkpoint_ns, checkpoint_id)`. -/
def CheckpointTuple.writesKey {V R : Type} (τ : CheckpointTuple V R) : String × String × String :=
  (τ.config.threadId.getD "", τ.config.checkpointNs.getD "", τ.config.checkpointId.getD "")

/-! ### A small serializer, to run the model on -/

/-- Checkpoint `"1"` with one channel `"x"` at version `"1.0"`. -/
def unitCheckpoint : Checkpoint Unit Unit :=
  ⟨some "1", some ((∅ : Dict String Unit).set "x" ()), (∅ : Dict String String).set "x" "1.0", ()⟩

/-- A lawful serializer of `()` values, of `unitCheckpoint` and of empty metadata. -/
def unitSerde : SerializerProtocol Unit Unit :=
  ⟨Codec.single () ⟨"unit", []⟩,
    Codec.single { unitCheckpoint with channelValues := none } ⟨"checkpoint", []⟩,
    Codec.single ∅ ⟨"metadata", []⟩⟩

end CheckpointSaver
