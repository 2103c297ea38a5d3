import CheckpointSaver.Effects

/-!
# What the reads return

`_load_blobs` resolves each channel of `channel_versions` on its own (`loadBlobs_get`), and the
tuple built for a checkpoint depends on the tables only through the blobs and the checkpoint's
own write buffer (`checkpointTuple_congr`), so the containers a read creates before building it
make no difference.

`get_tuple` has two paths: with a (non-empty) checkpoint id it looks that id up
(`getTuple_snd_of_id`), and without one it takes the greatest id of the namespace
(`getTuple_snd_of_latest`); the `KeyError` branch of the latter is unreachable, the id having just
been read from the keys.
-/

namespace CheckpointSaver

namespace InMemorySaver

variable {V R : Type} (serde : SerializerProtocol V R)

/-- The value of a blob for `_load_blobs`: nothing for the `"empty"` blob. -/
def blobValue (vv : Typed) : Option V :=
  if vv.tag = "empty" then none else some (serde.values.loadsTyped vv)

/-- `_load_blobs` gives a channel the value of the blob at its version, if there is one. -/
theorem loadBlobs_get (s : InMemorySaver) (t ns : String) (versions : Dict String String)
    (k : String) :
    (loadBlobs serde s t ns versions).get k =
      (versions.get k).bind fun c => (s.blobs.get (t, ns, k, c)).bind (blobValue serde) := by
  unfold loadBlobs
  rw [Dict.get_foldl_entries _ _ (fun k c => (s.blobs.get (t, ns, k, c)).bind (blobValue serde))]
  · simp
  · intro acc k' c k
    simp only
    cases s.blobs.get (t, ns, k', c) with
    | none => by_cases h : k = k' <;> simp [h]
    | some vv =>
      by_cases hv : vv.tag = "empty"
      · by_cases h : k = k' <;> simp [blobValue, hv, h]
      · by_cases h : k = k' <;> simp [blobValue, hv, h]

/-- The tuple built for a checkpoint reads the tables only through the blobs and the
checkpoint's own write buffer. -/
theorem checkpointTuple_congr {s s' : InMemorySaver} (hb : s.blobs = s'.blobs)
    {t ns id : String} (hw : s.writesAt (t, ns, id) = s'.writesAt (t, ns, id))
    (config : RunnableConfig) (checkpoint : Typed) (metadata : CheckpointMetadata V)
    (parent : Option String) :
    (checkpointTuple serde s config t ns id checkpoint metadata parent : CheckpointTuple V R) =
      checkpointTuple serde s' config t ns id checkpoint metadata parent := by
  simp only [checkpointTuple, loadBlobs, hb, hw]

/-- `get_tuple` with a checkpoint id looks that id up in the config's namespace. -/
theorem getTuple_snd_of_id (s : InMemorySaver) {config : RunnableConfig} {t id : String}
    (ht : config.threadId = some t) (hid : truthy (getCheckpointId config) = some id) :
    (getTuple serde s config).2 =
      .ok (((s.checkpointsAt t (config.checkpointNs.getD "")).get id).map fun e =>
        (checkpointTuple serde s config t (config.checkpointNs.getD "") id e.1
          (serde.metadata.loadsTyped e.2.1) e.2.2 : CheckpointTuple V R)) := by
  unfold getTuple
  rw [ht]
  dsimp only
  rw [hid]
  dsimp only
  cases (s.checkpointsAt t (config.checkpointNs.getD "")).get id with
  | none => rfl
  | some e =>
    obtain ⟨c, m, p⟩ := e
    simp only [Option.map_some']
    congr 2
    exact checkpointTuple_congr serde (by simp) (by simp) _ _ _ _

/-- `get_tuple` without a checkpoint id returns the checkpoint with the greatest id of the
config's namespace. -/
theorem getTuple_snd_of_latest (s : InMemorySaver) {config : RunnableConfig} {t : String}
    (ht : config.threadId = some t) (hid : truthy (getCheckpointId config) = none) :
    (getTuple serde s config).2 =
      .ok ((s.checkpointsAt t (config.checkpointNs.getD "")).keys.max?.bind fun id =>
        ((s.checkpointsAt t (config.checkpointNs.getD "")).get id).map fun e =>
          (checkpointTuple serde s ⟨some t, some (config.checkpointNs.getD ""), some id⟩ t
            (config.checkpointNs.getD "") id e.1 (serde.metadata.loadsTyped e.2.1) e.2.2 :
            CheckpointTuple V R)) := by
  unfold getTuple
  rw [ht]
  dsimp only
  rw [hid]
  dsimp only
  cases hm : (s.checkpointsAt t (config.checkpointNs.getD "")).keys.max? with
  | none => rfl
  | some id =>
    have hmem := List.max?_mem max_choice hm
    obtain ⟨e, he⟩ := Option.isSome_iff_exists.1 (Dict.mem_keys.1 hmem)
    simp only [he, Option.some_bind, Option.map_some']
    congr 2
    exact checkpointTuple_congr serde (by simp) (by simp) _ _ _ _

end InMemorySaver

end CheckpointSaver
