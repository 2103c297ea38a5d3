import CheckpointSaver.History
import CheckpointSaver.Lookup

/-!
# Round trip: `get_tuple` returns what `put` stored

After any run from `InMemorySaver()`, `get_tuple` on the address of a stored checkpoint returns
the checkpoint of the last `put` that recorded it, its metadata, its parent, and as channel
values, for each channel of its `channel_versions`, the value that some `put` on the same thread
and namespace since the thread was last deleted gave the channel at that version: in its
`channel_values`, with that version in its `new_versions`, the loop over `new_versions` having
reached the channel (`blobsWritten_value_iff`, from the characterisation of the loop
`mem_blobWrites_iff`). Channels whose version no such `put` gave a value have none.

This needs the serializer to be lawful (`loads_typed` inverts `dumps_typed`, and no payload is
tagged `"empty"`) and the run never to write two different blobs under one key, which is the
contract the spec puts on callers; the queried id must be non-empty, or `get_tuple` reads it
as no id and returns the latest checkpoint instead.
-/

namespace CheckpointSaver

namespace InMemorySaver

variable {V R : Type} (serde : SerializerProtocol V R)

/-- A blob a call writes is a serialized value or the `"empty"` blob. -/
theorem mem_blobsWritten {op : Op V R} {key : String × String × String × String} {b : Typed}
    (h : (key, b) ∈ op.blobsWritten serde) :
    b = Typed.empty ∨ ∃ x, serde.values.dumpsTyped x = .ok b := by
  cases op with
  | put config checkpoint metadata newVersions =>
    obtain ⟨_, _, _, -, -, -, -, -, ⟨-, hb⟩ | ⟨x, -, hx⟩⟩ := mem_putBlobs serde config checkpoint
      newVersions h
    · exact .inl hb
    · exact .inr ⟨x, hx⟩
  | _ => cases h

/-- A call writes the serialized `v` at `(t, ns, k, c)` exactly when it is a `put` on `(t, ns)`
whose `new_versions` gives channel `k` the version `c`, whose blob loop reaches `k`, and whose
`channel_values` holds `v`, serializable, for `k`. -/
theorem blobsWritten_value_iff (hserde : serde.Lawful) (op : Op V R) (t ns k c : String) (v : V) :
    (∃ b, ((t, ns, k, c), b) ∈ op.blobsWritten serde ∧ serde.values.dumpsTyped v = .ok b) ↔
      ∃ config checkpoint metadata newVersions values pre post,
        op = .put config checkpoint metadata newVersions ∧
        config.threadId = some t ∧ config.checkpointNs = some ns ∧
        checkpoint.channelValues = some values ∧ newVersions.entries = pre ++ (k, c) :: post ∧
        (∀ p ∈ pre, ∀ x, values.get p.1 = some x → ∃ b, serde.values.dumpsTyped x = .ok b) ∧
        values.get k = some v ∧ ∃ b, serde.values.dumpsTyped v = .ok b := by
  constructor
  · rintro ⟨b, hw, hv⟩
    cases op with
    | put config checkpoint metadata newVersions =>
      simp only [Op.blobsWritten, putBlobs] at hw
      rcases ht : config.threadId with _ | t' <;> rcases hn : config.checkpointNs with _ | ns' <;>
        rcases hc : checkpoint.channelValues with _ | values <;> simp only [ht, hn, hc] at hw <;>
        try cases hw
      obtain ⟨pre, k', c', post, hl, hpre, hkey, hb⟩ := (mem_blobWrites_iff serde).1 hw
      cases hkey
      refine ⟨config, checkpoint, metadata, newVersions, values, pre, post, rfl, ht, hn, hc, hl,
        hpre, ?_, b, hv⟩
      rcases hb with ⟨-, rfl⟩ | ⟨x, hx, hxb⟩
      · exact absurd rfl (hserde.values.tag_ne_empty v _ hv)
      · rw [hx, ← hserde.values.loads_dumps x b hxb, hserde.values.loads_dumps v b hv]
    | _ => cases hw
  · rintro ⟨config, checkpoint, metadata, newVersions, values, pre, post, rfl, ht, hn, hc, hl, hpre,
      hv, b, hb⟩
    refine ⟨b, ?_, hb⟩
    simp only [Op.blobsWritten, putBlobs, ht, hn, hc]
    exact (mem_blobWrites_iff serde).2 ⟨pre, k, c, post, hl, hpre, rfl, .inr ⟨v, hv, hb⟩⟩

variable [DecidableEq V] [PyNone V] (writesIdxMap : WritesIdxMap)
  (getCheckpointMetadata : RunnableConfig → CheckpointMetadata V → CheckpointMetadata V)

/-- The channel values a run leaves for `(t, ns)` at the versions `versions`: a channel has a
value exactly when some `put` on `(t, ns)` since the run last deleted `t` wrote that value at its
version. -/
theorem loadBlobs_run_get (hserde : serde.Lawful) {ops : List (Op V R)}
    (hblobs : ∀ op₁ ∈ ops, ∀ op₂ ∈ ops, ∀ key b₁ b₂,
      (key, b₁) ∈ op₁.blobsWritten serde → (key, b₂) ∈ op₂.blobsWritten serde → b₁ = b₂)
    (t ns : String) (versions : Dict String String) (k : String) (v : V) :
    (loadBlobs serde (run serde writesIdxMap getCheckpointMetadata init ops) t ns versions).get k =
        some v ↔
      ∃ c, versions.get k = some c ∧ ∃ op ∈ sinceDelete t ops, ∃ b,
        ((t, ns, k, c), b) ∈ op.blobsWritten serde ∧ serde.values.dumpsTyped v = .ok b := by
  rw [loadBlobs_get]
  constructor
  · intro h
    obtain ⟨c, hc, h⟩ := Option.bind_eq_some.1 h
    obtain ⟨vv, hvv, h⟩ := Option.bind_eq_some.1 h
    obtain ⟨op, hop, hw⟩ := blobs_run_get_some serde getCheckpointMetadata writesIdxMap hvv
    have htag : vv.tag ≠ "empty" := fun he => by simp [blobValue, he] at h
    rcases mem_blobsWritten serde hw with rfl | ⟨x, hx⟩
    · exact absurd rfl htag
    · have hv : v = x := by
        simp only [blobValue, htag, if_false, Option.some.injEq] at h
        rw [← h, hserde.values.loads_dumps x vv hx]
      exact ⟨c, hc, op, hop, vv, hw, hv ▸ hx⟩
  · rintro ⟨c, hc, op, hop, b, hw, hv⟩
    obtain ⟨vv, hvv⟩ := Option.isSome_iff_exists.1
      (blobs_run_isSome serde getCheckpointMetadata writesIdxMap hop hw)
    obtain ⟨op', hop', hw'⟩ := blobs_run_get_some serde getCheckpointMetadata writesIdxMap hvv
    have hb : vv = b := hblobs op' (mem_of_mem_sinceDelete hop') op (mem_of_mem_sinceDelete hop)
      _ _ _ hw' hw
    subst hb
    simp [hc, hvv, blobValue, hserde.values.tag_ne_empty v vv hv,
      hserde.values.loads_dumps v vv hv]

/-- **Round trip.** After a run from `InMemorySaver()`, `get_tuple` on the address of a stored
checkpoint returns, echoing its config, the checkpoint of the last `put` there since the thread
was last deleted (whose call returned that address), with every key but `channel_values` as
given, that `put`'s metadata through `get_checkpoint_metadata`, a parent config naming that
`put`'s `checkpoint_id` when it is non-empty, and as channel values exactly these: channel `k`
has value `v` when some `put` on the same thread and namespace since the thread was last deleted
had `new_versions[k]` equal to the checkpoint's version of `k` and `channel_values[k] = v`, and
got to `k` in its loop over `new_versions`, every value before it serializing. -/
theorem getTuple_run_roundtrip (hserde : serde.Lawful) (ops : List (Op V R))
    (hblobs : ∀ op₁ ∈ ops, ∀ op₂ ∈ ops, ∀ key b₁ b₂,
      (key, b₁) ∈ op₁.blobsWritten serde → (key, b₂) ∈ op₂.blobsWritten serde → b₁ = b₂)
    {t ns id : String} (hid : id ≠ "")
    (hstored : id ∈ ((run serde writesIdxMap getCheckpointMetadata init ops).checkpointsAt t ns).keys) :
    ∃ config checkpoint metadata newVersions,
      lastPut serde getCheckpointMetadata t ns id ops =
        some (config, checkpoint, metadata, newVersions) ∧
      (∀ s, (put serde getCheckpointMetadata s config checkpoint metadata newVersions).2 =
        .ok ⟨some t, some ns, some id⟩) ∧
      ∃ τ cv, (getTuple serde (run serde writesIdxMap getCheckpointMetadata init ops)
          ⟨some t, some ns, some id⟩).2 = .ok (some τ) ∧
        τ.config = ⟨some t, some ns, some id⟩ ∧
        τ.checkpoint = { checkpoint with channelValues := some cv } ∧
        τ.metadata = getCheckpointMetadata config metadata ∧
        τ.parentConfig = (truthy config.checkpointId).map (fun p => ⟨some t, some ns, some p⟩) ∧
        ∀ k v, cv.get k = some v ↔
          ∃ c, checkpoint.channelVersions.get k = some c ∧
            ∃ config' checkpoint' metadata' newVersions' values pre post,
              Op.put config' checkpoint' metadata' newVersions' ∈ sinceDelete t ops ∧
              config'.threadId = some t ∧ config'.checkpointNs = some ns ∧
              checkpoint'.channelValues = some values ∧
              newVersions'.entries = pre ++ (k, c) :: post ∧
              (∀ p ∈ pre, ∀ x, values.get p.1 = some x → ∃ b, serde.values.dumpsTyped x = .ok b) ∧
              values.get k = some v ∧ ∃ b, serde.values.dumpsTyped v = .ok b := by
  set s := run serde writesIdxMap getCheckpointMetadata init ops
  obtain ⟨saved, hsaved⟩ := Option.isSome_iff_exists.1 (Dict.mem_keys.1 hstored)
  have hrun := checkpointsAt_run_get serde getCheckpointMetadata writesIdxMap ops t ns id
  rw [hsaved] at hrun
  obtain ⟨⟨config, checkpoint, metadata, newVersions⟩, hlast, hmap⟩ :=
    Option.bind_eq_some.1 hrun.symm
  obtain ⟨saved', hrec⟩ := lastPut_record serde getCheckpointMetadata hlast
  rw [hrec] at hmap
  cases hmap
  obtain ⟨-, -, -, cb, mb, hcb, hmb, rfl⟩ := putRecord_eq_some serde getCheckpointMetadata _ _ _ _ hrec
  refine ⟨config, checkpoint, metadata, newVersions, hlast,
    fun s' => put_snd_of_putRecord serde getCheckpointMetadata s' _ _ _ _ hrec, ?_⟩
  rw [getTuple_snd_of_id serde s rfl (by rw [getCheckpointId, truthy_some, if_neg hid])]
  simp only [Option.getD_some, hsaved, Option.map_some']
  refine ⟨_, loadBlobs serde s t ns checkpoint.channelVersions, rfl, rfl, ?_,
    hserde.metadata.loads_dumps _ _ hmb, rfl, ?_⟩
  · simp only [checkpointTuple, hserde.checkpoints.loads_dumps _ _ hcb]
  · intro k v
    rw [loadBlobs_run_get serde writesIdxMap getCheckpointMetadata hserde hblobs t ns _ k v]
    refine exists_congr fun c => and_congr_right fun _ => ⟨?_, ?_⟩
    · rintro ⟨op, hop, hw⟩
      obtain ⟨config', checkpoint', metadata', newVersions', values, pre, post, rfl, h⟩ :=
        (blobsWritten_value_iff serde hserde op t ns k c v).1 hw
      exact ⟨config', checkpoint', metadata', newVersions', values, pre, post, hop, h⟩
    · rintro ⟨config', checkpoint', metadata', newVersions', values, pre, post, hop, h⟩
      exact ⟨_, hop, (blobsWritten_value_iff serde hserde _ t ns k c v).2
        ⟨config', checkpoint', metadata', newVersions', values, pre, post, rfl, h⟩⟩

theorem getTuple_run_roundtrip_single :
    unitSerde.Lawful ∧
      (∀ op₁ ∈ [Op.put ⟨some "t", some "", none⟩ unitCheckpoint ∅
          ((∅ : Dict String String).set "x" "1.0")],
        ∀ op₂ ∈ [Op.put ⟨some "t", some "", none⟩ unitCheckpoint ∅
          ((∅ : Dict String String).set "x" "1.0")],
        ∀ key b₁ b₂, (key, b₁) ∈ op₁.blobsWritten unitSerde →
          (key, b₂) ∈ op₂.blobsWritten unitSerde → b₁ = b₂) ∧
      "1" ≠ "" ∧
      "1" ∈ ((run unitSerde WritesIdxMap.empty (fun _ m => m) init
        [Op.put ⟨some "t", some "", none⟩ unitCheckpoint ∅
          ((∅ : Dict String String).set "x" "1.0")]).checkpointsAt "t" "").keys ∧
      ∃ config checkpoint metadata newVersions,
        lastPut unitSerde (fun _ m => m) "t" "" "1"
            [Op.put ⟨some "t", some "", none⟩ unitCheckpoint ∅
              ((∅ : Dict String String).set "x" "1.0")] =
          some (config, checkpoint, metadata, newVersions) ∧
        (∀ s, (put unitSerde (fun _ m => m) s config checkpoint metadata newVersions).2 =
          .ok ⟨some "t", some "", some "1"⟩) ∧
        ∃ τ cv, (getTuple unitSerde (run unitSerde WritesIdxMap.empty (fun _ m => m) init
            [Op.put ⟨some "t", some "", none⟩ unitCheckpoint ∅
              ((∅ : Dict String String).set "x" "1.0")]) ⟨some "t", some "", some "1"⟩).2 =
              .ok (some τ) ∧
          τ.config = ⟨some "t", some "", some "1"⟩ ∧
          τ.checkpoint = { checkpoint with channelValues := some cv } ∧
          τ.metadata = metadata ∧
          τ.parentConfig = (truthy config.checkpointId).map (fun p => ⟨some "t", some "", some p⟩) ∧
          ∀ k v, cv.get k = some v ↔
            ∃ c, checkpoint.channelVersions.get k = some c ∧
              ∃ config' checkpoint' metadata' newVersions' values pre post,
                Op.put config' checkpoint' metadata' newVersions' ∈ sinceDelete "t"
                  [Op.put ⟨some "t", some "", none⟩ unitCheckpoint ∅
                    ((∅ : Dict String String).set "x" "1.0")] ∧
                config'.threadId = some "t" ∧ config'.checkpointNs = some "" ∧
                checkpoint'.channelValues = some values ∧
                newVersions'.entries = pre ++ (k, c) :: post ∧
                (∀ p ∈ pre, ∀ x, values.get p.1 = some x →
                  ∃ b, unitSerde.values.dumpsTyped x = .ok b) ∧
                values.get k = some v ∧ ∃ b, unitSerde.values.dumpsTyped v = .ok b := by
  have hL : unitSerde.Lawful :=
    ⟨Codec.single_lawful _ (by decide), Codec.single_lawful _ (by decide),
      Codec.single_lawful _ (by decide)⟩
  have hB : ∀ op₁ ∈ [Op.put ⟨some "t", some "", none⟩ unitCheckpoint ∅
          ((∅ : Dict String String).set "x" "1.0")],
        ∀ op₂ ∈ [Op.put ⟨some "t", some "", none⟩ unitCheckpoint ∅
          ((∅ : Dict String String).set "x" "1.0")],
        ∀ key b₁ b₂, (key, b₁) ∈ op₁.blobsWritten unitSerde →
          (key, b₂) ∈ op₂.blobsWritten unitSerde → b₁ = b₂ := by
    have hw : (Op.put ⟨some "t", some "", none⟩ unitCheckpoint ∅
        ((∅ : Dict String String).set "x" "1.0")).blobsWritten unitSerde =
          [(("t", "", "x", "1.0"), ⟨"unit", []⟩)] := by decide
    intro op₁ h₁ op₂ h₂ key b₁ b₂ m₁ m₂
    rw [List.mem_singleton] at h₁ h₂
    subst h₁ h₂
    rw [hw, List.mem_singleton, Prod.mk.injEq] at m₁ m₂
    rw [m₁.2, m₂.2]
  exact ⟨hL, hB, by decide, by decide,
    getTuple_run_roundtrip unitSerde WritesIdxMap.empty (fun _ m => m) hL _ hB (by decide)
      (by decide)⟩

end InMemorySaver

end CheckpointSaver
