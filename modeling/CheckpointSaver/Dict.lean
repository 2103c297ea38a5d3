import Mathlib.Data.List.Nodup
import Mathlib.Data.List.Perm.Basic

/-!
# Insertion-ordered dictionaries

The three tables of `InMemorySaver` are Python `dict`s, and what the saver returns depends on
their iteration order: `list` walks threads and namespaces in the order they were first
written, and `pending_writes` come back in the order their keys were first set. A `Dict` is
therefore the list of its items in insertion order, each key at most once, and `set` keeps an
existing key in its place while a new key goes to the end.

Two of the tables are `defaultdict`s. Reading `d[k]` there is `getD` for the value read and
`setdefault` for what the read leaves behind: an absent key is inserted with the factory's
value, which is how the saver's reads come to change its tables.
-/

namespace CheckpointSaver

/-- A Python `dict`: its items in insertion order, no key twice. -/
structure Dict (K V : Type) where
  /-- The items, in the order `items()` yields them. -/
  entries : List (K × V)
  /-- A key occurs at most once. -/
  nodup : (entries.map Prod.fst).Nodup

namespace Dict

variable {K V : Type}

@[ext]
theorem ext {d₁ d₂ : Dict K V} (h : d₁.entries = d₂.entries) : d₁ = d₂ := by
  cases d₁
  cases d₂
  cases h
  rfl

instance : EmptyCollection (Dict K V) := ⟨⟨[], List.nodup_nil⟩⟩

instance [DecidableEq K] [DecidableEq V] : DecidableEq (Dict K V) := fun d₁ d₂ =>
  decidable_of_iff (d₁.entries = d₂.entries) ⟨ext, fun h => h ▸ rfl⟩

@[simp]
theorem entries_empty : (∅ : Dict K V).entries = [] :=
  rfl

variable [DecidableEq K]

/-- `d.keys()`. -/
def keys (d : Dict K V) : List K :=
  d.entries.map Prod.fst

/-- `d.values()`. -/
def values (d : Dict K V) : List V :=
  d.entries.map Prod.snd

/-- `d.get(k)`. -/
def get (d : Dict K V) (k : K) : Option V :=
  d.entries.lookup k

/-- A `defaultdict` read `d[k]`: the stored value, or the factory's `v` when `k` is absent. -/
def getD (d : Dict K V) (k : K) (v : V) : V :=
  (d.get k).getD v

@[simp]
theorem get_empty (k : K) : (∅ : Dict K V).get k = none :=
  rfl

omit [DecidableEq K] in
@[simp]
theorem keys_empty : (∅ : Dict K V).keys = [] :=
  rfl

theorem lookup_cons_eq (k k' : K) (v : V) (l : List (K × V)) :
    ((k', v) :: l).lookup k = if k = k' then some v else l.lookup k := by
  by_cases h : k = k'
  · simp [h]
  · simp [List.lookup_cons, beq_false_of_ne h, h]

theorem lookup_eq_some_of_mem {l : List (K × V)} (hl : (l.map Prod.fst).Nodup) {k : K} {v : V}
    (h : (k, v) ∈ l) : l.lookup k = some v := by
  induction l with
  | nil => cases h
  | cons e l ih =>
    obtain ⟨k', v'⟩ := e
    simp only [List.map_cons, List.nodup_cons] at hl
    rcases List.mem_cons.1 h with h | h
    · cases h
      simp
    · have hne : k ≠ k' := fun hk => hl.1 (hk ▸ List.mem_map_of_mem Prod.fst h)
      rw [lookup_cons_eq, if_neg hne, ih hl.2 h]

theorem mem_of_lookup_eq_some {l : List (K × V)} {k : K} {v : V} (h : l.lookup k = some v) :
    (k, v) ∈ l := by
  obtain ⟨l₁, l₂, rfl, -⟩ := List.lookup_eq_some_iff.1 h
  simp

/-- An item is present exactly when `get` finds it. -/
theorem mem_entries {d : Dict K V} {k : K} {v : V} : (k, v) ∈ d.entries ↔ d.get k = some v :=
  ⟨lookup_eq_some_of_mem d.nodup, mem_of_lookup_eq_some⟩

theorem mem_keys {d : Dict K V} {k : K} : k ∈ d.keys ↔ (d.get k).isSome := by
  simp only [keys, get, List.lookup_isSome_iff, beq_iff_eq, List.mem_map]
  exact ⟨fun ⟨e, he, hk⟩ => ⟨e, he, hk.symm⟩, fun ⟨e, he, hk⟩ => ⟨e, he, hk.symm⟩⟩

theorem get_eq_none {d : Dict K V} {k : K} : d.get k = none ↔ k ∉ d.keys := by
  rw [mem_keys, Option.not_isSome_iff_eq_none]

/-! ### Setting a key -/

/-- `d[k] = v` on the item list: replace the value in place, or append a new item. -/
def setEntry (k : K) (v : V) : List (K × V) → List (K × V)
  | [] => [(k, v)]
  | e :: l => if e.1 = k then (k, v) :: l else e :: setEntry k v l

theorem map_fst_setEntry (k : K) (v : V) (l : List (K × V)) :
    (setEntry k v l).map Prod.fst =
      if k ∈ l.map Prod.fst then l.map Prod.fst else l.map Prod.fst ++ [k] := by
  induction l with
  | nil => rfl
  | cons e l ih =>
    by_cases he : e.1 = k
    · simp [setEntry, he]
    · by_cases hk : k ∈ l.map Prod.fst <;> simp [setEntry, he, ih, hk, Ne.symm he]

theorem lookup_setEntry (k k' : K) (v : V) (l : List (K × V)) :
    (setEntry k v l).lookup k' = if k' = k then some v else l.lookup k' := by
  induction l with
  | nil => simp [setEntry, lookup_cons_eq]
  | cons e l ih =>
    obtain ⟨k'', v'⟩ := e
    by_cases he : k'' = k
    · subst he
      by_cases h : k' = k'' <;> simp [setEntry, lookup_cons_eq, h]
    · simp only [setEntry, he, if_false, lookup_cons_eq, ih]
      by_cases h : k' = k'' <;> simp [h, he]

/-- `d[k] = v`. -/
def set (d : Dict K V) (k : K) (v : V) : Dict K V where
  entries := setEntry k v d.entries
  nodup := by
    rw [map_fst_setEntry]
    split
    · exact d.nodup
    · next h => exact d.nodup.append (List.nodup_singleton k) (by simpa using h)

@[simp]
theorem get_set (d : Dict K V) (k k' : K) (v : V) :
    (d.set k v).get k' = if k' = k then some v else d.get k' :=
  lookup_setEntry k k' v d.entries

theorem get_set_self (d : Dict K V) (k : K) (v : V) : (d.set k v).get k = some v := by
  simp

@[simp]
theorem getD_set_self (d : Dict K V) (k : K) (v v₀ : V) : (d.set k v).getD k v₀ = v := by
  simp [getD]

theorem get_set_ne (d : Dict K V) {k k' : K} (v : V) (h : k' ≠ k) :
    (d.set k v).get k' = d.get k' := by
  simp [h]

/-- A new key is appended; an existing one keeps its place. -/
theorem keys_set (d : Dict K V) (k : K) (v : V) :
    (d.set k v).keys = if k ∈ d.keys then d.keys else d.keys ++ [k] :=
  map_fst_setEntry k v d.entries

/-- Setting a key to the value it already has changes nothing, its position included. -/
theorem set_of_get_eq {d : Dict K V} {k : K} {v : V} (h : d.get k = some v) : d.set k v = d := by
  have hmem := mem_entries.2 h
  ext1
  show setEntry k v d.entries = d.entries
  have key : ∀ l : List (K × V), (k, v) ∈ l → (l.map Prod.fst).Nodup → setEntry k v l = l := by
    intro l
    induction l with
    | nil => intro h; cases h
    | cons e l ih =>
      intro hm hl
      simp only [List.map_cons, List.nodup_cons] at hl
      rcases List.mem_cons.1 hm with rfl | hm
      · simp [setEntry]
      · have hne : e.1 ≠ k := fun he => hl.1 (he ▸ List.mem_map_of_mem Prod.fst hm)
        simp [setEntry, hne, ih hm hl.2]
  exact key _ hmem d.nodup

theorem set_set (d : Dict K V) (k : K) (v v' : V) : (d.set k v).set k v' = d.set k v' := by
  have key : ∀ l : List (K × V), setEntry k v' (setEntry k v l) = setEntry k v' l := by
    intro l
    induction l with
    | nil => simp [setEntry]
    | cons e l ih => by_cases h : e.1 = k <;> simp [setEntry, h, ih]
  exact ext (key d.entries)

/-- `d[k] = v` for each item of `l`, in order. -/
def setMany (d : Dict K V) (l : List (K × V)) : Dict K V :=
  l.foldl (fun d kv => d.set kv.1 kv.2) d

/-- The last write to a key wins. -/
theorem get_setMany (d : Dict K V) (l : List (K × V)) (k : K) :
    (d.setMany l).get k = (l.reverse.lookup k).or (d.get k) := by
  induction l generalizing d with
  | nil => simp [setMany]
  | cons kv l ih =>
    obtain ⟨k', v⟩ := kv
    simp only [setMany, List.foldl_cons] at ih ⊢
    rw [ih, List.reverse_cons, List.lookup_append, Option.or_assoc, get_set, lookup_cons_eq]
    by_cases h : k = k' <;> simp [h]

/-- Writes to keys that later writes overwrite leave no trace. -/
theorem get_setMany_setMany_of_subset {d : Dict K V} {l l' : List (K × V)}
    (h : l.map Prod.fst ⊆ l'.map Prod.fst) (k : K) :
    ((d.setMany l).setMany l').get k = (d.setMany l').get k := by
  rw [get_setMany, get_setMany, get_setMany]
  cases hk : l'.reverse.lookup k with
  | some v => rfl
  | none =>
    have hl : l.reverse.lookup k = none := List.lookup_eq_none_iff.2 fun p hp => by
      obtain ⟨q, hq, hpq⟩ := List.mem_map.1 (h (List.mem_map_of_mem Prod.fst (List.mem_reverse.1 hp)))
      have := List.lookup_eq_none_iff.1 hk q (List.mem_reverse.2 hq)
      rwa [hpq] at this
    rw [hl]
    rfl

/-- Writes to other keys leave a key alone. -/
theorem get_setMany_of_forall_ne {d : Dict K V} {l : List (K × V)} {k : K}
    (h : ∀ kv ∈ l, kv.1 ≠ k) : (d.setMany l).get k = d.get k := by
  rw [get_setMany, List.lookup_eq_none_iff.2 fun p hp => bne_iff_ne.2 (h p (List.mem_reverse.1 hp)).symm]
  rfl

theorem mem_or_get_of_get_setMany {d : Dict K V} {l : List (K × V)} {k : K} {v : V}
    (h : (d.setMany l).get k = some v) : (k, v) ∈ l ∨ d.get k = some v := by
  rw [get_setMany] at h
  cases hl : l.reverse.lookup k with
  | none => rw [hl, Option.none_or] at h; exact .inr h
  | some v' =>
    rw [hl, Option.or_some] at h
    cases h
    exact .inl (List.mem_reverse.1 (mem_of_lookup_eq_some hl))

theorem isSome_get_setMany {d : Dict K V} {l : List (K × V)} {k : K}
    (h : (∃ v, (k, v) ∈ l) ∨ (d.get k).isSome) : ((d.setMany l).get k).isSome := by
  rw [get_setMany]
  rcases h with ⟨v, hv⟩ | h
  · have : (l.reverse.lookup k).isSome := by
      rw [List.lookup_isSome_iff]
      exact ⟨(k, v), List.mem_reverse.2 hv, by simp⟩
    obtain ⟨v', hv'⟩ := Option.isSome_iff_exists.1 this
    simp [hv']
  · cases hl : l.reverse.lookup k <;> simp [h]

/-- `d[k] = f(d[k])` when `k` is present, in its place; nothing when it is absent. -/
def modify (d : Dict K V) (k : K) (f : V → V) : Dict K V where
  entries := d.entries.map fun e => if e.1 = k then (e.1, f e.2) else e
  nodup := by
    rw [List.map_map]
    convert d.nodup using 2
    funext e
    simp only [Function.comp_apply]
    split_ifs <;> rfl

theorem get_modify (d : Dict K V) (k k' : K) (f : V → V) :
    (d.modify k f).get k' = if k' = k then (d.get k).map f else d.get k' := by
  simp only [get, modify]
  induction d.entries with
  | nil => simp
  | cons e l ih =>
    obtain ⟨k₁, v⟩ := e
    by_cases h₁ : k₁ = k
    · subst h₁
      by_cases h : k' = k₁ <;> simp [lookup_cons_eq, h, ih]
    · by_cases h : k' = k₁
      · subst h
        simp [lookup_cons_eq, h₁]
      · simp [lookup_cons_eq, h₁, Ne.symm h₁, h, ih]

/-! ### Filtering and deleting -/

/-- The items whose key satisfies `p`, in their order. -/
def filter (p : K → Bool) (d : Dict K V) : Dict K V where
  entries := d.entries.filter fun e => p e.1
  nodup := d.nodup.sublist ((List.filter_sublist _).map _)

theorem lookup_filter (p : K → Bool) (k : K) (l : List (K × V)) :
    (l.filter fun e => p e.1).lookup k = if p k then l.lookup k else none := by
  induction l with
  | nil => simp
  | cons e l ih =>
    obtain ⟨k', v⟩ := e
    by_cases hk : k = k'
    · subst hk
      by_cases hp : p k <;> simp [List.filter_cons, hp, lookup_cons_eq, ih]
    · by_cases hp : p k' <;> simp [List.filter_cons, hp, lookup_cons_eq, hk, ih]

@[simp]
theorem get_filter (p : K → Bool) (d : Dict K V) (k : K) :
    (d.filter p).get k = if p k then d.get k else none :=
  lookup_filter p k d.entries

/-- `del d[k]`, also when `k` is absent. -/
def erase (d : Dict K V) (k : K) : Dict K V :=
  d.filter fun k' => k' ≠ k

@[simp]
theorem get_erase (d : Dict K V) (k k' : K) :
    (d.erase k).get k' = if k' = k then none else d.get k' := by
  by_cases h : k' = k <;> simp [erase, h]

theorem entries_erase (d : Dict K V) (k : K) :
    (d.erase k).entries = d.entries.filter fun e => e.1 ≠ k :=
  rfl

theorem keys_erase (d : Dict K V) (k : K) : (d.erase k).keys = d.keys.filter fun k' => k' ≠ k := by
  simp only [keys, entries_erase, List.filter_map]
  rfl

/-- Deleting, over a snapshot of the keys, each key satisfying `p` keeps exactly the others. -/
theorem foldl_erase_keys (d : Dict K V) (p : K → Prop) [DecidablePred p] :
    d.keys.foldl (fun d' k => if p k then d'.erase k else d') d = d.filter fun k => ¬p k := by
  have key : ∀ (ks : List K) (d' : Dict K V),
      (ks.foldl (fun d' k => if p k then d'.erase k else d') d').entries =
        d'.entries.filter fun e => ¬(p e.1 ∧ e.1 ∈ ks) := by
    intro ks
    induction ks with
    | nil => intro d'; simp
    | cons k ks ih =>
      intro d'
      rw [List.foldl_cons, ih]
      split
      · rw [entries_erase, List.filter_filter]
        refine List.filter_congr fun e _ => ?_
        by_cases he : e.1 = k <;> simp [he, *]
      · refine List.filter_congr fun e _ => ?_
        by_cases he : e.1 = k <;> simp [he, *]
  ext1
  rw [key]
  refine List.filter_congr fun e he => ?_
  have : e.1 ∈ d.keys := List.mem_map_of_mem _ he
  simp [filter, this]

/-! ### `defaultdict` reads -/

/-- What a `defaultdict` read `d[k]` leaves behind: `k` inserted with the factory's `v` when
absent, nothing changed otherwise. -/
def setdefault (d : Dict K V) (k : K) (v : V) : Dict K V :=
  match d.get k with
  | some _ => d
  | none => d.set k v

@[simp]
theorem get_setdefault (d : Dict K V) (k k' : K) (v : V) :
    (d.setdefault k v).get k' = if k' = k then some (d.getD k v) else d.get k' := by
  unfold setdefault getD
  split
  · next w h =>
    by_cases hk : k' = k
    · subst hk
      simp [h]
    · simp [hk]
  · next h => simp [h]

theorem getD_setdefault (d : Dict K V) (k : K) (v : V) : (d.setdefault k v).getD k v = d.getD k v := by
  simp [getD]

/-- Setting a key after reading it is setting it. -/
theorem setdefault_set (d : Dict K V) (k : K) (v v' : V) : (d.setdefault k v).set k v' = d.set k v' := by
  unfold setdefault
  split
  · rfl
  · exact set_set d k v v'

/-- A second read of a key finds it. -/
theorem setdefault_setdefault (d : Dict K V) (k : K) (v v' : V) :
    (d.setdefault k v).setdefault k v' = d.setdefault k v := by
  have h : ((d.setdefault k v).get k).isSome := by simp
  obtain ⟨x, hx⟩ := Option.isSome_iff_exists.1 h
  rw [setdefault, hx]

/-- A read of an absent key appends it; a read of a present one changes no position. -/
theorem keys_setdefault (d : Dict K V) (k : K) (v : V) :
    (d.setdefault k v).keys = if k ∈ d.keys then d.keys else d.keys ++ [k] := by
  unfold setdefault
  split
  · next w h => rw [if_pos (mem_keys.2 (by rw [h]; rfl))]
  · exact keys_set d k v

/-! ### Folds over the items -/

/-- A fold over `d`'s items whose step at `(k', v)` can only change key `k'`, by `r k' v` when
that is a value: the result at `k` is `r k (d[k])`, or else the start's value. -/
theorem get_foldl_entries {W : Type} (d : Dict K V) (f : Dict K W → K × V → Dict K W)
    (r : K → V → Option W)
    (hf : ∀ acc k' v k, (f acc (k', v)).get k = if k = k' then (r k' v).or (acc.get k) else acc.get k)
    (acc : Dict K W) (k : K) :
    (d.entries.foldl f acc).get k = ((d.get k).bind (r k)).or (acc.get k) := by
  obtain ⟨l, hl⟩ := d
  show (l.foldl f acc).get k = ((l.lookup k).bind (r k)).or (acc.get k)
  induction l generalizing acc with
  | nil => simp
  | cons e l ih =>
    obtain ⟨k', v⟩ := e
    simp only [List.map_cons, List.nodup_cons] at hl
    rw [List.foldl_cons, ih _ hl.2, hf, lookup_cons_eq]
    by_cases h : k = k'
    · subst h
      have : l.lookup k = none := by
        cases hk : l.lookup k with
        | none => rfl
        | some w => exact absurd (List.mem_map_of_mem Prod.fst (mem_of_lookup_eq_some hk)) hl.1
      simp [this]
    · simp [h]

/-- A key new to the items is appended. -/
theorem setEntry_of_not_mem {k : K} (v : V) {l : List (K × V)} (h : k ∉ l.map Prod.fst) :
    setEntry k v l = l ++ [(k, v)] := by
  induction l with
  | nil => rfl
  | cons e l ih =>
    simp only [List.map_cons, List.mem_cons, not_or] at h
    simp [setEntry, Ne.symm h.1, ih h.2]

/-- Setting items whose keys are distinct and new appends them. -/
theorem entries_setMany_of_fresh {d : Dict K V} {l : List (K × V)} (hl : (l.map Prod.fst).Nodup)
    (hfresh : ∀ kv ∈ l, kv.1 ∉ d.keys) : (d.setMany l).entries = d.entries ++ l := by
  induction l generalizing d with
  | nil => simp [setMany]
  | cons kv l ih =>
    obtain ⟨k, v⟩ := kv
    simp only [List.map_cons, List.nodup_cons] at hl
    have hset : (d.set k v).entries = d.entries ++ [(k, v)] :=
      setEntry_of_not_mem v (hfresh _ (List.mem_cons_self _ _))
    show ((d.set k v).setMany l).entries = _
    rw [ih hl.2 fun kv hkv => ?_, hset, List.append_assoc, List.singleton_append]
    rw [keys, hset, List.map_append, List.mem_append, not_or]
    exact ⟨hfresh kv (List.mem_cons_of_mem _ hkv),
      fun h => hl.1 (by simpa [List.mem_singleton.1 h] using List.mem_map_of_mem Prod.fst hkv)⟩

/-- `update` of an empty dict copies the other. -/
theorem setMany_empty_entries (d : Dict K V) : (∅ : Dict K V).setMany d.entries = d :=
  ext (by rw [entries_setMany_of_fresh d.nodup fun _ _ => List.not_mem_nil _]; rfl)

/-! ### Equal contents -/

/-- Two dicts with the same `get` hold the same items, possibly in another order. -/
theorem perm_of_get {d₁ d₂ : Dict K V} (h : ∀ k, d₁.get k = d₂.get k) :
    d₁.entries.Perm d₂.entries := by
  refine (List.perm_ext_iff_of_nodup (d₁.nodup.of_map _) (d₂.nodup.of_map _)).2 ?_
  rintro ⟨k, v⟩
  rw [mem_entries, mem_entries, h]

/-- Two dicts with the same keys, in the same order, and the same `get` are equal. -/
theorem ext_of_keys_get {d₁ d₂ : Dict K V} (hk : d₁.keys = d₂.keys)
    (hg : ∀ k, d₁.get k = d₂.get k) : d₁ = d₂ := by
  have hlen : d₁.entries.length = d₂.entries.length := by
    simpa [keys] using congrArg List.length hk
  refine ext (List.ext_getElem hlen fun i h₁ h₂ => ?_)
  have hfst : d₁.entries[i].1 = d₂.entries[i].1 := by
    simpa [keys, h₁, h₂] using congrArg (fun l => l[i]?) hk
  have e₁ := mem_entries.1
    (show (d₁.entries[i].1, d₁.entries[i].2) ∈ d₁.entries from List.getElem_mem h₁)
  have e₂ := mem_entries.1
    (show (d₂.entries[i].1, d₂.entries[i].2) ∈ d₂.entries from List.getElem_mem h₂)
  rw [hg, hfst, e₂] at e₁
  exact Prod.ext hfst (Option.some.inj e₁).symm

theorem keys_setMany_of_mem {d : Dict K V} {l : List (K × V)} (h : ∀ kv ∈ l, kv.1 ∈ d.keys) :
    (d.setMany l).keys = d.keys := by
  induction l generalizing d with
  | nil => rfl
  | cons kv l ih =>
    have hkeys : (d.set kv.1 kv.2).keys = d.keys := by
      rw [keys_set, if_pos (h kv (List.mem_cons_self _ _))]
    show ((d.set kv.1 kv.2).setMany l).keys = _
    rw [ih fun kv' h' => hkeys ▸ h kv' (List.mem_cons_of_mem _ h'), hkeys]

/-- Setting the same items twice is setting them once, the order of the keys included. -/
theorem setMany_setMany_self (d : Dict K V) (l : List (K × V)) :
    (d.setMany l).setMany l = d.setMany l := by
  refine ext_of_keys_get (keys_setMany_of_mem fun kv hkv =>
    mem_keys.2 (isSome_get_setMany (.inl ⟨kv.2, hkv⟩))) fun k => ?_
  rw [get_setMany, get_setMany]
  cases l.reverse.lookup k <;> rfl

end Dict

end CheckpointSaver
