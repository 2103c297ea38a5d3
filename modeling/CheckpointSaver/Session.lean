import CheckpointSaver.Reload

/-!
# Sessions of a `PersistentDict`

A program holds a `PersistentDict` for as long as it likes. Between calls it changes the mapping
(`d[k] = v`, `del d[k]`, `update`, ...) and, since they are plain attributes, `flag`, `mode` and
`format`; and it calls `sync()`, `close()` and `load()` when it likes, each against the file
system and the failures of its moment (`Call`). A call that raises does not end the session: the
program may catch the exception and go on, with the world and the dict the call left (`step`).
Nothing changes `filename`.

**The file is never torn.** When `os.rename` does not raise, every file system a session passes
through holds at the destination what it held when the session began, or the complete pickle of
the mapping as it was at one of the session's `sync()` or `close()` calls
(`session_dest_intact`). A partial pickle only ever stands in the temporary file, `load` writes
nothing, and what `close` clears is the mapping, not the file. A mapping that was never handed to
`sync` or `close` is never on disk. So a crash at any moment of a session leaves a file that a
fresh `PersistentDict` loads back as exactly one of the saved mappings, when the pickler and the
unpickler invert each other (`session_crash_recovers`).

## The theorems, and what each rests on

* `session_dest_intact` is one induction over the session (`session_keeps_dest`) on one step
  lemma (`step_keeps_dest`): a `sync` keeps every property of the destination that the new
  complete pickle has (`sync_keeps_dest`), the world `close` leaves is the one its `sync` left
  (`close_fst`), and every file system of a `load` is one the session had before it
  (`load_reads`). The step keeps the filename (`filename_step`).
* `session_crash_recovers` runs the same induction with "a fresh dict loads a saved mapping"
  as the property of the destination, which the complete pickle of a saved mapping has by
  `load_init_of_pickle`.
-/

namespace CheckpointSaver

namespace PersistentDict

variable {K V : Type} [DecidableEq K]

/-- A call a program makes on its `PersistentDict`: a change of the mapping and of the
attributes `flag`, `mode` and `format`, or `sync()`, `close()` or `load()`, each with the
environment of its moment. -/
inductive Call (K V : Type)
  | assign (flag : String) (mode : Option Nat) (format : String) (data : Dict K V)
  | sync (env : Env)
  | close (env : Env)
  | load (env : Env)

/-- Whether a call saves the mapping: `sync()` and `close()` do. -/
def Call.saves {K V : Type} : Call K V → Bool
  | .sync _ | .close _ => true
  | _ => false

/-- A `sync()` or `close()` of a dict saved to `filename` runs where `os.rename` of its
temporary file onto `filename` does not raise. -/
def Call.RenameOk {K V : Type} (filename : String) : Call K V → Prop
  | .sync env | .close env => env (.rename (filename ++ ".tmp") filename) = none
  | _ => True

variable (pickle : Pickler K V) (unpickle : Unpickler K V)

/-- The world and the dict after one call, whether it returned or raised. -/
def step : World × PersistentDict K V → Call K V → World × PersistentDict K V
  | (w, d), .assign flag mode format data => (w, ⟨flag, mode, format, d.filename, data⟩)
  | (w, d), .sync env => ((d.sync env pickle w).1, d)
  | (w, d), .close env => (d.close env pickle w).1
  | (w, d), .load env => (d.load env unpickle w).1

/-- The world and the dict after a session. -/
def session (s : World × PersistentDict K V) (calls : List (Call K V)) :
    World × PersistentDict K V :=
  calls.foldl (step pickle unpickle) s

/-- Each call of a session, beside the world and the dict it is made in. -/
def trace : World × PersistentDict K V → List (Call K V) →
    List ((World × PersistentDict K V) × Call K V)
  | _, [] => []
  | s, c :: cs => (s, c) :: trace (step pickle unpickle s c) cs

omit [DecidableEq K] in
theorem close_fst (env : Env) (d : PersistentDict K V) (w : World) :
    (close env pickle d w).1.1 = (sync env pickle d w).1 := by
  unfold close
  rcases sync env pickle d w with ⟨w', _ | ⟨⟩⟩ <;> rfl

@[simp]
theorem filename_step (s : World × PersistentDict K V) (c : Call K V) :
    (step pickle unpickle s c).2.filename = s.2.filename := by
  obtain ⟨w, d⟩ := s
  cases c with
  | close env =>
    show (d.close env pickle w).1.2.filename = d.filename
    unfold close
    rcases sync env pickle d w with ⟨w', _ | ⟨⟩⟩ <;> rfl
  | load env =>
    rcases (load_reads env unpickle d w).2 with h | ⟨m, -, h⟩ <;> simp only [step, h, update]
  | _ => rfl

variable {pickle unpickle}

/-- **Step.** Every call keeps every property of the destination's content that the complete
pickle of the mapping has, when the call saves it, and that holds at the start. -/
theorem step_keeps_dest {P : Option Bytes → Prop} {f : String} {s : World × PersistentDict K V}
    {c : Call K V} (hf : s.2.filename = f) (hrename : c.RenameOk f)
    (hnew : c.saves → ∀ b, newPickle pickle s.2 = some b → P (some b))
    (hs : s.1.Holds fun fs => P (fs.get f)) :
    (step pickle unpickle s c).1.Holds fun fs => P (fs.get f) := by
  obtain ⟨w, d⟩ := s
  subst hf
  cases c with
  | assign => exact hs
  | sync env => exact sync_keeps_dest env pickle d hrename P (hnew rfl) w hs
  | close env =>
    rw [step, close_fst]
    exact sync_keeps_dest env pickle d hrename P (hnew rfl) w hs
  | load env => exact fun fs hfs => hs fs ((load_reads env unpickle d w).1 fs hfs)

/-- **Run.** The same over a session, each saving call with the mapping it is made with. -/
theorem session_keeps_dest (P : Option Bytes → Prop) (f : String) :
    ∀ (calls : List (Call K V)) (s : World × PersistentDict K V), s.2.filename = f →
      (∀ c ∈ calls, c.RenameOk f) →
      (∀ x ∈ trace pickle unpickle s calls, x.2.saves →
        ∀ b, newPickle pickle x.1.2 = some b → P (some b)) →
      (s.1.Holds fun fs => P (fs.get f)) →
      (session pickle unpickle s calls).1.Holds fun fs => P (fs.get f)
  | [], _, _, _, _, hs => hs
  | c :: cs, s, hf, hrename, hnew, hs =>
    session_keeps_dest P f cs _ ((filename_step pickle unpickle s c).trans hf)
      (fun c' h => hrename c' (List.mem_cons_of_mem c h))
      (fun x hx => hnew x (List.mem_cons_of_mem _ hx))
      (step_keeps_dest hf (hrename c (List.mem_cons_self c cs))
        (hnew _ (List.mem_cons_self _ _)) hs)

/-- **The file is never torn.** For every dict, every prior file system and every session in
which no `sync()` or `close()` meets a raising `os.rename`, every file system the session passes
through holds at the destination its prior content, or the complete pickle of the mapping as it
was at one of the session's `sync()` or `close()` calls. -/
theorem session_dest_intact (d : PersistentDict K V) (fs₀ : FileSystem) (calls : List (Call K V))
    (hrename : ∀ c ∈ calls, c.RenameOk d.filename) :
    ∀ fs ∈ (session pickle unpickle (⟨fs₀, []⟩, d) calls).1.states,
      fs.get d.filename = fs₀.get d.filename ∨
        ∃ x ∈ trace pickle unpickle (⟨fs₀, []⟩, d) calls, x.2.saves ∧
          (newPickle pickle x.1.2).isSome ∧ fs.get d.filename = newPickle pickle x.1.2 :=
  session_keeps_dest (fun v => v = fs₀.get d.filename ∨
      ∃ x ∈ trace pickle unpickle (⟨fs₀, []⟩, d) calls, x.2.saves ∧
        (newPickle pickle x.1.2).isSome ∧ v = newPickle pickle x.1.2)
    d.filename calls _ rfl hrename
    (fun x hx hs _ hb => .inr ⟨x, hx, hs, by rw [hb]; rfl, hb.symm⟩)
    fun fs hfs => .inl (by rw [List.mem_singleton.1 hfs])

/-- A full disk for the temporary file of `state.pkl`: opening it raises. -/
def diskFull : Env := fun c =>
  if c = .openWrite "state.pkl.tmp" then some (.osError "OSError: [Errno 28] No space left on device")
  else none

/-- A session that sets a value, fails to `sync` on a full disk, then closes and loads. -/
def diskFullSession : List (Call Unit UInt8) :=
  [.assign "c" none "pickle" ((∅ : Dict Unit UInt8).set () 7), .sync diskFull,
    .close (fun _ => none), .load (fun _ => none)]

theorem session_dest_intact_diskFull :
    (∀ c ∈ diskFullSession, c.RenameOk "state.pkl") ∧
      ∀ fs ∈ (session valuesPickle valuesUnpickle (⟨(∅ : FileSystem).set "state.pkl" [1], []⟩,
          init "state.pkl" ∅) diskFullSession).1.states,
        fs.get "state.pkl" = ((∅ : FileSystem).set "state.pkl" [1]).get "state.pkl" ∨
          ∃ x ∈ trace valuesPickle valuesUnpickle (⟨(∅ : FileSystem).set "state.pkl" [1], []⟩,
              init "state.pkl" ∅) diskFullSession,
            x.2.saves ∧ (newPickle valuesPickle x.1.2).isSome ∧
              fs.get "state.pkl" = newPickle valuesPickle x.1.2 := by
  have h : ∀ c ∈ diskFullSession, c.RenameOk "state.pkl" := by
    simp [diskFullSession, Call.RenameOk, diskFull]
  exact ⟨h, session_dest_intact (init "state.pkl" ∅) _ _ h⟩

/-- **A crash at any moment recovers a saved mapping.** For a pickler and an unpickler that
invert each other, and every session in which no `sync()` or `close()` meets a raising
`os.rename`: at every file system the session passes through, the file holds its prior content,
or a fresh `PersistentDict` opened on it, in whatever environment lets its `open` and `close`
go through, loads exactly the mapping of one of the session's `sync()` or `close()` calls. -/
theorem session_crash_recovers (hlaw : ∀ m b, pickle m = (b, none) → unpickle true b = .ok m)
    (d : PersistentDict K V) (fs₀ : FileSystem) (calls : List (Call K V))
    (hrename : ∀ c ∈ calls, c.RenameOk d.filename) (env : Env)
    (hopen : env (.openRead d.filename) = none) (hclose : env (.close d.filename) = none) :
    ∀ fs ∈ (session pickle unpickle (⟨fs₀, []⟩, d) calls).1.states,
      fs.get d.filename = fs₀.get d.filename ∨
        ∃ x ∈ trace pickle unpickle (⟨fs₀, []⟩, d) calls, x.2.saves ∧
          (load env unpickle (init d.filename ∅) ⟨fs, []⟩).1.2 = init d.filename x.1.2.data ∧
          (load env unpickle (init d.filename ∅) ⟨fs, []⟩).2 = .ok () := by
  intro fs hfs
  refine (session_keeps_dest (fun v => v = fs₀.get d.filename ∨
      ∃ x ∈ trace pickle unpickle (⟨fs₀, []⟩, d) calls, x.2.saves ∧ ∀ fs' : FileSystem,
        fs'.get d.filename = v →
          (load env unpickle (init d.filename ∅) ⟨fs', []⟩).1.2 = init d.filename x.1.2.data ∧
          (load env unpickle (init d.filename ∅) ⟨fs', []⟩).2 = .ok ())
    d.filename calls _ rfl hrename (fun x hx hs b hb => .inr ⟨x, hx, hs, fun fs' hfs' => ?_⟩)
    (fun fs hfs => .inl (by rw [List.mem_singleton.1 hfs])) fs hfs).imp_right ?_
  · rw [load_init_of_pickle pickle unpickle hlaw (newPickle_eq_some pickle x.1.2 hb).2 hfs' hopen
      hclose]
    exact ⟨rfl, rfl⟩
  · rintro ⟨x, hx, hs, hload⟩
    exact ⟨x, hx, hs, hload fs rfl⟩

theorem session_crash_recovers_diskFull :
    (∀ c ∈ diskFullSession, c.RenameOk "state.pkl") ∧
      ∀ fs ∈ (session valuesPickle valuesUnpickle (⟨(∅ : FileSystem).set "state.pkl" [1], []⟩,
          init "state.pkl" ∅) diskFullSession).1.states,
        fs.get "state.pkl" = ((∅ : FileSystem).set "state.pkl" [1]).get "state.pkl" ∨
          ∃ x ∈ trace valuesPickle valuesUnpickle (⟨(∅ : FileSystem).set "state.pkl" [1], []⟩,
              init "state.pkl" ∅) diskFullSession, x.2.saves ∧
            (load (fun _ => none) valuesUnpickle (init "state.pkl" ∅) ⟨fs, []⟩).1.2 =
              init "state.pkl" x.1.2.data ∧
            (load (fun _ => none) valuesUnpickle (init "state.pkl" ∅) ⟨fs, []⟩).2 = .ok () := by
  have h : ∀ c ∈ diskFullSession, c.RenameOk "state.pkl" := by
    simp [diskFullSession, Call.RenameOk, diskFull]
  exact ⟨h, session_crash_recovers valuesUnpickle_law (init "state.pkl" ∅) _ _ h _ rfl rfl⟩

end PersistentDict

end CheckpointSaver
