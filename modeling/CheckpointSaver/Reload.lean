import CheckpointSaver.PersistentDict

/-!
# Where `sync` ends, and `load`

`sync_keeps_dest` is about the file systems a `sync` passes through. This module is about
where the run ends, and about reading the file back.

**A `sync` that returns has committed** (`sync_commits`). Whether `shutil.move` renamed the
temporary file or fell back to copying it, a `sync` that returns leaves the complete new pickle
at the destination and no temporary file; and no `sync` touches a file but those two on the
way (`sync_keeps_other_files`). Only the `except Exception` clause removes the temporary file,
so a `KeyboardInterrupt` in `dump` leaves it behind, part written (`sync_interrupt_keeps_temp`).

**`load` only reads** (`load_reads`). It opens the file, hands its bytes to `pickle.load` and
merges what that returns into the mapping with `update`; an `EOFError` returns with nothing
merged, and any other exception propagates. Every file system of its run is one it started with,
which is what the sessions of `Session` need of it.

**`close`, then `load`, gives the mapping back** (`close_load_roundtrip`): for a pickler and
an unpickler that invert each other, a `PersistentDict` opened on the file that a returning
`close` left loads exactly the mapping that was closed. But `close` keeps no mark that it ran:
a second `close`, as an explicit `close()` inside a `with` block followed by `__exit__` makes,
saves the cleared mapping over the file, and the data is gone (`close_close_saves_empty`).

The loop of `load` over `(pickle.load,)` is its one iteration: every path of its body returns
or raises, so the `raise ValueError("File not in a supported format")` after it is never
reached, and the `fileobj.seek(0)` at its head moves a handle that was just opened to where it
already is. Neither is modelled; nor is the `logger.error` line.
-/

namespace CheckpointSaver

/-- Whether `except EOFError` catches it: the class its text names before the `:`, as Python
prints it (`"EOFError: Ran out of input"`). -/
def Raised.isEOFError : Raised → Bool
  | .exception text => text.takeWhile (· ≠ ':') == "EOFError"
  | _ => false

theorem Raised.isException_of_isEOFError {e : Raised} (h : e.isEOFError = true) :
    e.isException = true := by
  cases e <;> simp_all [Raised.isEOFError, Raised.isException]

/-- What `pickle.load(fileobj)` returns, or raises, on a file holding the given bytes, read
through a handle opened in binary mode (`true`) or in text mode (`false`). -/
abbrev Unpickler (K V : Type) :=
  Bool → Bytes → Except Raised (Dict K V)

/-! ### Where a call ends -/

section Calls

variable {env : Env}

/-- An exception the `except` clause does not catch passes through the `try`. -/
theorem Sys.tryExcept_of_uncaught {α : Type} {x : Sys α} {w w' : World} {e : Raised}
    (h : x w = (w', .error e)) {catches : Raised → Bool} (hc : catches e = false)
    (handler : Raised → Sys α) : Sys.tryExcept x catches handler w = (w', .error e) := by
  rw [Sys.tryExcept, h]
  simp only [hc]
  rfl

theorem call_eq_error {c : FsCall} {w w' : World} {e : Raised} (h : call env c w = (w', .error e)) :
    w' = w := by
  unfold call at h
  split at h
  · cases h
    rfl
  · split at h
    · cases h
    · cases h
      rfl

/-- A call that returns leaves each path it does not name as it was. -/
theorem get_of_call_ok {c : FsCall} {w w' : World} {q : String} (h : call env c w = (w', .ok ()))
    (hq : c.changes q = false) : w'.fs.get q = w.fs.get q := by
  obtain ⟨fs, hfs, rfl⟩ := call_eq_ok h
  exact FsCall.get_apply hfs hq

theorem FsCall.apply_openRead {p : String} {fs fs' : FileSystem}
    (h : (FsCall.openRead p).apply fs = .ok fs') : fs' = fs := by
  simp only [FsCall.apply] at h
  split_ifs at h
  cases h
  rfl

theorem FsCall.apply_close {p : String} {fs fs' : FileSystem}
    (h : (FsCall.close p).apply fs = .ok fs') : fs' = fs := by
  cases h
  rfl

/-- A call that leaves the file system as it was records it once more. -/
theorem call_keeps_fs {c : FsCall} (hc : ∀ fs fs', c.apply fs = .ok fs' → fs' = fs)
    {w w' : World} (h : call env c w = (w', .ok ())) : w' = ⟨w.fs, w.states⟩ := by
  obtain ⟨fs, hfs, rfl⟩ := call_eq_ok h
  rw [hc _ _ hfs]

theorem World.Holds.push {P : FileSystem → Prop} {w : World} (h : w.Holds P) :
    World.Holds P ⟨w.fs, w.states⟩ := by
  intro fs hfs
  rcases List.mem_cons.1 hfs with rfl | hfs
  · exact h _ (List.mem_cons_self _ _)
  · exact h _ hfs

/-- Writing through the handle on `path`, whether a write raises or not, extends the file by a
prefix of the bytes and leaves every other path alone. -/
theorem writeBytes_get {path : String} :
    ∀ {i : Nat} {bs : Bytes} {w w' : World} {r : Except Raised Unit},
      writeBytes env path i bs w = (w', r) →
        (∃ k, w'.fs.get path = (w.fs.get path).map (· ++ bs.take k)) ∧
          ∀ q, q ≠ path → w'.fs.get q = w.fs.get q
  | _, [], w, w', _, h => by
    cases h
    exact ⟨⟨0, by simp⟩, fun _ _ => rfl⟩
  | i, b :: bs, w, w', r, h => by
    rw [writeBytes] at h
    cases henv : env (.write path i b) with
    | some e =>
      rw [Sys.bind_of_error (by rw [call, henv])] at h
      cases h
      exact ⟨⟨0, by simp⟩, fun _ _ => rfl⟩
    | none =>
      rw [Sys.bind_of_ok (call_of_ok henv rfl)] at h
      obtain ⟨⟨k, hk⟩, hq⟩ := writeBytes_get h
      refine ⟨⟨k + 1, ?_⟩, fun q hne => by rw [hq q hne, Dict.get_modify, if_neg hne]⟩
      rw [hk]
      simp only [FsCall.apply, Dict.get_modify, if_pos rfl, Option.map_map]
      cases w.fs.get path <;> simp

end Calls

/-! ### `shutil.move` -/

section Move

variable {env : Env} {src dst : String}

/-- What `shutil.copyfile(src, dst)` leaves when it returns: `dst` holds what `src` holds. -/
theorem copyfile_of_ok (hne : src ≠ dst) {w w' : World} {b : Bytes} (hsrc : w.fs.get src = some b)
    (h : copyfile env src dst w = (w', .ok ())) :
    w'.fs.get dst = some b ∧ w'.fs.get src = some b := by
  obtain ⟨⟨⟩, w₁, h₁, h₂⟩ := Sys.bind_eq_ok h
  have hs₁ : w₁.fs.get src = some b := (get_of_call_ok h₁ rfl).trans hsrc
  obtain ⟨w₂, h₃, h₄⟩ := Sys.tryFinally_eq_ok h₂
  obtain ⟨content, w₃, h₅, h₆⟩ := Sys.bind_eq_ok h₃
  simp only [Sys.read, hs₁, Option.getD_some, Prod.mk.injEq, Except.ok.injEq] at h₅
  obtain ⟨rfl, rfl⟩ := h₅
  obtain ⟨⟨⟩, w₄, h₇, h₈⟩ := Sys.bind_eq_ok h₆
  obtain ⟨fs₄, hfs₄, rfl⟩ := call_eq_ok h₇
  cases hfs₄
  obtain ⟨w₅, h₉, h₁₀⟩ := Sys.tryFinally_eq_ok h₈
  have hd₅ := writeBytes_of_ok h₉ (Dict.get_set_self _ _ _)
  have hs₅ := (writeBytes_get h₉).2 src hne
  rw [(get_of_call_ok h₄ rfl), get_of_call_ok h₁₀ rfl, get_of_call_ok h₄ rfl,
    get_of_call_ok h₁₀ rfl, hs₅, hd₅]
  exact ⟨rfl, by rw [Dict.get_set_ne _ _ hne, hs₁]⟩

/-- What `shutil.move(src, dst)` leaves when it returns: `dst` holds what `src` held, and `src`
is gone, whether `os.rename` moved the file or the copy fallback ran. -/
theorem shutilMove_of_ok (hne : src ≠ dst) {w w' : World} {b : Bytes}
    (hsrc : w.fs.get src = some b) (h : shutilMove env src dst w = (w', .ok ())) :
    w'.fs.get dst = some b ∧ w'.fs.get src = none := by
  rcases Sys.tryExcept_eq_ok h with h₁ | ⟨e, w₁, h₁, h₂⟩
  · obtain ⟨fs, hfs, rfl⟩ := call_eq_ok h₁
    simp only [FsCall.apply, hsrc, Except.ok.injEq] at hfs
    subst hfs
    exact ⟨Dict.get_set_self _ _ _, by rw [Dict.get_set_ne _ _ hne, Dict.get_erase, if_pos rfl]⟩
  · cases call_eq_error h₁
    obtain ⟨⟨⟩, w₂, h₃, h₄⟩ := Sys.bind_eq_ok h₂
    obtain ⟨⟨⟩, w₃, h₅, h₆⟩ := Sys.bind_eq_ok h₃
    obtain ⟨hd, hs⟩ := copyfile_of_ok hne hsrc h₅
    rw [← get_of_call_ok h₆ rfl] at hd hs
    obtain ⟨fs, hfs, rfl⟩ := call_eq_ok h₄
    simp only [FsCall.apply, hs, Option.isSome_some, if_true, Except.ok.injEq] at hfs
    subst hfs
    exact ⟨by rw [Dict.get_erase, if_neg (Ne.symm hne), hd], by rw [Dict.get_erase, if_pos rfl]⟩

/-- `shutil.move(src, dst)` keeps every path but `src` and `dst`, along the whole run. -/
theorem keeps_get_shutilMove {q : String} (hs : src ≠ q) (hd : dst ≠ q) (v : Option Bytes) :
    Sys.Keeps (fun fs => fs.get q = v) (shutilMove env src dst) := by
  have hcall : ∀ c : FsCall, c.changes q = false →
      Sys.Keeps (fun fs => fs.get q = v) (call env c) := fun _ hc => keeps_get_call hc v
  have hdst : (FsCall.openWrite dst).changes q = false := by simp [FsCall.changes, hd]
  refine Sys.Keeps.tryExcept (hcall _ (by simp [FsCall.changes, hs, hd])) fun _ =>
    Sys.Keeps.bind (Sys.Keeps.bind ?_ fun _ => hcall _ rfl) fun _ =>
      hcall _ (by simp [FsCall.changes, hs])
  exact Sys.Keeps.bind (hcall _ rfl) fun _ => Sys.Keeps.tryFinally
    (Sys.Keeps.bind (Sys.keeps_read _) fun _ => Sys.Keeps.bind (hcall _ hdst) fun _ =>
      Sys.Keeps.tryFinally (keeps_writeBytes (fun _ _ => hcall _ hdst) _ _) (hcall _ rfl))
    (hcall _ rfl)

end Move

namespace PersistentDict

variable {K V : Type}

/-! ### Where `sync` ends -/

section Sync

variable (env : Env) (pickle : Pickler K V) (d : PersistentDict K V)

theorem newPickle_eq_some {b : Bytes} (h : newPickle pickle d = some b) :
    d.format = "pickle" ∧ pickle d.data = (b, none) := by
  unfold newPickle at h
  split_ifs at h with hp
  cases h
  exact ⟨hp.1, Prod.ext rfl hp.2⟩

/-- A `close` that returns is a `sync` that returned, followed by `clear()`. -/
theorem close_eq_ok {d' : PersistentDict K V} {w w' : World}
    (h : close env pickle d w = ((w', d'), .ok ())) :
    sync env pickle d w = (w', .ok ()) ∧ d' = d.clear := by
  unfold close at h
  rcases hs : sync env pickle d w with ⟨w₁, e | ⟨⟩⟩ <;> rw [hs] at h
  · cases h
  · cases h
    exact ⟨rfl, rfl⟩

/-- **A `sync` that returns has committed.** Whichever way `shutil.move` went, by `os.rename`
or by its copy fallback, a `sync` of a dict that is not read-only that returns leaves the
complete new pickle at the destination and no temporary file. -/
theorem sync_commits (hflag : d.flag ≠ "r") (w w' : World)
    (h : sync env pickle d w = (w', .ok ())) :
    ∃ b, newPickle pickle d = some b ∧ w'.fs.get d.filename = some b ∧
      w'.fs.get d.tempname = none := by
  rw [sync, if_neg hflag] at h
  obtain ⟨⟨⟩, w₁, h₁, h₂⟩ := Sys.bind_eq_ok h
  obtain ⟨⟨⟩, w₂, h₃, h₄⟩ := Sys.bind_eq_ok h₂
  obtain ⟨b, hb, htemp⟩ := writeTemp_of_ok env pickle d h₁
  obtain ⟨hd, ht⟩ := shutilMove_of_ok (tempname_ne_filename d) htemp h₃
  refine ⟨b, hb, ?_⟩
  rcases hm : d.mode with _ | mode <;> simp only [hm] at h₄
  · cases h₄
    exact ⟨hd, ht⟩
  · rw [get_of_call_ok h₄ rfl, get_of_call_ok h₄ rfl]
    exact ⟨hd, ht⟩

/-- A pickler that writes one byte per value. -/
def valuesPickle : Pickler Unit UInt8 := fun m => (m.values, none)

/-- Reads back what `valuesPickle` wrote. -/
def valuesUnpickle : Unpickler Unit UInt8 := fun _ b =>
  .ok (match b with
    | [] => ∅
    | x :: _ => (∅ : Dict Unit UInt8).set () x)

/-- `os.rename` raising an `OSError`, as Windows' does over an existing file. -/
def renameRaises : Env := fun c =>
  match c with
  | .rename _ _ => some (.osError "FileExistsError: [WinError 183] Cannot create a file when that file already exists")
  | _ => none

/-- Through the copy fallback: the destination existed and `os.rename` raised. -/
theorem sync_commits_fallback :
    ∃ w', (init "state.pkl" ((∅ : Dict Unit UInt8).set () 7)).flag ≠ "r" ∧
      sync renameRaises valuesPickle (init "state.pkl" ((∅ : Dict Unit UInt8).set () 7))
        ⟨(∅ : FileSystem).set "state.pkl" [1], []⟩ = (w', .ok ()) ∧
      ∃ b, newPickle valuesPickle (init "state.pkl" ((∅ : Dict Unit UInt8).set () 7)) = some b ∧
        w'.fs.get "state.pkl" = some b ∧ w'.fs.get "state.pkl.tmp" = none :=
  ⟨_, by decide, rfl, sync_commits renameRaises valuesPickle _ (by decide)
    ⟨(∅ : FileSystem).set "state.pkl" [1], []⟩ _ rfl⟩

/-- The calls of `sync` keep every path but the file and its temporary file. -/
theorem keeps_get_sync {q : String} (hf : d.filename ≠ q) (ht : d.tempname ≠ q)
    (v : Option Bytes) : Sys.Keeps (fun fs => fs.get q = v) (sync env pickle d) := by
  unfold sync
  split_ifs
  · exact Sys.keeps_pure ()
  · refine Sys.Keeps.bind (keeps_get_writeTemp env pickle d ht (· = v)) fun _ =>
      Sys.Keeps.bind (keeps_get_shutilMove ht hf v) fun _ => ?_
    split
    · exact keeps_get_call (by simp [FsCall.changes]) v
    · exact Sys.keeps_pure ()

/-- **`sync` touches no other file.** Every file system the run passes through holds, at each
path but the file and its temporary file, what the path held before; through the copy
fallback of `shutil.move` too. -/
theorem sync_keeps_other_files (fs₀ : FileSystem) (q : String) (hf : q ≠ d.filename)
    (ht : q ≠ d.tempname) :
    ∀ fs ∈ (sync env pickle d ⟨fs₀, []⟩).1.states, fs.get q = fs₀.get q :=
  keeps_get_sync env pickle d (Ne.symm hf) (Ne.symm ht) _ _ fun fs hfs => by
    rw [List.mem_singleton.1 hfs]

theorem sync_keeps_other_files_fallback :
    "other.pkl" ≠ (init "state.pkl" ((∅ : Dict Unit UInt8).set () 7)).filename ∧
      "other.pkl" ≠ (init "state.pkl" ((∅ : Dict Unit UInt8).set () 7)).tempname ∧
      ∀ fs ∈ (sync renameRaises valuesPickle (init "state.pkl" ((∅ : Dict Unit UInt8).set () 7))
          ⟨((∅ : FileSystem).set "state.pkl" [1]).set "other.pkl" [2], []⟩).1.states,
        fs.get "other.pkl" =
          (((∅ : FileSystem).set "state.pkl" [1]).set "other.pkl" [2]).get "other.pkl" :=
  ⟨by decide, by decide,
    sync_keeps_other_files renameRaises valuesPickle _ _ "other.pkl" (by decide) (by decide)⟩

/-- What `dump` leaves in the file it writes: a prefix of the pickle appended. -/
theorem dump_get {path : String} {w w' : World} {r : Except Raised Unit}
    (h : d.dump env pickle path w = (w', r)) :
    ∃ k, w'.fs.get path = (w.fs.get path).map (· ++ (pickle d.data).1.take k) := by
  unfold dump at h
  split_ifs at h
  · rcases hw : writeBytes env path 0 (pickle d.data).1 w with ⟨w₁, e | ⟨⟩⟩
    · rw [Sys.bind_of_error hw] at h
      cases h
      exact (writeBytes_get hw).1
    · rw [Sys.bind_of_ok hw] at h
      have : w' = w₁ := by
        rcases hp : (pickle d.data).2 with _ | e <;> rw [hp] at h <;> exact (Prod.mk.inj h).1.symm
      subst this
      exact (writeBytes_get hw).1
  · cases h
    exact ⟨0, by cases w.fs.get path <;> simp⟩

/-- **An interrupt leaves the temporary file behind.** `sync` removes the temporary file only in
`except Exception`: when `dump` raises a `BaseException` that is no `Exception`
(`KeyboardInterrupt`, `SystemExit`) and closing the file goes through, `sync` raises it, the
temporary file stays with the part of the pickle written so far, and the destination is as it
was. -/
theorem sync_interrupt_keeps_temp (hflag : d.flag ≠ "r") (fs₀ : FileSystem) (e : Raised)
    (he : e.isException = false) (hopen : env (.openWrite d.tempname) = none)
    (hdump : (d.dump env pickle d.tempname ⟨fs₀, []⟩).2 = .error e)
    (hclose : env (.close d.tempname) = none) :
    (sync env pickle d ⟨fs₀, []⟩).2 = .error e ∧
      (∃ b, (sync env pickle d ⟨fs₀, []⟩).1.fs.get d.tempname = some b ∧
        b <+: (pickle d.data).1) ∧
      (sync env pickle d ⟨fs₀, []⟩).1.fs.get d.filename = fs₀.get d.filename := by
  set w₁ : World := ⟨fs₀.set d.tempname [], [fs₀]⟩
  have h₁ : call env (.openWrite d.tempname) ⟨fs₀, []⟩ = (w₁, .ok ()) := call_of_ok hopen rfl
  set w₂ := (d.dump env pickle d.tempname w₁).1
  have h₂ : d.dump env pickle d.tempname w₁ = (w₂, .error e) := by
    rw [← (dump_snd env pickle d d.tempname w₁ ⟨fs₀, []⟩).trans hdump]
  obtain ⟨k, hk⟩ := dump_get env pickle d h₂
  have h₃ : call env (.close d.tempname) w₂ = (⟨w₂.fs, w₂.states⟩, .ok ()) := call_of_ok hclose rfl
  have hw : d.writeTemp env pickle ⟨fs₀, []⟩ = (⟨w₂.fs, w₂.states⟩, .error e) := by
    rw [writeTemp, Sys.bind_of_ok h₁]
    exact Sys.tryFinally_of_ok (Sys.tryExcept_of_uncaught h₂ he _) h₃
  have hdest := keeps_writeTemp env pickle d _ _ (holds_init d fs₀)
  rw [hw] at hdest
  rw [sync, if_neg hflag, Sys.bind_of_error hw]
  refine ⟨rfl, ⟨_, ?_, List.take_prefix k _⟩, hdest _ (List.mem_cons_self _ _)⟩
  rw [hk, Dict.get_set_self]
  rfl

/-- A pickler interrupted after its first byte. -/
def interruptedPickle : Pickler Unit UInt8 := fun m =>
  (m.values ++ [0], some (.baseException "KeyboardInterrupt"))

theorem sync_interrupt_keeps_temp_one :
    (init "state.pkl" ((∅ : Dict Unit UInt8).set () 7)).flag ≠ "r" ∧
      (Raised.baseException "KeyboardInterrupt").isException = false ∧
      (fun _ => none : Env) (.openWrite "state.pkl.tmp") = none ∧
      ((init "state.pkl" ((∅ : Dict Unit UInt8).set () 7)).dump (fun _ => none) interruptedPickle
        "state.pkl.tmp" ⟨∅, []⟩).2 = .error (.baseException "KeyboardInterrupt") ∧
      (fun _ => none : Env) (.close "state.pkl.tmp") = none ∧
      ((sync (fun _ => none) interruptedPickle (init "state.pkl" ((∅ : Dict Unit UInt8).set () 7))
          ⟨∅, []⟩).2 = .error (.baseException "KeyboardInterrupt") ∧
        (∃ b, (sync (fun _ => none) interruptedPickle
            (init "state.pkl" ((∅ : Dict Unit UInt8).set () 7)) ⟨∅, []⟩).1.fs.get
              "state.pkl.tmp" = some b ∧
          b <+: (interruptedPickle ((∅ : Dict Unit UInt8).set () 7)).1) ∧
        (sync (fun _ => none) interruptedPickle (init "state.pkl" ((∅ : Dict Unit UInt8).set () 7))
          ⟨∅, []⟩).1.fs.get "state.pkl" = (∅ : FileSystem).get "state.pkl") :=
  ⟨by decide, rfl, rfl, rfl, rfl,
    sync_interrupt_keeps_temp (fun _ => none) interruptedPickle _ (by decide) ∅ _ rfl rfl rfl rfl⟩

end Sync

/-! ### `load` -/

variable [DecidableEq K]

/-- `self.update(m)`: each item of `m` set in turn. -/
def update (d : PersistentDict K V) (m : Dict K V) : PersistentDict K V :=
  { d with data := d.data.setMany m.entries }

/-- `pickle.load(fileobj)` in the `try` of `load`'s loop: the unpickler run on the file's bytes,
through a binary handle for the pickle format and a text handle otherwise. What it returns is
handed on to `update`. -/
def unpickleFile (unpickle : Unpickler K V) (d : PersistentDict K V) : Sys (Option (Dict K V)) := do
  let content ← Sys.read fun fs => (fs.get d.filename).getD []
  match unpickle (d.format == "pickle") content with
  | .ok m => pure (some m)
  | .error e => Sys.raise e

/-- The `try` statement of `load`'s loop: `except EOFError` returns with nothing loaded, and
`except Exception` logs and re-raises. -/
def loadOnce (unpickle : Unpickler K V) (d : PersistentDict K V) : Sys (Option (Dict K V)) :=
  Sys.tryExcept (d.unpickleFile unpickle) (fun e => e.isEOFError || e.isException)
    fun e => if e.isEOFError then pure none else Sys.raise e

/-- The mapping after the `try` of `load`: updated with what `pickle.load` returned, if it
returned. -/
def afterTry (d : PersistentDict K V) : Except Raised (Option (Dict K V)) → PersistentDict K V
  | .ok (some m) => d.update m
  | _ => d

/-- `load()`. Unless the flag is `"n"`, it opens the file, runs the `try` of its loop, and
closes the file on the way out of the `with` block, an exception of the close replacing the
outcome. `update` has merged the loaded mapping in before the file is closed, so the dict is
returned beside the world, as `load` leaves it. -/
def load (env : Env) (unpickle : Unpickler K V) (d : PersistentDict K V) (w : World) :
    (World × PersistentDict K V) × Except Raised Unit :=
  if d.flag = "n" then ((w, d), .ok ()) else
  match call env (.openRead d.filename) w with
  | (w₁, .error e) => ((w₁, d), .error e)
  | (w₁, .ok ()) =>
    match d.loadOnce unpickle w₁ with
    | (w₂, r) =>
      match call env (.close d.filename) w₂ with
      | (w₃, .ok ()) => ((w₃, d.afterTry r), r.map fun _ => ())
      | (w₃, .error e) => ((w₃, d.afterTry r), .error e)

section Load

variable (env : Env) (unpickle : Unpickler K V) (d : PersistentDict K V)

omit [DecidableEq K] in
theorem unpickleFile_apply (w : World) :
    d.unpickleFile unpickle w =
      (w, (unpickle (d.format == "pickle") ((w.fs.get d.filename).getD [])).map some) := by
  rw [unpickleFile, Sys.bind_of_ok (show Sys.read (fun fs => (fs.get d.filename).getD []) w =
    (w, .ok _) from rfl)]
  cases unpickle (d.format == "pickle") ((w.fs.get d.filename).getD []) <;> rfl

omit [DecidableEq K] in
/-- The `try` of `load` reads the file and changes nothing. -/
theorem loadOnce_eq (w : World) :
    d.loadOnce unpickle w = (w,
      match unpickle (d.format == "pickle") ((w.fs.get d.filename).getD []) with
      | .ok m => .ok (some m)
      | .error e => if e.isEOFError then .ok none else .error e) := by
  simp only [loadOnce, Sys.tryExcept, unpickleFile_apply]
  rcases unpickle (d.format == "pickle") ((w.fs.get d.filename).getD []) with e | m
  · by_cases hE : e.isEOFError = true
    · simp [Except.map, hE, Raised.isException_of_isEOFError hE, Pure.pure, Sys.pure]
    · simp [Except.map, hE, Sys.raise]
  · rfl

/-- Every file system of `load`'s run is one the run started with, and the mapping it leaves is
the one it had, or that one updated with what `pickle.load` returned on the file's bytes. -/
theorem load_reads (w : World) :
    (∀ fs ∈ (load env unpickle d w).1.1.states, fs ∈ w.states) ∧
      ((load env unpickle d w).1.2 = d ∨
        ∃ m, unpickle (d.format == "pickle") ((w.fs.get d.filename).getD []) = .ok m ∧
          (load env unpickle d w).1.2 = d.update m) := by
  have hP : w.Holds (· ∈ w.states) := fun _ h => h
  unfold load
  split_ifs with hn
  · exact ⟨hP, .inl rfl⟩
  rcases ho : call env (.openRead d.filename) w with ⟨w₁, e | u⟩
  · cases call_eq_error ho
    exact ⟨hP, .inl rfl⟩
  cases u
  cases call_keeps_fs (fun _ _ h => FsCall.apply_openRead h) ho
  dsimp only
  rcases hl : d.loadOnce unpickle ⟨w.fs, w.states⟩ with ⟨w₂, r⟩
  obtain ⟨rfl, hr⟩ := Prod.mk.inj ((loadOnce_eq unpickle d _).symm.trans hl)
  have hmap : d.afterTry r = d ∨ ∃ m, unpickle (d.format == "pickle")
      ((w.fs.get d.filename).getD []) = .ok m ∧ d.afterTry r = d.update m := by
    subst hr
    rcases unpickle (d.format == "pickle") ((w.fs.get d.filename).getD []) with e | m
    · exact .inl (by dsimp only; split_ifs <;> rfl)
    · exact .inr ⟨m, rfl, rfl⟩
  dsimp only
  rcases hc : call env (.close d.filename) ⟨w.fs, w.states⟩ with ⟨w₃, e | u⟩
  · cases call_eq_error hc
    exact ⟨hP.push, hmap⟩
  · cases u
    cases call_keeps_fs (fun _ _ h => FsCall.apply_close h) hc
    exact ⟨hP.push.push, hmap⟩

end Load

/-! ### `close`, then `load` -/

section RoundTrip

variable (pickle : Pickler K V) (unpickle : Unpickler K V)

/-- A fresh `PersistentDict` opened on a file that holds the pickle of a mapping loads the
mapping. -/
theorem load_init_of_pickle (hlaw : ∀ m b, pickle m = (b, none) → unpickle true b = .ok m)
    {env : Env} {f : String} {m : Dict K V} {b : Bytes} {w : World} (hpk : pickle m = (b, none))
    (hfile : w.fs.get f = some b) (hopen : env (.openRead f) = none)
    (hclose : env (.close f) = none) :
    load env unpickle (init f ∅) w = ((⟨w.fs, w.fs :: w.states⟩, init f m), .ok ()) := by
  have ho : call env (.openRead f) w = (⟨w.fs, w.states⟩, .ok ()) :=
    call_of_ok hopen (by simp [FsCall.apply, hfile])
  have hl : (init f ∅ : PersistentDict K V).loadOnce unpickle ⟨w.fs, w.states⟩ =
      (⟨w.fs, w.states⟩, .ok (some m)) := by
    rw [loadOnce_eq]
    simp [init, hfile, hlaw _ _ hpk]
  have hc : call env (.close f) ⟨w.fs, w.states⟩ = (⟨w.fs, w.fs :: w.states⟩, .ok ()) :=
    call_of_ok hclose rfl
  rw [load, if_neg (by simp [init])]
  simp only [init] at ho hl hc ⊢
  simp only [ho, hl, hc, afterTry, update, Dict.setMany_empty_entries]
  rfl

/-- **`close`, then `load`, gives the mapping back.** For a pickler and an unpickler that invert
each other: when `close` returns, the mapping is cleared, and a `PersistentDict` opened on the
same file, in whatever environment lets its `open` and `close` go through, loads exactly the
mapping that was closed. -/
theorem close_load_roundtrip (hlaw : ∀ m b, pickle m = (b, none) → unpickle true b = .ok m)
    (env env' : Env) (d d' : PersistentDict K V) (w w' : World) (hflag : d.flag ≠ "r")
    (h : close env pickle d w = ((w', d'), .ok ()))
    (hopen : env' (.openRead d.filename) = none) (hclose : env' (.close d.filename) = none) :
    d'.data = ∅ ∧ (load env' unpickle (init d.filename ∅) w').1.2 = init d.filename d.data ∧
      (load env' unpickle (init d.filename ∅) w').2 = .ok () := by
  obtain ⟨hs, rfl⟩ := close_eq_ok env pickle d h
  obtain ⟨b, hb, hdest, -⟩ := sync_commits env pickle d hflag _ _ hs
  rw [load_init_of_pickle pickle unpickle hlaw (newPickle_eq_some pickle d hb).2 hdest hopen hclose]
  exact ⟨rfl, rfl, rfl⟩

theorem valuesUnpickle_law :
    ∀ (m : Dict Unit UInt8) b, valuesPickle m = (b, none) → valuesUnpickle true b = .ok m := by
  rintro ⟨_ | ⟨⟨⟨⟩, x⟩, _ | ⟨⟨⟨⟩, y⟩, l⟩⟩, hnd⟩ b h <;> cases h
  · rfl
  · rfl
  · simp at hnd

theorem close_load_roundtrip_one :
    ∃ w' d', close (fun _ => none) valuesPickle (init "state.pkl" ((∅ : Dict Unit UInt8).set () 7))
        ⟨∅, []⟩ = ((w', d'), .ok ()) ∧
      d'.data = ∅ ∧
      (load (fun _ => none) valuesUnpickle (init "state.pkl" ∅) w').1.2 =
        init "state.pkl" ((∅ : Dict Unit UInt8).set () 7) ∧
      (load (fun _ => none) valuesUnpickle (init "state.pkl" ∅) w').2 = .ok () := by
  refine ⟨_, _, rfl, ?_⟩
  exact close_load_roundtrip valuesPickle valuesUnpickle valuesUnpickle_law (fun _ => none)
    (fun _ => none) (init "state.pkl" ((∅ : Dict Unit UInt8).set () 7)) _ ⟨∅, []⟩ _ (by decide)
    rfl rfl rfl

/-- **Closing twice loses the mapping.** `close` clears the mapping and keeps no mark that it was
closed, so a second `close` (an explicit `close()` inside a `with` block, then `__exit__`) saves
the empty mapping over the file the first one saved: when both return, the file holds the pickle
of the empty mapping, and a `PersistentDict` opened on it loads nothing. -/
theorem close_close_saves_empty (hlaw : ∀ m b, pickle m = (b, none) → unpickle true b = .ok m)
    (env env' env'' : Env) (d d₁ d₂ : PersistentDict K V) (w w₁ w₂ : World) (hflag : d.flag ≠ "r")
    (h₁ : close env pickle d w = ((w₁, d₁), .ok ()))
    (h₂ : close env' pickle d₁ w₁ = ((w₂, d₂), .ok ()))
    (hopen : env'' (.openRead d.filename) = none) (hclose : env'' (.close d.filename) = none) :
    w₂.fs.get d.filename = some (pickle ∅).1 ∧
      (load env'' unpickle (init d.filename ∅) w₂).1.2 = init d.filename ∅ := by
  obtain ⟨-, rfl⟩ := close_eq_ok env pickle d h₁
  obtain ⟨hs, -⟩ := close_eq_ok env' pickle d.clear h₂
  obtain ⟨b, hb, hdest, -⟩ := sync_commits env' pickle d.clear hflag _ _ hs
  have hpk : pickle ∅ = (b, none) := (newPickle_eq_some pickle d.clear hb).2
  have hfile : w₂.fs.get d.filename = some b := hdest
  rw [hpk, load_init_of_pickle pickle unpickle hlaw hpk hfile hopen hclose]
  exact ⟨hfile, rfl⟩

theorem close_close_saves_empty_one :
    ∃ w₁ d₁ w₂ d₂,
      close (fun _ => none) valuesPickle (init "state.pkl" ((∅ : Dict Unit UInt8).set () 7))
          ⟨∅, []⟩ = ((w₁, d₁), .ok ()) ∧
      close (fun _ => none) valuesPickle d₁ w₁ = ((w₂, d₂), .ok ()) ∧
      w₂.fs.get "state.pkl" = some (valuesPickle ∅).1 ∧
      (load (fun _ => none) valuesUnpickle (init "state.pkl" ∅) w₂).1.2 = init "state.pkl" ∅ := by
  refine ⟨_, _, _, _, rfl, rfl, ?_⟩
  exact close_close_saves_empty valuesPickle valuesUnpickle valuesUnpickle_law (fun _ => none)
    (fun _ => none) (fun _ => none) (init "state.pkl" ((∅ : Dict Unit UInt8).set () 7)) _ _
    ⟨∅, []⟩ _ _ (by decide) rfl rfl rfl rfl

end RoundTrip

end PersistentDict

end CheckpointSaver
