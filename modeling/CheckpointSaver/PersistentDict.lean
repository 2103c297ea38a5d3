import CheckpointSaver.Dict

/-!
# Saving a `PersistentDict`

`PersistentDict.sync` writes the whole mapping to `filename + ".tmp"` and moves that file onto
`filename`, so that the destination is never seen half written. Whether it is depends on the
file system calls `sync` makes and on where they fail, so the model runs `sync` as Python code
against a file system (`Sys`): each call (`FsCall`) raises what an environment `Env` makes it
raise, or else what the file system makes it raise (a missing file), or else takes the file
system one step. A run keeps every file system it passes through (`World.states`), which is
what a crash, or another process, can see. Exceptions are classed by the clauses that catch
them (`Raised`), since `sync` catches `Exception` and `shutil.move` catches `OSError`.

**`shutil.move` is not a rename.** The line that moves the temporary file is commented
`# atomic commit`, but `shutil.move` calls `os.rename`, and when that raises an `OSError` (on
Windows it does whenever the destination exists) it falls back to `shutil.copy2`, which opens
the destination for writing, emptying it, and copies the bytes over one write at a time, then
removes the source. Through that fallback the destination holds neither its old content nor
the new pickle (`sync_copy_fallback_truncates`): the commit is atomic only where `os.rename`
goes through, as `os.replace` would have made it everywhere.

## The theorems, and what each rests on

* `sync_keeps_dest`: when `os.rename` does not raise, every property of the destination's content
  that the complete new pickle has is kept by `sync`, at every file system it passes through. It
  rests on the frame lemma `FsCall.get_apply` (a call changes only the paths it names), the
  combinator lemmas for `Keeps`, and `writeTemp_of_ok` (a returning write to the temporary file
  leaves the complete pickle there). The sessions of `Session` are built on it.
* `sync_of_dump_raises`: when `dump` raises an `Exception` (and the cleanup calls do not raise),
  the temporary file is gone, the exception propagates and the destination is as it was; it
  rests on `writeTemp_of_dump_raises` and the frame of `writeTemp`.
* `sync_copy_fallback_truncates`: the fallback empties the destination on the way.
-/

namespace CheckpointSaver

/-- The content of a file. -/
abbrev Bytes := List UInt8

/-- The files `sync` can reach: path → content. -/
abbrev FileSystem := Dict String Bytes

/-- A Python exception, by the clauses that catch it: an `OSError`, another `Exception`, or a
`BaseException` that is no `Exception` (`KeyboardInterrupt`, `SystemExit`). -/
inductive Raised
  | osError (text : String)
  | exception (text : String)
  | baseException (text : String)
  deriving DecidableEq

/-- Whether `except Exception` catches it. -/
def Raised.isException : Raised → Bool
  | .baseException _ => false
  | _ => true

/-- Whether `except OSError` catches it. -/
def Raised.isOSError : Raised → Bool
  | .osError _ => true
  | _ => false

/-- The operating-system calls `sync` makes. -/
inductive FsCall
  /-- `open(path, "wb")`: create the file, or empty it. -/
  | openWrite (path : String)
  /-- `open(path, "rb")`. -/
  | openRead (path : String)
  /-- Writing byte `b`, the `i`-th, through the handle on `path`. -/
  | write (path : String) (i : Nat) (b : UInt8)
  /-- Closing the handle on `path`. -/
  | close (path : String)
  /-- `os.remove(path)`, or `os.unlink(path)`. -/
  | remove (path : String)
  /-- `os.rename(src, dst)`. -/
  | rename (src dst : String)
  /-- `shutil.copystat(src, dst)`. -/
  | copystat (src dst : String)
  /-- `os.chmod(path, mode)`. -/
  | chmod (path : String) (mode : Nat)
  deriving DecidableEq

/-- `FileNotFoundError` for `path`. -/
def fileNotFound (path : String) : Raised :=
  .osError ("FileNotFoundError: [Errno 2] No such file or directory: '" ++ path ++ "'")

/-- What a call does to the file system when nothing makes it raise. `os.rename` replaces its
destination in one step, as POSIX has it. -/
def FsCall.apply : FsCall → FileSystem → Except Raised FileSystem
  | .openWrite p, fs => .ok (fs.set p [])
  | .openRead p, fs => if (fs.get p).isSome then .ok fs else .error (fileNotFound p)
  | .write p _ b, fs => .ok (fs.modify p (· ++ [b]))
  | .close _, fs => .ok fs
  | .remove p, fs => if (fs.get p).isSome then .ok (fs.erase p) else .error (fileNotFound p)
  | .rename src dst, fs =>
    match fs.get src with
    | some content => .ok ((fs.erase src).set dst content)
    | none => .error (fileNotFound src)
  | .copystat src _, fs => if (fs.get src).isSome then .ok fs else .error (fileNotFound src)
  | .chmod p _, fs => if (fs.get p).isSome then .ok fs else .error (fileNotFound p)

/-- Whether a call can change the content at path `q`. -/
def FsCall.changes : FsCall → String → Bool
  | .openWrite p, q => p = q
  | .write p _ _, q => p = q
  | .remove p, q => p = q
  | .rename src dst, q => src = q || dst = q
  | _, _ => false

/-- Which calls raise: `env c = some e` makes call `c` raise `e`. It stands for a full disk, a
missing directory, a permission, a signal, or what the platform does. -/
abbrev Env := FsCall → Option Raised

/-- The file system, and every file system the run has passed through, latest first. -/
structure World where
  /-- The file system now. -/
  fs : FileSystem
  /-- The file systems before it. -/
  past : List FileSystem

/-- Every file system a run has been in. -/
def World.states (w : World) : List FileSystem :=
  w.fs :: w.past

/-- `P` held of every file system the run has been in. -/
def World.Holds (P : FileSystem → Prop) (w : World) : Prop :=
  ∀ fs ∈ w.states, P fs

/-- Python code run against the file system: it leaves a world, and returns or raises. -/
def Sys (α : Type) : Type :=
  World → World × Except Raised α

namespace Sys

variable {α β : Type}

/-- `return a`. -/
protected def pure (a : α) : Sys α := fun w => (w, .ok a)

/-- `x`, then `f` of what it returned; an exception of `x` skips `f`. -/
protected def bind (x : Sys α) (f : α → Sys β) : Sys β := fun w =>
  match x w with
  | (w', .ok a) => f a w'
  | (w', .error e) => (w', .error e)

instance : Monad Sys where
  pure := Sys.pure
  bind := Sys.bind

/-- `raise e`. -/
def raise (e : Raised) : Sys α := fun w => (w, .error e)

/-- A read of the file system. -/
def read (f : FileSystem → α) : Sys α := fun w => (w, .ok (f w.fs))

/-- `try: x` with an `except` clause catching the exceptions `catches` accepts, and running
`handler` on them. -/
def tryExcept (x : Sys α) (catches : Raised → Bool) (handler : Raised → Sys α) : Sys α :=
  fun w =>
    match x w with
    | (w', .error e) => if catches e then handler e w' else (w', .error e)
    | r => r

/-- `try: x finally: y`: `y` runs whatever `x` did, and an exception of `y` replaces `x`'s
outcome. -/
def tryFinally (x : Sys α) (y : Sys Unit) : Sys α := fun w =>
  match x w with
  | (w', r) =>
    match y w' with
    | (w'', .ok ()) => (w'', r)
    | (w'', .error e) => (w'', .error e)

theorem pure_apply (a : α) (w : World) : (pure a : Sys α) w = (w, .ok a) :=
  rfl

theorem bind_of_ok {x : Sys α} {w w' : World} {a : α} (h : x w = (w', .ok a)) (f : α → Sys β) :
    (x >>= f) w = f a w' := by
  show Sys.bind x f w = _
  rw [Sys.bind, h]

theorem bind_of_error {x : Sys α} {w w' : World} {e : Raised} (h : x w = (w', .error e))
    (f : α → Sys β) : (x >>= f) w = (w', .error e) := by
  show Sys.bind x f w = _
  rw [Sys.bind, h]

theorem bind_eq_ok {x : Sys α} {f : α → Sys β} {w w' : World} {b : β}
    (h : (x >>= f) w = (w', .ok b)) : ∃ a w₁, x w = (w₁, .ok a) ∧ f a w₁ = (w', .ok b) := by
  rcases hx : x w with ⟨w₁, e | a⟩
  · rw [bind_of_error hx] at h
    cases h
  · exact ⟨a, w₁, rfl, by rwa [bind_of_ok hx] at h⟩

theorem tryExcept_of_ok {x : Sys α} {w w' : World} {a : α} (h : x w = (w', .ok a))
    (catches : Raised → Bool) (handler : Raised → Sys α) :
    tryExcept x catches handler w = (w', .ok a) := by
  rw [tryExcept, h]

theorem tryExcept_of_catch {x : Sys α} {w w' : World} {e : Raised} (h : x w = (w', .error e))
    {catches : Raised → Bool} (hc : catches e = true) (handler : Raised → Sys α) :
    tryExcept x catches handler w = handler e w' := by
  rw [tryExcept, h]
  exact if_pos hc

theorem tryFinally_of_ok {x : Sys α} {y : Sys Unit} {w w₁ w₂ : World} {r : Except Raised α}
    (hx : x w = (w₁, r)) (hy : y w₁ = (w₂, .ok ())) : tryFinally x y w = (w₂, r) := by
  rw [tryFinally, hx]
  dsimp only
  rw [hy]

theorem tryExcept_eq_ok {x : Sys α} {catches : Raised → Bool} {handler : Raised → Sys α}
    {w w' : World} {a : α} (h : tryExcept x catches handler w = (w', .ok a)) :
    x w = (w', .ok a) ∨ ∃ e w₁, x w = (w₁, .error e) ∧ handler e w₁ = (w', .ok a) := by
  unfold tryExcept at h
  rcases hx : x w with ⟨w₁, e | b⟩ <;> rw [hx] at h
  · dsimp only at h
    split_ifs at h
    · exact .inr ⟨e, w₁, rfl, h⟩
    · cases h
  · exact .inl h

theorem raise_ne_ok {e : Raised} {w w' : World} {a : α} : (raise e : Sys α) w ≠ (w', .ok a) :=
  fun h => by cases h

theorem tryFinally_of_error {x : Sys α} {y : Sys Unit} {w w₁ w₂ : World} {r : Except Raised α}
    {e : Raised} (hx : x w = (w₁, r)) (hy : y w₁ = (w₂, .error e)) :
    tryFinally x y w = (w₂, .error e) := by
  rw [tryFinally, hx]
  dsimp only
  rw [hy]

theorem tryFinally_eq_ok {x : Sys α} {y : Sys Unit} {w w' : World} {a : α}
    (h : tryFinally x y w = (w', .ok a)) : ∃ w₁, x w = (w₁, .ok a) ∧ y w₁ = (w', .ok ()) := by
  rcases hx : x w with ⟨w₁, r⟩
  rcases hy : y w₁ with ⟨w₂, e | ⟨⟩⟩
  · rw [tryFinally_of_error hx hy] at h
    cases h
  · rw [tryFinally_of_ok hx hy, Prod.mk.injEq] at h
    obtain ⟨rfl, rfl⟩ := h
    exact ⟨w₁, rfl, hy⟩

/-! ### What a run keeps -/

/-- `x` keeps `P`: run from a world all of whose file systems satisfy `P`, it passes only
through file systems that satisfy `P`. -/
def Keeps (P : FileSystem → Prop) (x : Sys α) : Prop :=
  ∀ w, w.Holds P → (x w).1.Holds P

variable {P : FileSystem → Prop}

theorem keeps_pure (a : α) : Keeps P (pure a : Sys α) := fun _ h => h

theorem keeps_raise (e : Raised) : Keeps P (raise e : Sys α) := fun _ h => h

theorem keeps_read (f : FileSystem → α) : Keeps P (read f) := fun _ h => h

theorem Keeps.bind {x : Sys α} {f : α → Sys β} (hx : Keeps P x) (hf : ∀ a, Keeps P (f a)) :
    Keeps P (x >>= f) := by
  intro w hw
  have h₁ := hx w hw
  rcases h : x w with ⟨w₁, e | a⟩
  · rw [bind_of_error h]
    rwa [h] at h₁
  · rw [bind_of_ok h]
    exact hf a w₁ (by rwa [h] at h₁)

theorem Keeps.tryExcept {x : Sys α} {catches : Raised → Bool} {handler : Raised → Sys α}
    (hx : Keeps P x) (hh : ∀ e, Keeps P (handler e)) : Keeps P (tryExcept x catches handler) := by
  intro w hw
  have h₁ := hx w hw
  unfold Sys.tryExcept
  rcases h : x w with ⟨w₁, e | a⟩
  · rw [h] at h₁
    dsimp only
    split_ifs
    exacts [hh e w₁ h₁, h₁]
  · rwa [h] at h₁

theorem Keeps.tryFinally {x : Sys α} {y : Sys Unit} (hx : Keeps P x) (hy : Keeps P y) :
    Keeps P (tryFinally x y) := by
  intro w hw
  have h₁ := hx w hw
  rcases h : x w with ⟨w₁, r⟩
  rw [h] at h₁
  have h₂ := hy w₁ h₁
  rcases hy' : y w₁ with ⟨w₂, e | ⟨⟩⟩ <;> rw [hy'] at h₂
  · rwa [tryFinally_of_error h hy']
  · rwa [tryFinally_of_ok h hy']

end Sys

/-! ### Calls -/

/-- One operating-system call: it raises what the environment makes it raise, or else what the
file system makes it raise, or else takes the file system one step. -/
def call (env : Env) (c : FsCall) : Sys Unit := fun w =>
  match env c with
  | some e => (w, .error e)
  | none =>
    match c.apply w.fs with
    | .ok fs => (⟨fs, w.states⟩, .ok ())
    | .error e => (w, .error e)

/-- Writing `bs` through the handle on `path`, one byte per call, the first being the `i`-th. -/
def writeBytes (env : Env) (path : String) : Nat → Bytes → Sys Unit
  | _, [] => pure ()
  | i, b :: bs => do
    call env (.write path i b)
    writeBytes env path (i + 1) bs

/-- `shutil.copyfile(src, dst)`: open both, copy the bytes over, close both. -/
def copyfile (env : Env) (src dst : String) : Sys Unit := do
  call env (.openRead src)
  Sys.tryFinally
    (do
      let content ← Sys.read fun fs => (fs.get src).getD []
      call env (.openWrite dst)
      Sys.tryFinally (writeBytes env dst 0 content) (call env (.close dst)))
    (call env (.close src))

/-- `shutil.copy2(src, dst)`: `copyfile`, then `copystat`. -/
def copy2 (env : Env) (src dst : String) : Sys Unit := do
  copyfile env src dst
  call env (.copystat src dst)

/-- `shutil.move(src, dst)`, for a file `src` and a destination that is not a directory:
`os.rename`, and when it raises an `OSError`, `copy2` and then `os.unlink(src)`. -/
def shutilMove (env : Env) (src dst : String) : Sys Unit :=
  Sys.tryExcept (call env (.rename src dst)) Raised.isOSError fun _ => do
    copy2 env src dst
    call env (.remove src)

theorem FsCall.get_apply {c : FsCall} {fs fs' : FileSystem} {q : String}
    (h : c.apply fs = .ok fs') (hq : c.changes q = false) : fs'.get q = fs.get q := by
  cases c with
  | openWrite p =>
    cases h
    exact Dict.get_set_ne _ _ (by simpa [FsCall.changes, eq_comm] using hq)
  | write p i b =>
    cases h
    rw [Dict.get_modify, if_neg (by simpa [FsCall.changes, eq_comm] using hq)]
  | remove p =>
    simp only [FsCall.apply] at h
    split_ifs at h
    cases h
    rw [Dict.get_erase, if_neg (by simpa [FsCall.changes, eq_comm] using hq)]
  | rename src dst =>
    simp only [FsCall.changes, Bool.or_eq_false_iff, decide_eq_false_iff_not] at hq
    simp only [FsCall.apply] at h
    split at h
    · cases h
      rw [Dict.get_set_ne _ _ (Ne.symm hq.2), Dict.get_erase, if_neg (Ne.symm hq.1)]
    · cases h
  | close p => cases h; rfl
  | openRead p | copystat p _ | chmod p _ =>
    simp only [FsCall.apply] at h
    split_ifs at h
    cases h
    rfl

section Calls

variable {env : Env} {P : FileSystem → Prop}

theorem call_of_ok {c : FsCall} {w : World} {fs : FileSystem} (henv : env c = none)
    (h : c.apply w.fs = .ok fs) : call env c w = (⟨fs, w.states⟩, .ok ()) := by
  rw [call, henv]
  simp only [h]

theorem call_eq_ok {c : FsCall} {w w' : World} (h : call env c w = (w', .ok ())) :
    ∃ fs, c.apply w.fs = .ok fs ∧ w' = ⟨fs, w.states⟩ := by
  unfold call at h
  split at h
  · cases h
  · split at h
    · next fs hfs =>
      cases h
      exact ⟨fs, hfs, rfl⟩
    · cases h

theorem keeps_call {c : FsCall} (hc : ∀ fs fs', P fs → c.apply fs = .ok fs' → P fs') :
    Sys.Keeps P (call env c) := by
  intro w hw
  unfold call
  split
  · exact hw
  · split
    · next fs hfs =>
      intro fs' hfs'
      rcases List.mem_cons.1 hfs' with rfl | hfs'
      · exact hc _ _ (hw _ (List.mem_cons_self _ _)) hfs
      · exact hw _ hfs'
    · exact hw

/-- **Frame.** A call that does not name path `q` keeps every property of what `q` holds. -/
theorem keeps_comp_get_call {c : FsCall} {q : String} (hq : c.changes q = false)
    (P : Option Bytes → Prop) : Sys.Keeps (fun fs => P (fs.get q)) (call env c) :=
  keeps_call fun _ _ h ha => by rwa [FsCall.get_apply ha hq]

theorem keeps_get_call {c : FsCall} {q : String} (hq : c.changes q = false) (v : Option Bytes) :
    Sys.Keeps (fun fs => fs.get q = v) (call env c) :=
  keeps_comp_get_call hq (· = v)

theorem keeps_writeBytes {path : String} (hw : ∀ i b, Sys.Keeps P (call env (.write path i b))) :
    ∀ (i : Nat) (bs : Bytes), Sys.Keeps P (writeBytes env path i bs)
  | _, [] => Sys.keeps_pure ()
  | i, _ :: bs => Sys.Keeps.bind (hw _ _) fun _ => keeps_writeBytes hw (i + 1) bs

theorem writeBytes_snd (path : String) :
    ∀ (i : Nat) (bs : Bytes) (w w' : World),
      (writeBytes env path i bs w).2 = (writeBytes env path i bs w').2
  | _, [], _, _ => rfl
  | i, b :: bs, w, w' => by
    cases henv : env (.write path i b) with
    | some e =>
      have h : ∀ w : World, call env (.write path i b) w = (w, .error e) := fun w => by
        rw [call, henv]
      rw [writeBytes, Sys.bind_of_error (h w), Sys.bind_of_error (h w')]
    | none =>
      rw [writeBytes, Sys.bind_of_ok (call_of_ok henv rfl), Sys.bind_of_ok (call_of_ok henv rfl)]
      exact writeBytes_snd path (i + 1) bs _ _

theorem writeBytes_of_ok {path : String} :
    ∀ {i : Nat} {bs : Bytes} {w w' : World} {content : Bytes},
      writeBytes env path i bs w = (w', .ok ()) → w.fs.get path = some content →
        w'.fs.get path = some (content ++ bs)
  | _, [], w, w', _, h, hc => by
    cases h
    simpa using hc
  | i, b :: bs, w, w', content, h, hc => by
    obtain ⟨_, w₁, h₁, h₂⟩ := Sys.bind_eq_ok h
    obtain ⟨fs, hfs, rfl⟩ := call_eq_ok h₁
    simp only [FsCall.apply, Except.ok.injEq] at hfs
    subst hfs
    rw [writeBytes_of_ok h₂ (by rw [Dict.get_modify, if_pos rfl, hc]; rfl), List.append_assoc,
      List.singleton_append]

end Calls

/-! ### `PersistentDict` -/

/-- A `PersistentDict`: a mapping kept in memory, and where and how `sync` saves it. -/
structure PersistentDict (K V : Type) where
  /-- `"r"` (read-only), `"c"` (create) or `"n"` (new). -/
  flag : String
  /-- `None`, or the permission bits `sync` gives the file. -/
  mode : Option Nat
  /-- `"pickle"`, `"json"` or `"csv"`. -/
  format : String
  /-- The file the mapping is saved to. -/
  filename : String
  /-- The mapping. -/
  data : Dict K V

/-- What `pickle.dump(dict(self), fileobj, 2)` writes, and the exception it raises after those
bytes, if it raises. -/
abbrev Pickler (K V : Type) :=
  Dict K V → Bytes × Option Raised

namespace PersistentDict

variable {K V : Type}

/-- `PersistentDict(filename=filename)` over the mapping `data`: flag `"c"`, no mode, pickle. -/
def init (filename : String) (data : Dict K V) : PersistentDict K V :=
  ⟨"c", none, "pickle", filename, data⟩

/-- `clear()`. -/
def clear (d : PersistentDict K V) : PersistentDict K V :=
  { d with data := ∅ }

/-- `tempname = self.filename + ".tmp"`. -/
def tempname (d : PersistentDict K V) : String :=
  d.filename ++ ".tmp"

/-- `dump(fileobj)`, for the handle on `path`. -/
def dump (env : Env) (pickle : Pickler K V) (d : PersistentDict K V) (path : String) :
    Sys Unit :=
  if d.format = "pickle" then do
    writeBytes env path 0 (pickle d.data).1
    match (pickle d.data).2 with
    | some e => Sys.raise e
    | none => pure ()
  else Sys.raise (.exception ("NotImplementedError: Unknown format: '" ++ d.format ++ "'"))

/-- The lines of `sync` that write the temporary file: `open` it, `dump` into it under
`try`, remove it and re-raise in `except Exception`, and `close` it in `finally`. -/
def writeTemp (env : Env) (pickle : Pickler K V) (d : PersistentDict K V) : Sys Unit := do
  call env (.openWrite d.tempname)
  Sys.tryFinally
    (Sys.tryExcept (d.dump env pickle d.tempname) Raised.isException fun e => do
      call env (.remove d.tempname)
      Sys.raise e)
    (call env (.close d.tempname))

/-- `sync()`. -/
def sync (env : Env) (pickle : Pickler K V) (d : PersistentDict K V) : Sys Unit :=
  if d.flag = "r" then pure () else do
    d.writeTemp env pickle
    shutilMove env d.tempname d.filename
    match d.mode with
    | some mode => call env (.chmod d.filename mode)
    | none => pure ()

/-- `close()`: `sync()`, then `clear()`. The dict is returned beside the world, as `close`
leaves it. -/
def close (env : Env) (pickle : Pickler K V) (d : PersistentDict K V) (w : World) :
    (World × PersistentDict K V) × Except Raised Unit :=
  match sync env pickle d w with
  | (w', .ok ()) => ((w', d.clear), .ok ())
  | (w', .error e) => ((w', d), .error e)

/-- The complete pickle of the mapping, when `dump` produces one. -/
def newPickle (pickle : Pickler K V) (d : PersistentDict K V) : Option Bytes :=
  if d.format = "pickle" ∧ (pickle d.data).2 = none then some (pickle d.data).1 else none

/-- The destination holds its prior content, or the complete new pickle. -/
def DestOk (pickle : Pickler K V) (d : PersistentDict K V) (prior : Option Bytes)
    (fs : FileSystem) : Prop :=
  fs.get d.filename = prior ∨ ((newPickle pickle d).isSome ∧ fs.get d.filename = newPickle pickle d)

instance (pickle : Pickler K V) (d : PersistentDict K V) (prior : Option Bytes)
    (fs : FileSystem) : Decidable (DestOk pickle d prior fs) :=
  inferInstanceAs (Decidable (_ ∨ _))

/-! ### The write to the temporary file -/

section WriteTemp

variable (env : Env) (pickle : Pickler K V) (d : PersistentDict K V)

theorem tempname_ne_filename : d.tempname ≠ d.filename := fun h => by
  have hlen := congrArg String.length h
  rw [tempname, String.length_append] at hlen
  have : ".tmp".length = 4 := rfl
  omega

theorem dump_snd (path : String) (w w' : World) :
    (d.dump env pickle path w).2 = (d.dump env pickle path w').2 := by
  unfold dump
  split_ifs
  · rcases h : writeBytes env path 0 (pickle d.data).1 w with ⟨w₁, e | ⟨⟩⟩ <;>
      rcases h' : writeBytes env path 0 (pickle d.data).1 w' with ⟨w₁', e' | ⟨⟩⟩ <;>
      have hs := @writeBytes_snd env path 0 (pickle d.data).1 w w' <;>
      rw [h, h'] at hs <;> cases hs
    · rw [Sys.bind_of_error h, Sys.bind_of_error h']
    · rw [Sys.bind_of_ok h, Sys.bind_of_ok h']
      cases (pickle d.data).2 <;> rfl
  · rfl

theorem dump_eq_ok {path : String} {w w' : World} (h : d.dump env pickle path w = (w', .ok ())) :
    d.format = "pickle" ∧ (pickle d.data).2 = none ∧
      writeBytes env path 0 (pickle d.data).1 w = (w', .ok ()) := by
  unfold dump at h
  split_ifs at h with hf
  · obtain ⟨⟨⟩, w₁, h₁, h₂⟩ := Sys.bind_eq_ok h
    rcases hp : (pickle d.data).2 with _ | e <;> rw [hp] at h₂
    · cases h₂
      exact ⟨hf, rfl, h₁⟩
    · exact absurd h₂ Sys.raise_ne_ok
  · cases h

/-- The calls of `writeTemp` name only the temporary file, so they keep every other path. -/
theorem keeps_get_writeTemp {q : String} (hq : d.tempname ≠ q) (P : Option Bytes → Prop) :
    Sys.Keeps (fun fs => P (fs.get q)) (d.writeTemp env pickle) := by
  have htemp : ∀ c : FsCall, c.changes q = false →
      Sys.Keeps (fun fs => P (fs.get q)) (call env c) := fun _ hc => keeps_comp_get_call hc P
  refine Sys.Keeps.bind (htemp _ (by simp [FsCall.changes, hq])) fun _ => Sys.Keeps.tryFinally
    (Sys.Keeps.tryExcept ?_ fun e => Sys.Keeps.bind (htemp _ (by simp [FsCall.changes, hq]))
      fun _ => Sys.keeps_raise e) (htemp _ rfl)
  unfold dump
  split_ifs
  · refine Sys.Keeps.bind (keeps_writeBytes (fun _ _ => htemp _ (by simp [FsCall.changes, hq])) _ _)
      fun _ => ?_
    split
    exacts [Sys.keeps_raise _, Sys.keeps_pure ()]
  · exact Sys.keeps_raise _

/-- The calls of `writeTemp` keep the destination. -/
theorem keeps_writeTemp (v : Option Bytes) :
    Sys.Keeps (fun fs => fs.get d.filename = v) (d.writeTemp env pickle) :=
  keeps_get_writeTemp env pickle d (tempname_ne_filename d) (· = v)

/-- When the write to the temporary file returns, the file holds the complete pickle. -/
theorem writeTemp_of_ok {w w' : World} (h : d.writeTemp env pickle w = (w', .ok ())) :
    ∃ b, newPickle pickle d = some b ∧ w'.fs.get d.tempname = some b := by
  obtain ⟨⟨⟩, w₁, h₁, h₂⟩ := Sys.bind_eq_ok h
  obtain ⟨fs₁, hfs₁, rfl⟩ := call_eq_ok h₁
  cases hfs₁
  obtain ⟨w₂, h₃, h₄⟩ := Sys.tryFinally_eq_ok h₂
  obtain ⟨fs₂, hfs₂, rfl⟩ := call_eq_ok h₄
  cases hfs₂
  have hdump : d.dump env pickle d.tempname ⟨w.fs.set d.tempname [], w.states⟩ = (w₂, .ok ()) := by
    rcases Sys.tryExcept_eq_ok h₃ with h₃ | ⟨e, w₃, -, h₅⟩
    · exact h₃
    · obtain ⟨⟨⟩, w₄, -, h₆⟩ := Sys.bind_eq_ok h₅
      exact absurd h₆ Sys.raise_ne_ok
  obtain ⟨hf, hp, hw⟩ := dump_eq_ok env pickle d hdump
  refine ⟨_, if_pos ⟨hf, hp⟩, ?_⟩
  simpa using writeBytes_of_ok hw (Dict.get_set_self _ _ _)

theorem writeBytes_get_isSome {path : String} :
    ∀ {i : Nat} {bs : Bytes} {w : World}, (w.fs.get path).isSome →
      ((writeBytes env path i bs w).1.fs.get path).isSome
  | _, [], _, h => h
  | i, b :: bs, w, h => by
    rw [writeBytes]
    cases henv : env (.write path i b) with
    | some e =>
      rw [Sys.bind_of_error (by rw [call, henv])]
      exact h
    | none =>
      rw [Sys.bind_of_ok (call_of_ok henv rfl)]
      refine writeBytes_get_isSome ?_
      simpa [FsCall.apply, Dict.get_modify] using h

theorem dump_get_isSome {path : String} {w : World} (h : (w.fs.get path).isSome) :
    ((d.dump env pickle path w).1.fs.get path).isSome := by
  unfold dump
  split_ifs
  · have := @writeBytes_get_isSome env path 0 (pickle d.data).1 w h
    rcases hw : writeBytes env path 0 (pickle d.data).1 w with ⟨w₁, e | ⟨⟩⟩ <;> rw [hw] at this
    · rwa [Sys.bind_of_error hw]
    · rw [Sys.bind_of_ok hw]
      cases (pickle d.data).2 <;> exact this
  · exact h

/-- When `dump` raises an `Exception` and the cleanup calls go through, the write to the
temporary file raises it, and the temporary file is gone. -/
theorem writeTemp_of_dump_raises {w : World} {e : Raised} (he : e.isException = true)
    (hopen : env (.openWrite d.tempname) = none)
    (hdump : (d.dump env pickle d.tempname w).2 = .error e)
    (hremove : env (.remove d.tempname) = none) (hclose : env (.close d.tempname) = none) :
    ∃ w', d.writeTemp env pickle w = (w', .error e) ∧ w'.fs.get d.tempname = none := by
  set w₁ : World := ⟨w.fs.set d.tempname [], w.states⟩
  have h₁ : call env (.openWrite d.tempname) w = (w₁, .ok ()) := call_of_ok hopen rfl
  set w₂ := (d.dump env pickle d.tempname w₁).1
  have h₂ : d.dump env pickle d.tempname w₁ = (w₂, .error e) := by
    rw [← (dump_snd env pickle d d.tempname w₁ w).trans hdump]
  have h₀ : (w₁.fs.get d.tempname).isSome := by simp [w₁]
  obtain ⟨content, hc⟩ := Option.isSome_iff_exists.1 (dump_get_isSome env pickle d h₀)
  set w₃ : World := ⟨w₂.fs.erase d.tempname, w₂.states⟩
  have h₃ : call env (.remove d.tempname) w₂ = (w₃, .ok ()) :=
    call_of_ok hremove (by simp [FsCall.apply, hc])
  have h₄ : call env (.close d.tempname) w₃ = (⟨w₃.fs, w₃.states⟩, .ok ()) := call_of_ok hclose rfl
  refine ⟨⟨w₃.fs, w₃.states⟩, ?_, by simp [w₃]⟩
  rw [writeTemp, Sys.bind_of_ok h₁]
  exact Sys.tryFinally_of_ok (by rw [Sys.tryExcept_of_catch h₂ he, Sys.bind_of_ok h₃]; rfl) h₄

end WriteTemp

/-! ### `sync` -/

section Sync

variable (env : Env) (pickle : Pickler K V) (d : PersistentDict K V)

theorem holds_init (fs₀ : FileSystem) :
    World.Holds (fun fs => fs.get d.filename = fs₀.get d.filename) ⟨fs₀, []⟩ := by
  intro fs hfs
  rw [List.mem_singleton.1 hfs]

/-- **What the destination holds is kept** when `os.rename` does not raise: every property of
its content that the complete new pickle has too holds at every file system the run passes
through. -/
theorem sync_keeps_dest (hrename : env (.rename d.tempname d.filename) = none)
    (P : Option Bytes → Prop) (hnew : ∀ b, newPickle pickle d = some b → P (some b)) :
    Sys.Keeps (fun fs => P (fs.get d.filename)) (sync env pickle d) := by
  intro w hw
  rw [sync]
  split_ifs with hr
  · exact hw
  have h₁ := keeps_get_writeTemp env pickle d (tempname_ne_filename d) P w hw
  rcases hwt : d.writeTemp env pickle w with ⟨w₁, e | ⟨⟩⟩ <;> rw [hwt] at h₁
  · rw [Sys.bind_of_error hwt]
    exact h₁
  · obtain ⟨b, hb, htemp⟩ := writeTemp_of_ok env pickle d hwt
    set w₂ : World := ⟨(w₁.fs.erase d.tempname).set d.filename b, w₁.states⟩
    have hmove : shutilMove env d.tempname d.filename w₁ = (w₂, .ok ()) :=
      Sys.tryExcept_of_ok (call_of_ok hrename (by simp [FsCall.apply, htemp])) _ _
    have h₂ : w₂.Holds fun fs => P (fs.get d.filename) := by
      intro fs hfs
      rcases List.mem_cons.1 hfs with rfl | hfs
      · rw [Dict.get_set_self]
        exact hnew b hb
      · exact h₁ fs hfs
    rw [Sys.bind_of_ok hwt, Sys.bind_of_ok hmove]
    cases d.mode with
    | some mode => exact keeps_comp_get_call (c := .chmod d.filename mode) rfl P w₂ h₂
    | none => exact h₂

/-- **A failing `dump` is cleaned up.** For every mapping, every prior file system and every
point at which `dump` raises an `Exception`, after any prefix of the pickle: when opening,
removing and closing the temporary file go through, `sync` raises that exception, the temporary
file is gone and the destination is as it was. -/
theorem sync_of_dump_raises (hflag : d.flag ≠ "r") (fs₀ : FileSystem) {e : Raised}
    (he : e.isException = true) (hopen : env (.openWrite d.tempname) = none)
    (hdump : (d.dump env pickle d.tempname ⟨fs₀, []⟩).2 = .error e)
    (hremove : env (.remove d.tempname) = none) (hclose : env (.close d.tempname) = none) :
    (sync env pickle d ⟨fs₀, []⟩).2 = .error e ∧
      (sync env pickle d ⟨fs₀, []⟩).1.fs.get d.tempname = none ∧
      (sync env pickle d ⟨fs₀, []⟩).1.fs.get d.filename = fs₀.get d.filename := by
  obtain ⟨w', hw, htemp⟩ :=
    writeTemp_of_dump_raises env pickle d he hopen hdump hremove hclose
  have h₁ := keeps_writeTemp env pickle d _ _ (holds_init d fs₀)
  rw [hw] at h₁
  rw [sync, if_neg hflag, Sys.bind_of_error hw]
  exact ⟨rfl, htemp, h₁ _ (List.mem_cons_self _ _)⟩

/-- `pickle.dump` of a mapping holding a local function: two bytes, then `PicklingError`. -/
def picklingError : Pickler Unit UInt8 := fun _ =>
  ([128, 2], some (.exception "PicklingError: Can't pickle local object"))

theorem sync_of_dump_raises_picklingError :
    (init "state.pkl" ∅ : PersistentDict Unit UInt8).flag ≠ "r" ∧
      (Raised.exception "PicklingError: Can't pickle local object").isException = true ∧
      (fun _ => none : Env) (.openWrite (init "state.pkl" ∅ : PersistentDict Unit UInt8).tempname) =
        none ∧
      ((init "state.pkl" ∅ : PersistentDict Unit UInt8).dump (fun _ => none) picklingError
          (init "state.pkl" ∅ : PersistentDict Unit UInt8).tempname
          ⟨(∅ : FileSystem).set "state.pkl" [1], []⟩).2 =
        .error (.exception "PicklingError: Can't pickle local object") ∧
      (fun _ => none : Env) (.remove (init "state.pkl" ∅ : PersistentDict Unit UInt8).tempname) =
        none ∧
      (fun _ => none : Env) (.close (init "state.pkl" ∅ : PersistentDict Unit UInt8).tempname) =
        none ∧
      (sync (fun _ => none) picklingError (init "state.pkl" ∅)
          ⟨(∅ : FileSystem).set "state.pkl" [1], []⟩).2 =
        .error (.exception "PicklingError: Can't pickle local object") ∧
      (sync (fun _ => none) picklingError (init "state.pkl" ∅)
          ⟨(∅ : FileSystem).set "state.pkl" [1], []⟩).1.fs.get "state.pkl.tmp" = none ∧
      (sync (fun _ => none) picklingError (init "state.pkl" ∅)
          ⟨(∅ : FileSystem).set "state.pkl" [1], []⟩).1.fs.get "state.pkl" =
        ((∅ : FileSystem).set "state.pkl" [1]).get "state.pkl" :=
  ⟨by decide, rfl, rfl, rfl, rfl, rfl,
    sync_of_dump_raises (fun _ => none) picklingError (init "state.pkl" ∅) (by decide) _ rfl rfl rfl
      rfl rfl⟩

end Sync

/-! ### The copy fallback of `shutil.move` -/

/-- Windows' `os.rename`, on the move of `sync` for `state.pkl`: the destination exists, so it
raises `FileExistsError`. -/
def windowsRename : Env := fun c =>
  if c = .rename "state.pkl.tmp" "state.pkl" then
    some (.osError "FileExistsError: [WinError 183] Cannot create a file when that file already exists")
  else none

/-- `pickle.dump({}, f, 2)`: the bytes of `pickle.dumps({}, 2)`. -/
def emptyDictPickle : Pickler Unit Unit := fun _ =>
  ([128, 2, 125, 113, 0, 46], none)

/-- **The fallback is not atomic.** Where `os.rename` raises, as Windows' does over an existing
file, `shutil.move` copies the temporary file onto the destination, which it first empties:
the run passes through a file system whose destination holds neither its prior content (the
pickle of `None`) nor the new pickle. -/
theorem sync_copy_fallback_truncates :
    ∃ fs ∈ (sync windowsRename emptyDictPickle (init "state.pkl" ∅)
        ⟨(∅ : FileSystem).set "state.pkl" [128, 2, 78, 46], []⟩).1.states,
      ¬ DestOk emptyDictPickle (init "state.pkl" ∅) (some [128, 2, 78, 46]) fs := by
  decide

end PersistentDict

end CheckpointSaver
