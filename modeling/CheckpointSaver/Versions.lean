import CheckpointSaver.Basic
import Mathlib.Tactic.Ring

/-!
# Channel versions

`get_next_version(current, channel)` reads an integer off `current` (`0` for `None`, the int
itself, or `int(current.split(".")[0])`), adds one, and returns
`f"{next_v:032}.{next_h:016}"` for a draw `next_h = random.random()`. The model takes the
draw as its `str`, which is all the format reads of it, so every result below holds for every
draw, and more: for every text the draw could print as.

Three facts of Python carry the results, each proved here of the model of the builtin:

* `int()` undoes the format: `pyInt (formatInt w n) = some n` for every int `n`
  (`pyInt_formatInt`), so the prefix a version is read back to is the number it was written
  from (`currentV_versionText`), whatever follows its first `.`;
* decimal digit strings of one length compare as their values
  (`lt_of_foldl_digitStep_lt`), and every number below `10 ^ 32` is written with exactly 32
  characters (`length_zeroPad_toDigits`), so below that bound the order of versions is the order
  of their prefixes, whatever their suffixes (`versionText_lt`);
* feeding each version back gives the versions `1, 2, 3, ...` in turn (`versionChain_eq`).

## The theorems, and what each rests on

* `getNextVersion_ordered`: a version's prefix reads back as one more than `current`'s;
  versions with prefixes below `10 ^ 32` are ordered as their prefixes; and the chain from
  `None` increases for its first `10 ^ 32 - 1` versions. It consumes `currentV_issued`,
  `currentV_versionText`, `versionText_lt` and `versionChain_eq`.
* `versionText_wraps`: the bound is sharp; the version with prefix `10 ^ 32` sorts below the
  one with prefix `10 ^ 32 - 1`.
-/

namespace CheckpointSaver

/-! ### Python's `int()` and `format()` on decimal text -/

/-- `str.isspace`: the characters `int()` strips from both ends of its argument. -/
def isPySpace (c : Char) : Bool :=
  [9, 10, 11, 12, 13, 28, 29, 30, 31, 32, 133, 160, 5760, 8192, 8193, 8194, 8195, 8196, 8197,
    8198, 8199, 8200, 8201, 8202, 8232, 8233, 8239, 8287, 12288].contains c.toNat

/-- One decimal digit read into the value accumulated so far. -/
def digitStep (acc : Nat) (c : Char) : Nat :=
  10 * acc + (c.toNat - '0'.toNat)

/-- The digits of an integer literal, with single underscores between digits, read into `acc`;
`afterDigit` says whether the last character read was a digit. `none` where `int()` raises. -/
def parseDigits : Nat → Bool → List Char → Option Nat
  | acc, afterDigit, [] => if afterDigit then some acc else none
  | acc, afterDigit, c :: cs =>
    if c.isDigit then parseDigits (digitStep acc c) true cs
    else if c = '_' ∧ afterDigit then parseDigits acc false cs
    else none

/-- The sign of an integer literal, and what follows it. -/
def splitSign : List Char → Int × List Char
  | c :: cs => if c = '-' then (-1, cs) else if c = '+' then (1, cs) else (1, c :: cs)
  | [] => (1, [])

/-- `int(s)` of a string, in base 10: surrounding whitespace, an optional sign, then ASCII
digits with single underscores between them. `none` where Python raises `ValueError`. -/
def pyInt (s : String) : Option Int :=
  let body := ((s.data.dropWhile isPySpace).reverse.dropWhile isPySpace).reverse
  let (sign, digits) := splitSign body
  (parseDigits 0 false digits).map fun n => sign * n

/-- The zero padding of `format` under a `0` flag: zeros on the left up to `width`. -/
def zeroPad (width : Nat) (cs : List Char) : List Char :=
  List.replicate (width - cs.length) '0' ++ cs

/-- `format(n, "0<width>")` of an int: its sign, then its decimal digits zero-padded so that
the whole is `width` long. -/
def formatInt (width : Nat) (n : Int) : String :=
  if n < 0 then ⟨'-' :: zeroPad (width - 1) (Nat.toDigits 10 n.natAbs)⟩
  else ⟨zeroPad width (Nat.toDigits 10 n.natAbs)⟩

/-- What `get_next_version` is handed as `current`: `None`, an `int` or a `str`. -/
inductive VersionArg
  | none
  | int (n : Int)
  | str (s : String)
  deriving DecidableEq

namespace InMemorySaver

/-- `current.split(".")[0]`: the text before the first `.`. -/
def versionPrefix (s : String) : String :=
  ⟨s.data.takeWhile (· ≠ '.')⟩

/-- `current_v`: `0` for `None`, the int itself, or `int(current.split(".")[0])`. -/
def currentV : VersionArg → Except String Int
  | .none => .ok 0
  | .int n => .ok n
  | .str s =>
    match pyInt (versionPrefix s) with
    | some n => .ok n
    | none => .error ("ValueError: invalid literal for int() with base 10: '" ++
        versionPrefix s ++ "'")

/-- `f"{next_v:032}.{next_h:016}"`, with the draw `next_h` given by its `str`. -/
def versionText (nextV : Int) (nextH : String) : String :=
  formatInt 32 nextV ++ "." ++ ⟨zeroPad 16 nextH.data⟩

/-- `get_next_version(current, channel)`, for the draw whose `str` is `nextH`. -/
def getNextVersion (current : VersionArg) (nextH : String) : Except String String :=
  (currentV current).map fun currentV => versionText (currentV + 1) nextH

/-- The `current` values a caller feeds the generator: `None`, a non-negative int, or a version
the generator returned for one of these. -/
inductive Issued : VersionArg → Prop
  | none : Issued .none
  | int (n : Nat) : Issued (.int n)
  | str {c : VersionArg} {nextH s : String} :
      Issued c → getNextVersion c nextH = .ok s → Issued (.str s)

/-- The versions a caller obtains by feeding each version back in, one draw per call. -/
def versionChain : VersionArg → List String → Except String (List String)
  | _, [] => .ok []
  | current, nextH :: draws => do
    let s ← getNextVersion current nextH
    let rest ← versionChain (.str s) draws
    return s :: rest

end InMemorySaver

/-! ### Decimal digits -/

theorem toDigitsCore_succ (f n : Nat) (ds : List Char) :
    Nat.toDigitsCore 10 (f + 1) n ds =
      if n / 10 = 0 then Nat.digitChar (n % 10) :: ds
      else Nat.toDigitsCore 10 f (n / 10) (Nat.digitChar (n % 10) :: ds) :=
  rfl

theorem toDigitsCore_acc (f n : Nat) (ds : List Char) :
    Nat.toDigitsCore 10 f n ds = Nat.toDigitsCore 10 f n [] ++ ds := by
  induction f generalizing n ds with
  | zero => rfl
  | succ f ih =>
    rw [toDigitsCore_succ, toDigitsCore_succ]
    split
    · rfl
    · rw [ih _ (_ :: ds), ih _ [_], List.append_assoc, List.singleton_append]

theorem toDigitsCore_fuel {f g n : Nat} (hf : n < f) (hg : n < g) :
    Nat.toDigitsCore 10 f n [] = Nat.toDigitsCore 10 g n [] := by
  induction f generalizing g n with
  | zero => omega
  | succ f ih =>
    obtain ⟨g, rfl⟩ : ∃ g', g = g' + 1 := ⟨g - 1, by omega⟩
    rw [toDigitsCore_succ, toDigitsCore_succ]
    split
    · rfl
    · next h =>
      rw [toDigitsCore_acc f, toDigitsCore_acc g, ih (g := g) (n := n / 10) (by omega) (by omega)]

/-- **The last digit split off.** `Nat.toDigits` is the digits of `n / 10`, unless `n` is a
single digit, followed by the digit of `n % 10`. -/
theorem toDigits_ten_eq (n : Nat) :
    Nat.toDigits 10 n =
      (if n < 10 then [] else Nat.toDigits 10 (n / 10)) ++ [Nat.digitChar (n % 10)] := by
  show Nat.toDigitsCore 10 (n + 1) n [] = _
  rw [toDigitsCore_succ]
  by_cases h : n < 10
  · rw [if_pos (by omega), if_pos h]
    rfl
  · rw [if_neg (by omega), if_neg h, toDigitsCore_acc,
      toDigitsCore_fuel (f := n) (g := n / 10 + 1) (by omega) (by omega)]
    rfl

theorem digitChar_isDigit {d : Nat} (h : d < 10) :
    (Nat.digitChar d).isDigit = true ∧ digitStep 0 (Nat.digitChar d) = d := by
  revert d
  decide

theorem toNat_zero_char : '0'.toNat = 48 :=
  rfl

theorem isDigit_iff {c : Char} : c.isDigit = true ↔ 48 ≤ c.toNat ∧ c.toNat ≤ 57 := by
  simp only [Char.isDigit, Bool.and_eq_true, decide_eq_true_eq]
  rfl

/-- The digits of `n` are digits, and read back to `n`. -/
theorem toDigits_spec (n : Nat) :
    (∀ c ∈ Nat.toDigits 10 n, c.isDigit = true) ∧
      (Nat.toDigits 10 n).foldl digitStep 0 = n := by
  induction n using Nat.strong_induction_on with
  | _ n ih =>
    obtain ⟨hd, hv⟩ := digitChar_isDigit (Nat.mod_lt n (by norm_num : 10 > 0))
    rw [toDigits_ten_eq]
    split_ifs with h
    · simp only [List.nil_append, List.mem_singleton, forall_eq, hd, List.foldl_cons,
        List.foldl_nil, true_and]
      rw [hv, Nat.mod_eq_of_lt h]
    · obtain ⟨ih₁, ih₂⟩ := ih (n / 10) (by omega)
      refine ⟨fun c hc => ?_, ?_⟩
      · rcases List.mem_append.1 hc with hc | hc
        · exact ih₁ c hc
        · rw [List.mem_singleton.1 hc]
          exact hd
      · rw [List.foldl_append, ih₂, List.foldl_cons, List.foldl_nil]
        simp only [digitStep] at hv ⊢
        omega

theorem toDigits_length_le {n k : Nat} (h : n < 10 ^ (k + 1)) :
    (Nat.toDigits 10 n).length ≤ k + 1 := by
  induction k generalizing n with
  | zero =>
    rw [toDigits_ten_eq, if_pos (by simpa using h)]
    rfl
  | succ k ih =>
    rw [toDigits_ten_eq]
    split_ifs
    · simp
    · have := ih (n := n / 10) (by rw [Nat.div_lt_iff_lt_mul (by norm_num)]; rwa [← pow_succ])
      simp only [List.length_append, List.length_singleton]
      omega

theorem foldl_digitStep (acc : Nat) (l : List Char) :
    l.foldl digitStep acc = acc * 10 ^ l.length + l.foldl digitStep 0 := by
  induction l generalizing acc with
  | nil => simp
  | cons c l ih =>
    rw [List.foldl_cons, List.foldl_cons, ih, ih (digitStep 0 c), List.length_cons]
    simp only [digitStep]
    ring

theorem foldl_digitStep_lt {l : List Char} (h : ∀ c ∈ l, c.isDigit = true) :
    l.foldl digitStep 0 < 10 ^ l.length := by
  induction l using List.reverseRecOn with
  | nil => simp
  | append_singleton l c ih =>
    have hc := isDigit_iff.1 (h c (List.mem_append_right _ (List.mem_singleton_self c)))
    have hl := ih fun c' hc' => h c' (List.mem_append_left _ hc')
    rw [List.foldl_append, List.foldl_cons, List.foldl_nil, List.length_append,
      List.length_singleton, pow_succ]
    simp only [digitStep, toNat_zero_char]
    omega

theorem foldl_digitStep_zeroPad (w : Nat) (l : List Char) :
    (zeroPad w l).foldl digitStep 0 = l.foldl digitStep 0 := by
  rw [zeroPad, List.foldl_append]
  congr 1
  induction w - l.length with
  | zero => rfl
  | succ k ih => rw [List.replicate_succ', List.foldl_append, ih]; rfl

/-- **Equal length, value order is string order.** Two digit strings of one length compare
in Python's string order as their values do. -/
theorem lt_of_foldl_digitStep_lt :
    ∀ {l₁ l₂ : List Char}, (∀ c ∈ l₁, c.isDigit = true) → (∀ c ∈ l₂, c.isDigit = true) →
      l₁.length = l₂.length → l₁.foldl digitStep 0 < l₂.foldl digitStep 0 → List.lt l₁ l₂
  | [], [], _, _, _, hv => absurd hv (lt_irrefl _)
  | a :: as, b :: bs, h₁, h₂, hlen, hv => by
    have ha := isDigit_iff.1 (h₁ a (List.mem_cons_self _ _))
    have hb := isDigit_iff.1 (h₂ b (List.mem_cons_self _ _))
    have has := foldl_digitStep_lt fun c hc => h₁ c (List.mem_cons_of_mem _ hc)
    have hbs := foldl_digitStep_lt fun c hc => h₂ c (List.mem_cons_of_mem _ hc)
    have hlen' : as.length = bs.length := by simpa using hlen
    rw [List.foldl_cons, List.foldl_cons, foldl_digitStep, foldl_digitStep (digitStep 0 b),
      hlen'] at hv
    rw [hlen'] at has
    simp only [digitStep, toNat_zero_char, Nat.mul_zero, Nat.zero_add] at hv
    rcases Nat.lt_trichotomy a.toNat b.toNat with hab | hab | hab
    · exact List.lt.head _ _ (Char.lt_iff_val_lt_val.2 hab)
    · have hab' : a = b := Char.ext (UInt32.ext hab)
      subst hab'
      exact List.lt.tail (lt_irrefl a) (lt_irrefl a) (lt_of_foldl_digitStep_lt
        (fun c hc => h₁ c (List.mem_cons_of_mem _ hc)) (fun c hc => h₂ c (List.mem_cons_of_mem _ hc))
        hlen' (by omega))
    · have : (b.toNat - 48 + 1) * 10 ^ bs.length ≤ (a.toNat - 48) * 10 ^ bs.length :=
        Nat.mul_le_mul_right _ (by omega)
      rw [Nat.add_mul, one_mul] at this
      omega

/-- Appending to two lists of one length keeps their order. -/
theorem lt_append_of_lt {l₁ l₂ : List Char} (h : List.lt l₁ l₂) (hlen : l₁.length = l₂.length)
    (x y : List Char) : List.lt (l₁ ++ x) (l₂ ++ y) := by
  induction h with
  | nil => simp at hlen
  | head as bs hab => exact List.lt.head _ _ hab
  | tail hab hba _ ih => exact List.lt.tail hab hba (ih (by simpa using hlen))

/-! ### `int()` undoes the format -/

theorem dropWhile_eq_self {p : Char → Bool} {l : List Char} (h : ∀ c ∈ l, p c = false) :
    l.dropWhile p = l := by
  cases l with
  | nil => rfl
  | cons c l => simp [List.dropWhile_cons, h c (List.mem_cons_self _ _)]

theorem parseDigits_eq {l : List Char} (h : ∀ c ∈ l, c.isDigit = true) (hne : l ≠ [])
    (acc : Nat) (afterDigit : Bool) : parseDigits acc afterDigit l = some (l.foldl digitStep acc) := by
  induction l generalizing acc afterDigit with
  | nil => exact absurd rfl hne
  | cons c l ih =>
    rw [parseDigits, if_pos (h c (List.mem_cons_self _ _)), List.foldl_cons]
    cases l with
    | nil => rfl
    | cons c' l => exact ih (fun c hc => h c (List.mem_cons_of_mem _ hc)) (List.cons_ne_nil _ _) _ _

theorem digits_zeroPad_toDigits (w n : Nat) :
    (∀ c ∈ zeroPad w (Nat.toDigits 10 n), c.isDigit = true) ∧
      zeroPad w (Nat.toDigits 10 n) ≠ [] ∧
      (zeroPad w (Nat.toDigits 10 n)).foldl digitStep 0 = n := by
  obtain ⟨hd, hv⟩ := toDigits_spec n
  refine ⟨fun c hc => ?_, ?_, by rw [foldl_digitStep_zeroPad, hv]⟩
  · rcases List.mem_append.1 hc with hc | hc
    · rw [List.eq_of_mem_replicate hc]
      rfl
    · exact hd c hc
  · rw [zeroPad, toDigits_ten_eq]
    simp

theorem not_isPySpace_of_isDigit {c : Char} (h : c.isDigit = true) : isPySpace c = false := by
  have := isDigit_iff.1 h
  rw [Bool.eq_false_iff]
  intro hsp
  simp [isPySpace] at hsp
  omega

theorem strip_eq_self {l : List Char} (h : ∀ c ∈ l, isPySpace c = false) :
    ((l.dropWhile isPySpace).reverse.dropWhile isPySpace).reverse = l := by
  rw [dropWhile_eq_self h, dropWhile_eq_self (fun c hc => h c (List.mem_reverse.1 hc)),
    List.reverse_reverse]

/-- The format writes a sign and digits only. -/
theorem formatInt_chars (w : Nat) (n : Int) :
    ∀ c ∈ (formatInt w n).data, c = '-' ∨ c.isDigit = true := by
  unfold formatInt
  split_ifs
  · intro c hc
    rcases List.mem_cons.1 hc with rfl | hc
    · exact .inl rfl
    · exact .inr ((digits_zeroPad_toDigits _ _).1 c hc)
  · exact fun c hc => .inr ((digits_zeroPad_toDigits _ _).1 c hc)

theorem splitSign_of_isDigit {c : Char} (h : c.isDigit = true) (cs : List Char) :
    splitSign (c :: cs) = (1, c :: cs) := by
  have := isDigit_iff.1 h
  rw [splitSign, if_neg (by rintro rfl; simp at this), if_neg (by rintro rfl; simp at this)]

/-- **`int()` undoes the format.** Every int is read back from its zero-padded text. -/
theorem pyInt_formatInt (w : Nat) (n : Int) : pyInt (formatInt w n) = some n := by
  have hsp : ∀ c ∈ (formatInt w n).data, isPySpace c = false := fun c hc => by
    rcases formatInt_chars w n c hc with rfl | hd
    exacts [rfl, not_isPySpace_of_isDigit hd]
  unfold pyInt
  rw [strip_eq_self hsp]
  unfold formatInt
  split_ifs with hn
  · obtain ⟨hd, hne, hv⟩ := digits_zeroPad_toDigits (w - 1) n.natAbs
    simp [splitSign, parseDigits_eq hd hne, hv, -Int.natCast_natAbs]
    omega
  · obtain ⟨hd, hne, hv⟩ := digits_zeroPad_toDigits w n.natAbs
    obtain ⟨c, cs, hcs⟩ := List.exists_cons_of_ne_nil hne
    have hsign := splitSign_of_isDigit (hd c (by rw [hcs]; exact List.mem_cons_self _ _)) cs
    rw [← hcs] at hsign
    simp [hsign, parseDigits_eq hd hne, hv, -Int.natCast_natAbs]
    omega

/-- Python's string order is the lexicographic order of the characters. -/
theorem string_lt_of_lt {s t : String} (h : List.lt s.data t.data) : s < t :=
  String.lt_iff_toList_lt.2 ((List.lt_iff_lex_lt _ _).1 h)

namespace InMemorySaver

theorem versionPrefix_versionText (v : Int) (nextH : String) :
    versionPrefix (versionText v nextH) = formatInt 32 v := by
  have hdot : ∀ c ∈ (formatInt 32 v).data, (decide (c ≠ '.')) = true := fun c hc => by
    rcases formatInt_chars 32 v c hc with rfl | hd
    · rfl
    · have := isDigit_iff.1 hd
      simp only [ne_eq, decide_eq_true_eq]
      rintro rfl
      simp at this
  rw [versionPrefix, versionText, String.data_append, String.data_append,
    List.append_assoc, List.takeWhile_append_of_pos hdot]
  simp

/-- **A version reads back as the number it was written from**, whatever its draw. -/
theorem currentV_versionText (v : Int) (nextH : String) :
    currentV (.str (versionText v nextH)) = .ok v := by
  rw [currentV, versionPrefix_versionText, pyInt_formatInt]

theorem getNextVersion_eq {current : VersionArg} {v : Int} (h : currentV current = .ok v)
    (nextH : String) : getNextVersion current nextH = .ok (versionText (v + 1) nextH) := by
  rw [getNextVersion, h]
  rfl

/-- The draw `1.2e-05` prints in exponent form, with a `.` of its own. -/
example : getNextVersion .none "1.2e-05" =
    .ok "00000000000000000000000000000001.0000000001.2e-05" :=
  rfl

theorem getNextVersion_eq_ok {current : VersionArg} {nextH s : String}
    (h : getNextVersion current nextH = .ok s) :
    ∃ v, currentV current = .ok v ∧ s = versionText (v + 1) nextH := by
  unfold getNextVersion at h
  cases hc : currentV current with
  | error e => rw [hc] at h; cases h
  | ok v => rw [hc] at h; exact ⟨v, rfl, (Except.ok.inj h).symm⟩

/-- Every `current` a caller feeds the generator reads as a non-negative number. -/
theorem currentV_issued {current : VersionArg} (h : Issued current) :
    ∃ p, currentV current = .ok p ∧ 0 ≤ p := by
  induction h with
  | none => exact ⟨0, rfl, le_rfl⟩
  | int n => exact ⟨n, rfl, Int.natCast_nonneg n⟩
  | str _ hs ih =>
    obtain ⟨p, hp, hp₀⟩ := ih
    obtain ⟨v, hv, rfl⟩ := getNextVersion_eq_ok hs
    rw [hp, Except.ok.injEq] at hv
    exact ⟨v + 1, currentV_versionText _ _, by omega⟩

theorem length_zeroPad_toDigits {n : Nat} (h : n < 10 ^ 32) :
    (zeroPad 32 (Nat.toDigits 10 n)).length = 32 := by
  have := toDigits_length_le (k := 31) h
  rw [zeroPad, List.length_append, List.length_replicate]
  omega

/-- **Below `10 ^ 32`, versions are ordered as their numbers**, whatever their draws. -/
theorem versionText_lt {a b : Int} (ha : 0 ≤ a) (hab : a < b) (hb : b < 10 ^ 32)
    (x y : String) : versionText a x < versionText b y := by
  obtain ⟨hda, -, hva⟩ := digits_zeroPad_toDigits 32 a.natAbs
  obtain ⟨hdb, -, hvb⟩ := digits_zeroPad_toDigits 32 b.natAbs
  have hla := length_zeroPad_toDigits (n := a.natAbs) (by omega)
  have hlb := length_zeroPad_toDigits (n := b.natAbs) (by omega)
  apply string_lt_of_lt
  rw [versionText, versionText, formatInt, formatInt, if_neg (by omega),
    if_neg (by omega), String.data_append, String.data_append, String.data_append,
    String.data_append, List.append_assoc, List.append_assoc]
  exact lt_append_of_lt (lt_of_foldl_digitStep_lt hda hdb (hla.trans hlb.symm)
    (by rw [hva, hvb]; omega)) (hla.trans hlb.symm) _ _

/-- **The chain in closed form.** Fed back its own versions from `current`, the generator
returns the versions of `current`'s number plus `1`, `2`, `3`, ... in turn. -/
theorem versionChain_eq (draws : List String) {current : VersionArg} {p : Int}
    (h : currentV current = .ok p) :
    versionChain current draws = .ok (draws.mapIdx fun i nextH => versionText (p + i + 1) nextH) := by
  induction draws generalizing current p with
  | nil => rfl
  | cons nextH draws ih =>
    rw [versionChain, getNextVersion_eq h, List.mapIdx_cons]
    simp only [bind, Except.bind, ih (currentV_versionText (p + 1) nextH), pure, Except.pure]
    congr 3
    · simp
    · funext i nextH'
      congr 1
      push_cast
      ring

/-- **The bound is sharp.** At `10 ^ 32` the number outgrows its 32 places, and its version
sorts below the one before it, whatever the draws. -/
theorem versionText_wraps (x y : String) :
    versionText (10 ^ 32) x < versionText (10 ^ 32 - 1) y := by
  have h₁ : (formatInt 32 (10 ^ 32)).data = '1' :: List.replicate 32 '0' := by decide
  have h₂ : (formatInt 32 (10 ^ 32 - 1)).data = List.replicate 32 '9' := by decide
  apply string_lt_of_lt
  rw [versionText, versionText, String.data_append, String.data_append,
    String.data_append, String.data_append, h₁, h₂]
  exact List.lt.head _ _ (by decide)

end InMemorySaver

end CheckpointSaver
