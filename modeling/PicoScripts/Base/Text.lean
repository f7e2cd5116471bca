import Mathlib.Data.List.Infix
import Mathlib.Data.Nat.Digits
import Mathlib.Order.Interval.Finset.Nat

/-!
# Python text primitives

The scripts read tool output through `str.splitlines()`, `str.split()`,
`str.split('\n')` and `int(s, 16)`, and test lines with `in` and `endswith`.
Text is a character list. Each operation follows CPython
(`Objects/unicodeobject.c`, `Objects/longobject.c`): whitespace and line breaks are
the full Unicode sets CPython uses; `int` reads ASCII digits only, its transliteration
of other Unicode decimal digits is left out.
The renderers at the end print numbers and columns as `llvm-nm` and `llvm-readelf` do.
-/

namespace PicoScripts

/-- CPython `Py_UNICODE_ISSPACE`: bidirectional class WS, B or S, or category Zs. -/
def isSpace (c : Char) : Bool :=
  let n := c.toNat
  (9 ≤ n && n ≤ 13) || (28 ≤ n && n ≤ 32) || n == 0x85 || n == 0xA0 || n == 0x1680 ||
    (0x2000 ≤ n && n ≤ 0x200A) || n == 0x2028 || n == 0x2029 || n == 0x202F ||
    n == 0x205F || n == 0x3000

/-- The line boundaries of `str.splitlines()`. -/
def isLineBreak (c : Char) : Bool :=
  let n := c.toNat
  (10 ≤ n && n ≤ 13) || (28 ≤ n && n ≤ 30) || n == 0x85 || n == 0x2028 || n == 0x2029

/-- Every line boundary is whitespace. -/
theorem isSpace_of_isLineBreak {c : Char} (h : isLineBreak c = true) : isSpace c = true := by
  simp only [isLineBreak, isSpace, Bool.or_eq_true, Bool.and_eq_true, decide_eq_true_eq,
    beq_iff_eq] at h ⊢
  omega

/-- A text with no whitespace: one field of `str.split()` at most. -/
def NoSpace (t : List Char) : Prop := ∀ c ∈ t, isSpace c = false

instance : DecidablePred NoSpace := fun t => inferInstanceAs (Decidable (∀ c ∈ t, _))

/-- A text with no line boundary: one line of `str.splitlines()` at most. -/
def NoLineBreak (t : List Char) : Prop := ∀ c ∈ t, isLineBreak c = false

instance : DecidablePred NoLineBreak := fun t => inferInstanceAs (Decidable (∀ c ∈ t, _))

/-- A whitespace-free text has no line boundary. -/
theorem NoSpace.noLineBreak {t : List Char} (h : NoSpace t) : NoLineBreak t :=
  fun c hc => Bool.eq_false_iff.mpr fun hb => by simpa [h c hc] using isSpace_of_isLineBreak hb

@[simp] theorem noLineBreak_nil : NoLineBreak [] := fun _ h => absurd h (List.not_mem_nil _)

@[simp] theorem noLineBreak_cons {c : Char} {t : List Char} :
    NoLineBreak (c :: t) ↔ isLineBreak c = false ∧ NoLineBreak t := by
  simp [NoLineBreak]

@[simp] theorem noLineBreak_append {s t : List Char} :
    NoLineBreak (s ++ t) ↔ NoLineBreak s ∧ NoLineBreak t := by
  simp only [NoLineBreak, List.mem_append, or_imp, forall_and]

theorem noLineBreak_replicate_blank (n : Nat) : NoLineBreak (List.replicate n ' ') :=
  fun _ h => by rw [List.eq_of_mem_replicate h]; rfl

@[simp] theorem noSpace_nil : NoSpace [] := fun _ h => absurd h (List.not_mem_nil _)

@[simp] theorem noSpace_cons {c : Char} {t : List Char} :
    NoSpace (c :: t) ↔ isSpace c = false ∧ NoSpace t := by
  simp [NoSpace]

@[simp] theorem noSpace_append {s t : List Char} : NoSpace (s ++ t) ↔ NoSpace s ∧ NoSpace t := by
  simp only [NoSpace, List.mem_append, or_imp, forall_and]

/-! ### `str.split()` -/

/-- `str.split()` scanning with the open field `acc`: runs of whitespace separate fields,
and no empty field is produced. -/
def splitAux : List Char → List Char → List (List Char)
  | [], acc => if acc = [] then [] else [acc]
  | c :: cs, acc =>
    if isSpace c then (if acc = [] then [] else [acc]) ++ splitAux cs []
    else splitAux cs (acc ++ [c])

/-- CPython `str.split()` with no separator. -/
def split (s : List Char) : List (List Char) := splitAux s []

private theorem splitAux_append_space {c : Char} (hc : isSpace c = true) (b : List Char) :
    ∀ (a acc : List Char), splitAux (a ++ c :: b) acc = splitAux a acc ++ splitAux b []
  | [], acc => by simp [splitAux, hc]
  | x :: a, acc => by
    by_cases hx : isSpace x
    · simp [splitAux, hx, splitAux_append_space hc b a]
    · simp [splitAux, hx, splitAux_append_space hc b a]

private theorem splitAux_noSpace :
    ∀ (t acc : List Char), NoSpace t → splitAux t acc = splitAux [] (acc ++ t)
  | [], acc, _ => by simp
  | x :: t, acc, h => by
    have hx : isSpace x = false := h x (List.mem_cons_self _ _)
    rw [show splitAux (x :: t) acc = splitAux t (acc ++ [x]) by simp [splitAux, hx],
      splitAux_noSpace t _ fun c hc => h c (List.mem_cons_of_mem _ hc)]
    simp only [List.append_assoc, List.singleton_append]

@[simp] theorem split_nil : split [] = [] := rfl

/-- A whitespace character splits the text in two independent halves. -/
theorem split_append_space {c : Char} (hc : isSpace c = true) (a b : List Char) :
    split (a ++ c :: b) = split a ++ split b :=
  splitAux_append_space hc b a []

/-- The blank the tools print between columns separates fields. -/
theorem split_append_blank (a b : List Char) : split (a ++ ' ' :: b) = split a ++ split b :=
  split_append_space (c := ' ') rfl a b

theorem split_cons_blank (b : List Char) : split (' ' :: b) = split b :=
  split_append_blank [] b

/-- The field a whitespace-free column contributes: none when it is empty. -/
def optField (t : List Char) : List (List Char) := if t = [] then [] else [t]

/-- A whitespace-free text is one field, or none when empty. -/
theorem split_noSpace {t : List Char} (h : NoSpace t) : split t = optField t := by
  simp [split, splitAux_noSpace t [] h, splitAux, optField]

/-- Leading whitespace is skipped. -/
theorem split_replicate_append (n : Nat) (b : List Char) :
    split (List.replicate n ' ' ++ b) = split b := by
  induction n with
  | zero => rfl
  | succ n ih =>
    have h := split_append_space (c := ' ') rfl [] (List.replicate n ' ' ++ b)
    rw [List.nil_append, ih, split_nil, List.nil_append] at h
    simpa [List.replicate_succ] using h

theorem split_replicate_blank (n : Nat) : split (List.replicate n ' ') = [] := by
  simpa using split_replicate_append n []

/-! ### `str.splitlines()` -/

/-- `str.splitlines()` scanning with the open line `acc`: `\r\n` is one boundary, and a
boundary at the very end opens no empty line. -/
def splitlinesAux : List Char → List Char → List (List Char)
  | [], acc => if acc = [] then [] else [acc]
  | '\r' :: '\n' :: cs, acc => acc :: splitlinesAux cs []
  | c :: cs, acc =>
    if isLineBreak c then acc :: splitlinesAux cs [] else splitlinesAux cs (acc ++ [c])

/-- CPython `str.splitlines()`. -/
def splitlines (s : List Char) : List (List Char) := splitlinesAux s []

/-- Tool output: every line followed by `\n`. -/
def unlines (ls : List (List Char)) : List Char := ls.foldr (fun l acc => l ++ '\n' :: acc) []

private theorem splitlinesAux_line (rest : List Char) :
    ∀ (l acc : List Char), NoLineBreak l →
      splitlinesAux (l ++ '\n' :: rest) acc = (acc ++ l) :: splitlinesAux rest []
  | [], acc, _ => by simp [splitlinesAux, isLineBreak]
  | x :: l, acc, h => by
    have hx : isLineBreak x = false := h x (List.mem_cons_self _ _)
    have hr : x ≠ '\r' := by rintro rfl; exact absurd hx (by decide)
    have ih := splitlinesAux_line rest l (acc ++ [x]) fun c hc => h c (List.mem_cons_of_mem _ hc)
    rw [List.cons_append, splitlinesAux.eq_3 _ _ _ (by simp [hr]), hx]
    simpa using ih

/-- Lines without boundaries are recovered from the output that prints them. -/
theorem splitlines_unlines (ls : List (List Char)) (h : ∀ l ∈ ls, NoLineBreak l) :
    splitlines (unlines ls) = ls := by
  induction ls with
  | nil => rfl
  | cons l ls ih =>
    have ht := ih fun l' hl' => h l' (List.mem_cons_of_mem _ hl')
    change splitlinesAux (l ++ '\n' :: unlines ls) [] = l :: ls
    rw [splitlinesAux_line _ l [] (h l (List.mem_cons_self _ _)), List.nil_append]
    exact congrArg (l :: ·) ht

/-! ### `int(s, base)` -/

/-- Value of a hexadecimal digit: `0`–`9`, `a`–`f` or `A`–`F`. -/
def hexDigitVal (c : Char) : Option Nat :=
  let n := c.toNat
  if 48 ≤ n ∧ n ≤ 57 then some (n - 48)
  else if 97 ≤ n ∧ n ≤ 102 then some (n - 87)
  else if 65 ≤ n ∧ n ≤ 70 then some (n - 55)
  else none

/-- The whitespace `int()` skips around a literal. CPython maps every non-ASCII whitespace
character to a blank and then skips ASCII `Py_ISSPACE`, so the separators `\x1c`–`\x1f`,
whitespace to `str.split()`, are not skipped. -/
def isIntSpace (c : Char) : Bool := isSpace c && !(28 ≤ c.toNat && c.toNat ≤ 31)

/-- `_PyLong_DigitValue`: `0`–`9`, then `a`–`z` and `A`–`Z` from 10 to 35, and 37 for any
other character. -/
def digitValue (c : Char) : Nat :=
  let n := c.toNat
  if 48 ≤ n ∧ n ≤ 57 then n - 48
  else if 97 ≤ n ∧ n ≤ 122 then n - 87
  else if 65 ≤ n ∧ n ≤ 90 then n - 55
  else 37

/-- The digits of a literal in base `base` with single underscores between them. `expect`
holds where only a digit may follow (at the start without a base prefix, and after `_`),
`seen` once a digit was read. -/
def digitsIn (base acc : Nat) (expect seen : Bool) : List Char → Option Nat
  | [] => if expect || !seen then none else some acc
  | '_' :: cs => if expect then none else digitsIn base acc true seen cs
  | c :: cs =>
    if digitValue c < base then digitsIn base (acc * base + digitValue c) false true cs else none

/-- The characters `int()` skips, stripped from both ends. -/
def stripInt (s : List Char) : List Char :=
  ((s.dropWhile isIntSpace).reverse.dropWhile isIntSpace).reverse

/-- The sign of a numeric literal, `true` for `-`. -/
def signOf : List Char → Bool × List Char
  | '-' :: s => (true, s)
  | '+' :: s => (false, s)
  | s => (false, s)

/-- The base a prefix letter names: `x`, `o` or `b`, in either case. -/
def prefixBase (c : Char) : Option Nat :=
  if c = 'x' ∨ c = 'X' then some 16
  else if c = 'o' ∨ c = 'O' then some 8
  else if c = 'b' ∨ c = 'B' then some 2
  else none

/-- Base 0: the base the literal's prefix names, and whether the literal must be zero (a
decimal literal with a leading `0`, the old octal form). -/
def detectBase : List Char → Nat × Bool
  | '0' :: s =>
    match s.head?.bind prefixBase with
    | some b => (b, false)
    | none => (10, true)
  | _ => (10, false)

/-- The prefix `0x`, `0o` or `0b` of base `base`, skipped where present. -/
def skipPrefix (base : Nat) : List Char → Bool × List Char
  | '0' :: c :: s => if prefixBase c = some base then (true, s) else (false, '0' :: c :: s)
  | s => (false, s)

/-- `sys.int_info.default_max_str_digits`: the most digits `int()` converts in a base that
is not a power of two. -/
def maxStrDigits : Nat := 4300

/-- CPython `int(s, base)` (`PyLong_FromString`) for `base` 0 or 2 to 36; `none` where it
raises `ValueError`. -/
def pyInt (base : Nat) (s : List Char) : Option Int :=
  let (neg, unsigned) := signOf (stripInt s)
  let (base, mustBeZero) := if base = 0 then detectBase unsigned else (base, false)
  let (pre, body) := skipPrefix base unsigned
  match digitsIn base 0 (!pre) false body with
  | none => none
  | some n =>
    if (base &&& (base - 1) ≠ 0 ∧ maxStrDigits < (body.filter fun c => c != '_').length) ∨
        (mustBeZero ∧ n ≠ 0) then none
    else some (if neg then -(n : Int) else n)

/-- CPython `int(s, 16)`. -/
def intHex (s : List Char) : Option Int := pyInt 16 s

/-! ### Rendering -/

/-- Lowercase hexadecimal, zero-padded on the left to `w` digits (`printf("%0*x")`). -/
def hexPad (w n : Nat) : List Char :=
  List.replicate (w - (Nat.toDigits 16 n).length) '0' ++ Nat.toDigits 16 n

/-- Right-aligned in a column of width `w`. -/
def padLeft (w : Nat) (s : List Char) : List Char := List.replicate (w - s.length) ' ' ++ s

/-- Left-aligned in a column of width `w`. -/
def padRight (w : Nat) (s : List Char) : List Char := s ++ List.replicate (w - s.length) ' '

theorem split_padLeft (n : Nat) (s : List Char) : split (padLeft n s) = split s :=
  split_replicate_append _ s

theorem noLineBreak_padLeft (n : Nat) {s : List Char} (h : NoLineBreak s) :
    NoLineBreak (padLeft n s) :=
  noLineBreak_append.mpr ⟨noLineBreak_replicate_blank _, h⟩

theorem noLineBreak_padRight (n : Nat) {s : List Char} (h : NoLineBreak s) :
    NoLineBreak (padRight n s) :=
  noLineBreak_append.mpr ⟨h, noLineBreak_replicate_blank _⟩

theorem split_padRight (n : Nat) (s : List Char) : split (padRight n s) = split s := by
  rw [padRight]
  cases n - s.length with
  | zero => simp
  | succ k => rw [List.replicate_succ, split_append_blank, split_replicate_blank, List.append_nil]

/-- A text of hexadecimal digits only. -/
def HexDigits (s : List Char) : Prop := ∀ c ∈ s, (hexDigitVal c).isSome

instance : DecidablePred HexDigits := fun s => inferInstanceAs (Decidable (∀ c ∈ s, _))

/-- Python's `format(i, 'x')`: lowercase hexadecimal with a `-` for negative numbers. -/
def hexInt : Int → List Char
  | .ofNat n => Nat.toDigits 16 n
  | .negSucc n => '-' :: Nat.toDigits 16 (n + 1)

/-- Python's `format(i, '0wx')`: the sign of a negative number, then lowercase hexadecimal
zero-padded so that the whole is at least `w` wide. -/
def hexIntPad (w : Nat) : Int → List Char
  | .ofNat n => hexPad w n
  | .negSucc n => '-' :: hexPad (w - 1) (n + 1)

/-- A text of digits of base `b` only: no sign, underscore or blank. -/
def DigitsOf (b : Nat) (s : List Char) : Prop := ∀ c ∈ s, digitValue c < b

private def digitStep (b a : Nat) (c : Char) : Nat := a * b + digitValue c

private theorem digitChar_props (k : Nat) (hk : k < 16) :
    hexDigitVal (Nat.digitChar k) = some k ∧ digitValue (Nat.digitChar k) = k ∧
      isSpace (Nat.digitChar k) = false ∧ (0 < k → Nat.digitChar k ≠ '0') :=
  (by decide : ∀ k : Fin 16, hexDigitVal (Nat.digitChar k) = some k ∧
    digitValue (Nat.digitChar k) = k ∧ isSpace (Nat.digitChar k) = false ∧
      (0 < k.val → Nat.digitChar k ≠ '0')) ⟨k, hk⟩

/-- `int()` reads a digit that `Nat.digitChar` writes as its value. -/
theorem digitValue_digitChar {k : Nat} (hk : k < 16) : digitValue (Nat.digitChar k) = k :=
  (digitChar_props k hk).2.1

private theorem mem_toDigitsCore (b : Nat) (hb : 0 < b) :
    ∀ (fuel n : Nat) (ds : List Char) (c : Char), c ∈ Nat.toDigitsCore b fuel n ds →
      c ∈ ds ∨ ∃ k < b, c = Nat.digitChar k
  | 0, _, _, _, h => .inl h
  | fuel + 1, n, ds, c, h => by
    simp only [Nat.toDigitsCore] at h
    split at h
    · rcases List.mem_cons.mp h with rfl | h
      · exact .inr ⟨n % b, Nat.mod_lt _ hb, rfl⟩
      · exact .inl h
    · rcases mem_toDigitsCore b hb fuel _ _ c h with h | h
      · rcases List.mem_cons.mp h with rfl | h
        · exact .inr ⟨n % b, Nat.mod_lt _ hb, rfl⟩
        · exact .inl h
      · exact .inr h

/-- Every character `Nat.toDigits` prints for a base up to 16 is a digit character. -/
theorem mem_toDigits {b n : Nat} {c : Char} (hb : 0 < b) (h : c ∈ Nat.toDigits b n) :
    ∃ k < b, c = Nat.digitChar k := by
  rcases mem_toDigitsCore b hb _ _ _ c h with h | h
  · simp at h
  · exact h

theorem noSpace_toDigits {b : Nat} (hb : 0 < b) (hb' : b ≤ 16) (n : Nat) :
    NoSpace (Nat.toDigits b n) := fun _ hc => by
  obtain ⟨k, hk, rfl⟩ := mem_toDigits hb hc
  exact (digitChar_props k (by omega)).2.2.1

private theorem toDigitsCore_append (b : Nat) :
    ∀ (fuel n : Nat) (ds : List Char),
      Nat.toDigitsCore b fuel n ds = Nat.toDigitsCore b fuel n [] ++ ds
  | 0, _, _ => rfl
  | fuel + 1, n, ds => by
    simp only [Nat.toDigitsCore]
    split
    · rfl
    · rw [toDigitsCore_append b fuel _ (_ :: ds), toDigitsCore_append b fuel _ [_]]
      simp

/-- A one-digit number prints as one digit. -/
theorem toDigits_of_lt_ten {i : Nat} (h : i < 10) : Nat.toDigits 10 i = [Nat.digitChar i] := by
  simp [Nat.toDigits, Nat.toDigitsCore, Nat.div_eq_of_lt h, Nat.mod_eq_of_lt h]

private theorem toDigitsCore_ne_nil (b fuel n : Nat) : Nat.toDigitsCore b (fuel + 1) n [] ≠ [] := by
  rw [Nat.toDigitsCore]
  split
  · simp
  · rw [toDigitsCore_append]; simp

theorem toDigits_ne_nil (b n : Nat) : Nat.toDigits b n ≠ [] := toDigitsCore_ne_nil b n n

/-- A number of two digits or more fills a column of width two. -/
theorem two_le_length_toDigits {i : Nat} (h : 10 ≤ i) : 2 ≤ (Nat.toDigits 10 i).length := by
  obtain ⟨j, rfl⟩ : ∃ j, i = j + 1 := ⟨i - 1, by omega⟩
  rw [Nat.toDigits, Nat.toDigitsCore, if_neg (by omega), toDigitsCore_append, List.length_append]
  have := List.length_pos.mpr (toDigitsCore_ne_nil 10 j ((j + 1) / 10))
  simp only [List.length_singleton]
  omega

private theorem foldl_toDigitsCore {b : Nat} (hb : 2 ≤ b) (hb' : b ≤ 16) :
    ∀ (fuel n : Nat), n < fuel → (Nat.toDigitsCore b fuel n []).foldl (digitStep b) 0 = n
  | 0, _, h => absurd h (Nat.not_lt_zero _)
  | fuel + 1, n, h => by
    have hd := (digitChar_props (n % b) (by have := Nat.mod_lt n (by omega : 0 < b); omega)).2.1
    simp only [Nat.toDigitsCore]
    split
    · next h0 =>
      simp only [List.foldl, digitStep, hd, Nat.zero_mul, Nat.zero_add]
      exact Nat.mod_eq_of_lt ((Nat.div_eq_zero_iff (by omega)).mp h0)
    · next h0 =>
      have hn : 0 < n := Nat.pos_of_ne_zero fun h => h0 (by simp [h])
      have hlt : n / b < fuel := by have := Nat.div_lt_self hn hb; omega
      rw [toDigitsCore_append, List.foldl_append, foldl_toDigitsCore hb hb' fuel _ hlt]
      simp only [List.foldl, digitStep, hd]
      exact Nat.div_add_mod' n b

private theorem foldl_zeros (b k : Nat) : (List.replicate k '0').foldl (digitStep b) 0 = 0 := by
  induction k with
  | zero => rfl
  | succ k ih =>
    rw [List.replicate_succ', List.foldl_append, ih]
    simp only [List.foldl, digitStep, Nat.zero_mul, Nat.zero_add]
    decide

private theorem foldl_toDigits {b : Nat} (hb : 2 ≤ b) (hb' : b ≤ 16) (n : Nat) :
    (Nat.toDigits b n).foldl (digitStep b) 0 = n :=
  foldl_toDigitsCore hb hb' _ _ (Nat.lt_succ_self n)

/-- Different numbers print differently, in every base from 2 to 16. -/
theorem toDigits_injective {b : Nat} (hb : 2 ≤ b) (hb' : b ≤ 16) :
    Function.Injective (Nat.toDigits b) := fun m n h => by
  rw [← foldl_toDigits hb hb' m, h, foldl_toDigits hb hb' n]

private theorem foldl_hexPad (w n : Nat) : (hexPad w n).foldl (digitStep 16) 0 = n := by
  rw [hexPad, List.foldl_append, foldl_zeros, foldl_toDigits (by decide) le_rfl]

theorem hexDigits_hexPad (w n : Nat) : HexDigits (hexPad w n) := by
  intro c hc
  rcases List.mem_append.mp hc with h | h
  · rw [List.eq_of_mem_replicate h]; rfl
  · obtain ⟨k, hk, rfl⟩ := mem_toDigits (by decide) h
    simp [(digitChar_props k hk).1]

private theorem toNat_of_hexDigitVal {c : Char} (h : (hexDigitVal c).isSome) :
    48 ≤ c.toNat ∧ c.toNat ≤ 102 := by
  simp only [hexDigitVal] at h
  split_ifs at h <;> first | omega | simp at h

theorem noSpace_of_hexDigits {s : List Char} (h : HexDigits s) : NoSpace s := fun c hc => by
  have := toNat_of_hexDigitVal (h c hc)
  simp only [isSpace, Bool.or_eq_false_iff, Bool.and_eq_false_iff, decide_eq_false_iff_not,
    beq_eq_false_iff_ne]
  omega

theorem hexPad_ne_nil (w n : Nat) : hexPad w n ≠ [] := by simp [hexPad, toDigits_ne_nil 16 n]

theorem split_hexPad (w n : Nat) : split (hexPad w n) = [hexPad w n] := by
  simp [split_noSpace (noSpace_of_hexDigits (hexDigits_hexPad w n)), hexPad_ne_nil, optField]

theorem digitsOf_toDigits {b : Nat} (hb : 0 < b) (hb' : b ≤ 16) (n : Nat) :
    DigitsOf b (Nat.toDigits b n) := fun _ hc => by
  obtain ⟨k, hk, rfl⟩ := mem_toDigits hb hc
  rw [(digitChar_props k (by omega)).2.1]
  exact hk

theorem digitsOf_hexPad (w n : Nat) : DigitsOf 16 (hexPad w n) := by
  intro c hc
  rcases List.mem_append.mp hc with h | h
  · rw [List.eq_of_mem_replicate h]; decide
  · exact digitsOf_toDigits (by decide) le_rfl n c h

private theorem digitValue_underscore : digitValue '_' = 37 := by decide

private theorem digitsIn_of_digitsOf {b : Nat} (hb : b ≤ 37) :
    ∀ (s : List Char) (acc : Nat) (e seen : Bool), DigitsOf b s → s ≠ [] →
      digitsIn b acc e seen s = some (s.foldl (digitStep b) acc)
  | [], _, _, _, _, h => absurd rfl h
  | c :: s, acc, e, seen, hs, _ => by
    have hd := hs c (List.mem_cons_self _ _)
    have hc : c ≠ '_' := by rintro rfl; rw [digitValue_underscore] at hd; omega
    have ht : DigitsOf b s := fun x hx => hs x (List.mem_cons_of_mem _ hx)
    rw [digitsIn.eq_3 _ _ _ _ _ _ hc, if_pos hd]
    cases s with
    | nil => rfl
    | cons c' s => rw [digitsIn_of_digitsOf hb _ _ _ _ ht (List.cons_ne_nil _ _)]; rfl

private theorem noSpace_of_digitsOf {b : Nat} (hb : b ≤ 37) {s : List Char} (h : DigitsOf b s) :
    NoSpace s := fun c hc => by
  have hd := h c hc
  simp only [digitValue] at hd
  simp only [isSpace, Bool.or_eq_false_iff, Bool.and_eq_false_iff, decide_eq_false_iff_not,
    beq_eq_false_iff_ne]
  split_ifs at hd <;> omega

private theorem dropWhile_isIntSpace {s : List Char} (h : NoSpace s) :
    s.dropWhile isIntSpace = s := by
  cases s with
  | nil => rfl
  | cons c s => simp [List.dropWhile, isIntSpace, h c (List.mem_cons_self _ _)]

theorem stripInt_of_noSpace {s : List Char} (h : NoSpace s) : stripInt s = s := by
  have hr : NoSpace s.reverse := fun c hc => h c (List.mem_reverse.mp hc)
  simp [stripInt, dropWhile_isIntSpace h, dropWhile_isIntSpace hr]

private theorem signOf_of_digitsOf {b : Nat} (hb : b ≤ 37) {s : List Char} (h : DigitsOf b s) :
    signOf s = (false, s) := by
  rcases s with _ | ⟨c, s⟩
  · rfl
  · have hc := h c (List.mem_cons_self _ _)
    have h1 : c ≠ '-' := by rintro rfl; simp [digitValue] at hc; omega
    have h2 : c ≠ '+' := by rintro rfl; simp [digitValue] at hc; omega
    simp [signOf, h1, h2]

private theorem le_digitValue_of_prefixBase {c : Char} {b : Nat} (h : prefixBase c = some b) :
    b ≤ digitValue c := by
  simp only [prefixBase] at h
  split_ifs at h with h1 h2 h3 <;> cases h
  · rcases h1 with rfl | rfl <;> decide
  · rcases h2 with rfl | rfl <;> decide
  · rcases h3 with rfl | rfl <;> decide

/-- Digits of a base never start with that base's prefix. -/
private theorem skipPrefix_of_digitsOf {b : Nat} {s : List Char} (h : DigitsOf b s) :
    skipPrefix b s = (false, s) := by
  rcases s with _ | ⟨c, _ | ⟨c', s⟩⟩
  · rfl
  · exact skipPrefix.eq_2 _ _ (by simp)
  · have hc := h c' (List.mem_cons_of_mem _ (List.mem_cons_self _ _))
    have hp : prefixBase c' ≠ some b := fun hp => by
      have := le_digitValue_of_prefixBase hp; omega
    by_cases h0 : c = '0'
    · subst h0; simp [skipPrefix, hp]
    · simp [skipPrefix, h0]

private theorem filter_underscore_of_digitsOf {b : Nat} (hb : b ≤ 37) {s : List Char}
    (h : DigitsOf b s) : (s.filter fun c => c != '_') = s :=
  List.filter_eq_self.mpr fun c hc => by
    have := h c hc
    have hc' : c ≠ '_' := by rintro rfl; rw [digitValue_underscore] at this; omega
    simpa using hc'

private theorem pyInt_of_digitsOf {b : Nat} (hb : 0 < b) (hb' : b ≤ 36) {s : List Char}
    (hs : DigitsOf b s) (hne : s ≠ [])
    (hlim : b &&& (b - 1) = 0 ∨ s.length ≤ maxStrDigits) :
    pyInt b s = some ((s.foldl (digitStep b) 0 : Nat) : Int) := by
  have hn : ¬((b &&& (b - 1) ≠ 0 ∧ maxStrDigits < s.length) ∨
      (false = true ∧ s.foldl (digitStep b) 0 ≠ 0)) := by
    simp only [Bool.false_eq_true, false_and, or_false, not_and, not_lt]
    rcases hlim with h | h
    · exact fun h' => absurd h h'
    · exact fun _ => h
  simp only [pyInt, stripInt_of_noSpace (noSpace_of_digitsOf (by omega) hs),
    signOf_of_digitsOf (by omega) hs, if_neg (Nat.pos_iff_ne_zero.mp hb),
    skipPrefix_of_digitsOf hs, Bool.not_false, digitsIn_of_digitsOf (by omega) _ 0 _ _ hs hne,
    filter_underscore_of_digitsOf (by omega) hs, if_neg hn]
  rfl

/-- `int()` of a text of digits is never negative. -/
theorem nonneg_of_pyInt {b base : Nat} (hb : b ≤ 36) {s : List Char} (hs : DigitsOf b s)
    {v : Int} (h : pyInt base s = some v) : 0 ≤ v := by
  simp only [pyInt, stripInt_of_noSpace (noSpace_of_digitsOf (by omega) hs),
    signOf_of_digitsOf (by omega) hs, Bool.false_eq_true, if_false] at h
  split at h
  · cases h
  · split_ifs at h <;> cases h <;> exact Int.ofNat_nonneg _

/-- `int(s, 16)` reads back every number the tools print in hexadecimal. -/
theorem intHex_hexPad (w n : Nat) : intHex (hexPad w n) = some (n : Int) := by
  rw [intHex, pyInt_of_digitsOf (by decide) (by decide) (digitsOf_hexPad w n) (hexPad_ne_nil w n)
    (.inl (by decide)), foldl_hexPad]

/-- `int(s, 0)` reads back `0x` followed by the hexadecimal digits of a number. -/
theorem pyInt_zero_hexPad (w n : Nat) : pyInt 0 ('0' :: 'x' :: hexPad w n) = some (n : Int) := by
  have hd := digitsOf_hexPad w n
  have hs : NoSpace ('0' :: 'x' :: hexPad w n) := by
    simp only [noSpace_cons]
    exact ⟨by decide, by decide, noSpace_of_digitsOf (by decide) hd⟩
  have hn : ¬((16 &&& (16 - 1) ≠ 0 ∧
      maxStrDigits < ((hexPad w n).filter fun c => c != '_').length) ∨ (false = true ∧ n ≠ 0)) := by
    simp only [Bool.false_eq_true, false_and, or_false, not_and]
    exact fun h => absurd (by decide) h
  have hsign : signOf ('0' :: 'x' :: hexPad w n) = (false, '0' :: 'x' :: hexPad w n) := rfl
  have hdetect : detectBase ('0' :: 'x' :: hexPad w n) = (16, false) := rfl
  have hskip : skipPrefix 16 ('0' :: 'x' :: hexPad w n) = (true, hexPad w n) := rfl
  simp only [pyInt, stripInt_of_noSpace hs, hsign, eq_self_iff_true, ite_true, hdetect, hskip,
    Bool.not_true, digitsIn_of_digitsOf (by decide) _ 0 _ _ hd (hexPad_ne_nil w n), foldl_hexPad,
    if_neg hn]
  rfl

/-- `int(s, 0)` reads back `0x` and the hexadecimal text Python prints for a non-negative
integer, and rejects the `0x-…` text it prints for a negative one. -/
theorem pyInt_zero_hexIntPad (w : Nat) (v : Int) :
    pyInt 0 ('0' :: 'x' :: hexIntPad w v) = if 0 ≤ v then some v else none := by
  cases v with
  | ofNat n => exact (pyInt_zero_hexPad w n).trans (if_pos (Int.ofNat_nonneg n)).symm
  | negSucc n =>
    have hd := digitsOf_hexPad (w - 1) (n + 1)
    have hs : NoSpace ('0' :: 'x' :: '-' :: hexPad (w - 1) (n + 1)) := by
      simp only [noSpace_cons]
      exact ⟨by decide, by decide, by decide, noSpace_of_digitsOf (by decide) hd⟩
    have hsign : signOf ('0' :: 'x' :: '-' :: hexPad (w - 1) (n + 1)) =
        (false, '0' :: 'x' :: '-' :: hexPad (w - 1) (n + 1)) := rfl
    have hdetect : detectBase ('0' :: 'x' :: '-' :: hexPad (w - 1) (n + 1)) = (16, false) := rfl
    have hskip : skipPrefix 16 ('0' :: 'x' :: '-' :: hexPad (w - 1) (n + 1)) =
        (true, '-' :: hexPad (w - 1) (n + 1)) := rfl
    have hbody : digitsIn 16 0 false false ('-' :: hexPad (w - 1) (n + 1)) = none := rfl
    simp only [hexIntPad, pyInt, stripInt_of_noSpace hs, hsign, eq_self_iff_true, ite_true, hdetect,
      hskip, Bool.not_true, hbody]
    rfl

end PicoScripts
