import PicoScripts.Base.Script
import PicoScripts.Base.Text

/-!
# Symbol lookup through `llvm-nm -S`

`src/script/compute_checksums.py:35-62` (`get_symbol_address`) runs `llvm-nm -S` and
scans its lines in order. The first line that contains the symbol name as a substring
and splits into at least three fields decides: with four fields and a data or BSS type
letter (`D d B b`) it gives the first two fields as address and size, otherwise the
first field as address and size `0`. An unparsable field raises `ValueError`; when no
line decides, the result is `(None, None)`.
-/

namespace PicoScripts

/-- `int(s, 16)` as a statement: `ValueError` where it does not parse. -/
def hexField (s : List Char) : Except PyError Int :=
  match intHex s with
  | some v => .ok v
  | none => .error .valueError

@[simp] theorem hexField_hexPad (w n : Nat) : hexField (hexPad w n) = .ok (n : Int) := by
  simp [hexField, intHex_hexPad]

/-- The type letters of initialized and zero-initialized data. -/
def dataTypeLetters : List (List Char) := [['D'], ['d'], ['B'], ['b']]

/-- The loop of `get_symbol_address` over the output's lines. -/
def findSymbol (symbolName : List Char) : List (List Char) → Except PyError (Option (Int × Int))
  | [] => .ok none
  | line :: lines =>
    if symbolName <:+: line then
      let parts := split line
      if 4 ≤ parts.length ∧ parts.getD 2 [] ∈ dataTypeLetters then do
        let addr ← hexField (parts.getD 0 [])
        let size ← if 0 < (parts.getD 1 []).length then hexField (parts.getD 1 []) else pure 0
        pure (some (addr, size))
      else if 3 ≤ parts.length then do
        let addr ← hexField (parts.getD 0 [])
        pure (some (addr, 0))
      else findSymbol symbolName lines
    else findSymbol symbolName lines

/-- `get_symbol_address`, given what `llvm-nm -S` prints for the image or the text of the
`CalledProcessError` it exits with. -/
def getSymbolAddress (nm : List UInt8 → Except (List Char) (List Char))
    (symbolName : List Char) : Script (Option (Int × Int)) := do
  match nm (← readFile) with
  | .error e =>
    printErr ("Error getting symbol address: ".toList ++ e)
    pure none
  | .ok stdout =>
    match ← liftExcept (findSymbol symbolName (splitlines stdout)) with
    | some r => pure (some r)
    | none =>
      printErr ("Symbol ".toList ++ symbolName ++ " not found".toList)
      pure none

/-- The lookup finds an address exactly when the tool succeeds and a line decides, and it
then prints nothing. -/
theorem run_getSymbolAddress_eq_some {nm : List UInt8 → Except (List Char) (List Char)}
    {symbolName : List Char} {w w' : World} {p : Int × Int} :
    (getSymbolAddress nm symbolName).run w = .ok (some p) w' ↔
      w' = w ∧ ∃ out, nm w.file = .ok out ∧ findSymbol symbolName (splitlines out) = .ok (some p) := by
  simp only [getSymbolAddress, run_bind, run_readFile]
  cases nm w.file with
  | error e => simp
  | ok out =>
    cases hf : findSymbol symbolName (splitlines out) with
    | error e => simp [hf]
    | ok res => cases res <;> simp [hf, eq_comm, and_comm]

/-- When no line decides, the lookup reports the symbol missing and finds nothing. -/
theorem run_getSymbolAddress_of_none {nm : List UInt8 → Except (List Char) (List Char)}
    {symbolName : List Char} {w : World} {out : List Char} (hnm : nm w.file = .ok out)
    (hf : findSymbol symbolName (splitlines out) = .ok none) :
    (getSymbolAddress nm symbolName).run w = .ok none
      { w with stderr := w.stderr ++ ["Symbol ".toList ++ symbolName ++ " not found".toList] } := by
  simp [getSymbolAddress, hnm, hf]

/-! ### The listing `llvm-nm -S` prints -/

/-- One line of `llvm-nm -S`: a defined symbol with or without a size, or an undefined one. -/
inductive NmLine
  | sized (address size : Nat) (type : Char) (name : List Char)
  | unsized (address : Nat) (type : Char) (name : List Char)
  | undefined (type : Char) (name : List Char)
  deriving DecidableEq, Repr

namespace NmLine

/-- The symbol's name. -/
def name : NmLine → List Char
  | sized _ _ _ n | unsized _ _ n | undefined _ n => n

/-- The symbol's type letter. -/
def type : NmLine → Char
  | sized _ _ t _ | unsized _ t _ | undefined t _ => t

/-- How `llvm-nm -S` prints the line, with `w`-digit addresses and sizes. -/
def render (w : Nat) : NmLine → List Char
  | sized a s t n => hexPad w a ++ ' ' :: hexPad w s ++ ' ' :: t :: ' ' :: n
  | unsized a t n => hexPad w a ++ ' ' :: t :: ' ' :: n
  | undefined t n => List.replicate w ' ' ++ ' ' :: t :: ' ' :: n

/-- The fields of a line: its type letter is not blank and its name is one nonempty field. -/
structure WF (l : NmLine) : Prop where
  type : isSpace l.type = false
  name : NoSpace l.name
  name_ne_nil : l.name ≠ []

instance : DecidablePred WF := fun l =>
  decidable_of_iff (isSpace l.type = false ∧ NoSpace l.name ∧ l.name ≠ [])
    ⟨fun ⟨a, b, c⟩ => ⟨a, b, c⟩, fun ⟨a, b, c⟩ => ⟨a, b, c⟩⟩

/-- What `get_symbol_address` should return for the line: the address of a defined
symbol, with its size when the line has one and a data type letter. -/
def expected : NmLine → Option (Int × Int)
  | sized a s t _ => some (a, if [t] ∈ dataTypeLetters then s else 0)
  | unsized a _ _ => some (a, 0)
  | undefined _ _ => none

variable {l : NmLine}

/-- The name ends the printed line. -/
theorem name_infix_render (w : Nat) (l : NmLine) : l.name <:+: l.render w := by
  refine List.IsSuffix.isInfix ⟨?_, ?_⟩
  · exact match l with
    | sized a s t _ => hexPad w a ++ ' ' :: hexPad w s ++ [' ', t, ' ']
    | unsized a t _ => hexPad w a ++ [' ', t, ' ']
    | undefined t _ => List.replicate w ' ' ++ [' ', t, ' ']
  · cases l <;> simp [render, name]

/-- The fields of the printed line. -/
def fields (w : Nat) : NmLine → List (List Char)
  | sized a s t n => [hexPad w a, hexPad w s, [t], n]
  | unsized a t n => [hexPad w a, [t], n]
  | undefined t n => [[t], n]

private theorem split_tail {t : Char} {n : List Char} (ht : isSpace t = false) (hn : NoSpace n)
    (hn' : n ≠ []) : split (t :: ' ' :: n) = [[t], n] := by
  rw [← List.singleton_append, split_append_blank, split_noSpace (fun c hc => by
    simp_all), split_noSpace hn]
  simp [hn', optField]

/-- `str.split()` finds exactly the fields of a printed line. -/
theorem split_render (w : Nat) (h : l.WF) : split (l.render w) = l.fields w := by
  have ht := split_tail h.type h.name h.name_ne_nil
  cases l <;>
    simp_all only [render, fields, split_append_blank, split_hexPad, split_replicate_append,
      split_cons_blank, split_replicate_blank, name, type, List.singleton_append,
      List.cons_append, List.nil_append]

/-- A printed line is one line. -/
theorem noLineBreak_render (w : Nat) (h : l.WF) : NoLineBreak (l.render w) := by
  have hx := fun n => (noSpace_of_hexDigits (hexDigits_hexPad w n)).noLineBreak
  have ht : isLineBreak l.type = false := by
    cases hb : isLineBreak l.type
    · rfl
    · exact absurd (isSpace_of_isLineBreak hb) (by rw [h.type]; decide)
  have hn := h.name.noLineBreak
  have hb : isLineBreak ' ' = false := rfl
  cases l <;> simp_all [render, noLineBreak_replicate_blank, type, name]

end NmLine

/-- Lines that do not contain the name are skipped. -/
theorem findSymbol_append_of_not_infix (symbolName : List Char) (skipped rest : List (List Char))
    (h : ∀ line ∈ skipped, ¬ symbolName <:+: line) :
    findSymbol symbolName (skipped ++ rest) = findSymbol symbolName rest := by
  induction skipped with
  | nil => rfl
  | cons line skipped ih =>
    rw [List.cons_append, findSymbol, if_neg (h line (List.mem_cons_self _ _)),
      ih fun l hl => h l (List.mem_cons_of_mem _ hl)]

/-- A defined symbol's own line decides the lookup, with its printed address. -/
theorem findSymbol_render_self (w : Nat) {l : NmLine} (h : l.WF) (hd : l.expected.isSome)
    (rest : List (List Char)) :
    findSymbol l.name (l.render w :: rest) = .ok l.expected := by
  rw [findSymbol, if_pos (l.name_infix_render w)]
  simp only [l.split_render w h]
  cases l with
  | sized a s t n =>
    have hs : 0 < (hexPad w s).length := List.length_pos.mpr (hexPad_ne_nil w s)
    by_cases ht : [t] ∈ dataTypeLetters
    · simp [NmLine.fields, NmLine.expected, ht, hs]
    · simp [NmLine.fields, NmLine.expected, ht]
  | unsized a t n => simp [NmLine.fields, NmLine.expected, dataTypeLetters]
  | undefined t n => simp [NmLine.expected] at hd

/-- Over a printed listing in which no line before the symbol's own line contains its name,
the lookup returns what that line says. -/
theorem findSymbol_listing (w : Nat) {pre post : List NmLine} {l : NmLine}
    (hwf : ∀ m ∈ pre ++ l :: post, m.WF) (hpre : ∀ m ∈ pre, ¬ l.name <:+: m.render w)
    (hd : l.expected.isSome) :
    findSymbol l.name (splitlines (unlines ((pre ++ l :: post).map (·.render w)))) =
      .ok l.expected := by
  rw [splitlines_unlines _ fun line hl => by
      obtain ⟨m, hm, rfl⟩ := List.mem_map.mp hl
      exact NmLine.noLineBreak_render w (hwf m hm),
    List.map_append, List.map_cons, findSymbol_append_of_not_infix _ _ _ fun line hl => by
      obtain ⟨m, hm, rfl⟩ := List.mem_map.mp hl
      exact hpre m hm]
  exact findSymbol_render_self w (hwf l (by simp)) hd _

/-- `get_symbol_address` on a printed listing in which no line before the symbol's own line
contains its name returns the address that line prints, with its size when the line has
one and a data type letter, and prints nothing. -/
theorem getSymbolAddress_listing (aw : Nat) (pre post : List NmLine) (l : NmLine)
    (hwf : ∀ m ∈ pre ++ l :: post, m.WF) (hpre : ∀ m ∈ pre, ¬ l.name <:+: m.render aw)
    (hd : l.expected.isSome) (w : World) :
    (getSymbolAddress (fun _ => .ok (unlines ((pre ++ l :: post).map (·.render aw)))) l.name).run
      w = .ok l.expected w := by
  obtain ⟨p, hp⟩ := Option.isSome_iff_exists.mp hd
  rw [hp]
  exact run_getSymbolAddress_eq_some.mpr ⟨rfl, _, rfl, hp ▸ findSymbol_listing aw hwf hpre hd⟩

set_option maxRecDepth 10000 in
/-- The lookup of `platform_expected_checksums` after a line of another symbol. -/
theorem getSymbolAddress_listing_checksums :
    (getSymbolAddress (fun _ => .ok (unlines (([NmLine.sized 0x1000 8 'D' "kernel_stack".toList] ++
        NmLine.sized 0x2000 8 'D' "platform_expected_checksums".toList ::
          [NmLine.undefined 'U' "memcpy".toList]).map (·.render 16))))
      "platform_expected_checksums".toList).run ⟨[], true, [], []⟩ =
      .ok (some (0x2000, 8)) ⟨[], true, [], []⟩ :=
  getSymbolAddress_listing 16 [NmLine.sized 0x1000 8 'D' "kernel_stack".toList]
    [NmLine.undefined 'U' "memcpy".toList]
    (NmLine.sized 0x2000 8 'D' "platform_expected_checksums".toList) (by decide) (by decide) rfl _

/-- An `llvm-nm -S` listing, sorted by name, in which a name containing
`platform_expected_checksums` comes first. -/
def shadowedSymbols : List NmLine :=
  [.sized 0x1000 8 'D' "boot_platform_expected_checksums".toList,
    .sized 0x2000 8 'D' "platform_expected_checksums".toList]

set_option maxRecDepth 10000 in
/-- The lookup of `platform_expected_checksums` returns the address and size of
`boot_platform_expected_checksums`, while the only line with that exact name says
`0x2000`. -/
theorem getSymbolAddress_takes_containing_name :
    (getSymbolAddress (fun _ => .ok (unlines (shadowedSymbols.map (·.render 16))))
        "platform_expected_checksums".toList).run ⟨[], true, [], []⟩ =
      .ok (some (0x1000, 8)) ⟨[], true, [], []⟩ ∧
    (shadowedSymbols.filter (·.name = "platform_expected_checksums".toList)).map
      NmLine.expected = [some (0x2000, 8)] :=
  ⟨rfl, by decide⟩

end PicoScripts
