import PicoScripts.Checksum.Nm

/-!
# Section search through `llvm-readelf -S`

`src/script/compute_checksums.py:85-104` (`patch_binary`) scans the rows of
`llvm-readelf -S` for `.data`, then again for `.bss`, and stops at the first row of that
name whose address range holds the symbol. A row splits as `[ n] name type address
offset size ...` or `[nn] name type ...`; the code tells the layouts apart by whether
the second field ends in `]`, and reads the columns one place further right when it does.
-/

namespace PicoScripts

/-- The columns `patch_binary` reads from a row. -/
structure Candidate where
  type : List Char
  vaddr : Int
  offset : Int
  size : Int
  deriving DecidableEq, Repr

/-- The loop body of `compute_checksums.py:93-104` before the range check: a row with
seven fields or more whose name column is `sectionName`, with its type, address, offset
and size columns parsed. Column `i` is field `i`, or `i + 1` when field 1 ends in `]`. -/
def readRow (sectionName line : List Char) : Except PyError (Option Candidate) :=
  let parts := split line
  if 7 ≤ parts.length then
    let shifted := [']'].isSuffixOf (parts.getD 1 [])
    let col (i : Nat) := parts.getD (if shifted then i + 1 else i) []
    if col 1 = sectionName then do
      let vaddr ← hexField (col 3)
      let offset ← hexField (col 4)
      let size ← hexField (col 5)
      pure (some ⟨col 2, vaddr, offset, size⟩)
    else pure none
  else pure none

/-- The inner loop: the first row named `sectionName` whose range holds `addr`. -/
def findIn (sectionName : List Char) (addr : Int) :
    List (List Char) → Except PyError (Option Candidate)
  | [] => pure none
  | line :: lines => do
    match ← readRow sectionName line with
    | some c =>
      if c.vaddr ≤ addr ∧ addr < c.vaddr + c.size then pure (some c)
      else findIn sectionName addr lines
    | none => findIn sectionName addr lines

/-- The outer loop `for section_name in ['.data', '.bss']`: the section `patch_binary`
patches, with the name it searched for. -/
def findSection (addr : Int) (lines : List (List Char)) :
    Except PyError (Option (List Char × Candidate)) := do
  match ← findIn ".data".toList addr lines with
  | some c => pure (some (".data".toList, c))
  | none =>
    match ← findIn ".bss".toList addr lines with
    | some c => pure (some (".bss".toList, c))
    | none => pure none

/-! ### The rows `llvm-readelf -S` prints -/

/-- One section header as `llvm-readelf -S` lists it. -/
structure SectionHeader where
  index : Nat
  name : List Char
  type : List Char
  address : Nat
  offset : Nat
  size : Nat
  entsize : Nat
  flags : List Char
  link : Nat
  info : Nat
  align : Nat
  deriving DecidableEq, Repr

namespace SectionHeader

/-- The row's columns, printed `addressWidth` hexadecimal digits wide for the address
(16 for ELF64, 8 for ELF32), with the GNU-style column widths of `llvm-readelf`. -/
def render (addressWidth : Nat) (r : SectionHeader) : List Char :=
  "  [".toList ++ padLeft 2 (Nat.toDigits 10 r.index) ++ ']' :: ' ' ::
    padRight 17 r.name ++ ' ' :: padRight 15 r.type ++ ' ' ::
    hexPad addressWidth r.address ++ ' ' :: hexPad 6 r.offset ++ ' ' :: hexPad 6 r.size ++
    ' ' :: hexPad 2 r.entsize ++ ' ' :: padLeft 3 r.flags ++ ' ' ::
    padLeft 2 (Nat.toDigits 10 r.link) ++ ' ' :: padLeft 3 (Nat.toDigits 10 r.info) ++
    ' ' :: padLeft 2 (Nat.toDigits 10 r.align)

/-- A row's text columns are whitespace-free tokens; the type is never empty. -/
structure WF (r : SectionHeader) : Prop where
  name : NoSpace r.name
  type : NoSpace r.type
  type_ne_nil : r.type ≠ []
  flags : NoSpace r.flags

instance : DecidablePred WF := fun r =>
  decidable_of_iff (NoSpace r.name ∧ NoSpace r.type ∧ r.type ≠ [] ∧ NoSpace r.flags)
    ⟨fun ⟨a, b, c, d⟩ => ⟨a, b, c, d⟩, fun ⟨a, b, c, d⟩ => ⟨a, b, c, d⟩⟩

/-- The columns of the row that the spec selects by. -/
def candidate (r : SectionHeader) : Candidate := ⟨r.type, r.address, r.offset, r.size⟩

/-- The row's address range holds `addr`. -/
def Holds (addr : Int) (r : SectionHeader) : Prop :=
  (r.address : Int) ≤ addr ∧ addr < r.address + r.size

instance (addr : Int) : DecidablePred (Holds addr) := fun _ =>
  inferInstanceAs (Decidable (_ ∧ _))

/-- The fields of the index column: `[ n]` splits in two, `[nn]` is one field. -/
def indexFields (i : Nat) : List (List Char) :=
  if i < 10 then [['['], Nat.toDigits 10 i ++ [']']] else ['[' :: Nat.toDigits 10 i ++ [']']]

/-- The fields `str.split()` finds in a printed row. -/
def fields (w : Nat) (r : SectionHeader) : List (List Char) :=
  indexFields r.index ++ optField r.name ++ r.type :: hexPad w r.address :: hexPad 6 r.offset ::
    hexPad 6 r.size :: hexPad 2 r.entsize :: optField r.flags ++
    [Nat.toDigits 10 r.link, Nat.toDigits 10 r.info, Nat.toDigits 10 r.align]

private theorem noSpace_digits (n : Nat) : NoSpace (Nat.toDigits 10 n) :=
  noSpace_toDigits (by decide) (by decide) n

private theorem split_digits (n : Nat) : split (Nat.toDigits 10 n) = [Nat.toDigits 10 n] := by
  simp [split_noSpace (noSpace_digits n), optField, toDigits_ne_nil]

private theorem split_index (i : Nat) (rest : List Char) :
    split ("  [".toList ++ padLeft 2 (Nat.toDigits 10 i) ++ ']' :: ' ' :: rest) =
      indexFields i ++ split rest := by
  have hd := noSpace_digits i
  by_cases hi : i < 10
  · rw [toDigits_of_lt_ten hi] at hd ⊢
    have e : "  [".toList ++ padLeft 2 [Nat.digitChar i] ++ ']' :: ' ' :: rest =
        ' ' :: ' ' :: (['['] ++ ' ' :: ([Nat.digitChar i, ']'] ++ ' ' :: rest)) := rfl
    rw [e, split_cons_blank, split_cons_blank, split_append_blank, split_append_blank,
      split_noSpace (by decide), split_noSpace (t := [Nat.digitChar i, ']'])
        (noSpace_cons.mpr ⟨(noSpace_cons.mp hd).1, by decide⟩)]
    simp [indexFields, hi, optField, toDigits_of_lt_ten hi]
  · have hl := two_le_length_toDigits (Nat.le_of_not_lt hi)
    have e : "  [".toList ++ padLeft 2 (Nat.toDigits 10 i) ++ ']' :: ' ' :: rest =
        ' ' :: ' ' :: (('[' :: Nat.toDigits 10 i ++ [']']) ++ ' ' :: rest) := by
      simp [padLeft, Nat.sub_eq_zero_of_le hl]
    rw [e, split_cons_blank, split_cons_blank, split_append_blank,
      split_noSpace (t := '[' :: Nat.toDigits 10 i ++ [']'])
        (noSpace_cons.mpr ⟨rfl, noSpace_append.mpr ⟨hd, by decide⟩⟩)]
    simp [indexFields, hi, optField]

/-- A printed row is one line. -/
theorem noLineBreak_render (w : Nat) {r : SectionHeader} (h : r.WF) :
    NoLineBreak (r.render w) := by
  have hd := fun n => (noSpace_digits n).noLineBreak
  have hx := fun w n => (noSpace_of_hexDigits (hexDigits_hexPad w n)).noLineBreak
  simp only [render, noLineBreak_append, noLineBreak_cons, noLineBreak_padLeft, hd, hx,
    noLineBreak_padRight, h.name.noLineBreak, h.type.noLineBreak, h.flags.noLineBreak]
  decide

/-- `str.split()` finds exactly the fields of a printed row. -/
theorem split_render (w : Nat) {r : SectionHeader} (h : r.WF) :
    split (r.render w) = r.fields w := by
  simp only [render, split_index, split_append_blank, split_hexPad, split_padRight,
    split_padLeft, split_noSpace h.name, split_noSpace h.type,
    split_noSpace h.flags, split_digits, fields, optField, if_neg h.type_ne_nil]
  simp

end SectionHeader

/-- A row that the section search can never mistake for a `.data` or `.bss` row: its
parse with shifted columns does not reach the name column. -/
theorem readRow_render (w : Nat) {r : SectionHeader} (h : r.WF) {s : List Char}
    (hs : ¬ HexDigits s) (hb : [']'].isSuffixOf s = false) (ht : r.type ≠ s) :
    readRow s (r.render w) = .ok (if r.name = s then some r.candidate else none) := by
  have hs0 : s ≠ [] := by rintro rfl; exact hs fun _ h => absurd h (List.not_mem_nil _)
  have hx : hexPad w r.address ≠ s := by rintro rfl; exact hs (hexDigits_hexPad _ _)
  unfold readRow
  rw [SectionHeader.split_render w h]
  by_cases hi : r.index < 10 <;> by_cases hn : r.name = []
  · simp [SectionHeader.fields, SectionHeader.indexFields, optField, hi, hn, ht, Ne.symm hs0]
  · simp [SectionHeader.fields, SectionHeader.indexFields, optField, hi, hn]
    split <;> rfl
  · by_cases hT : [']'] <:+ r.type <;>
      simp [SectionHeader.fields, SectionHeader.indexFields, optField, hi, hn, ht, hT, hx,
        Ne.symm hs0]
  · by_cases hN : [']'] <:+ r.name
    · have : r.name ≠ s := fun he => by
        rw [← he, List.isSuffixOf_iff_suffix.mpr hN] at hb; cases hb
      simp [SectionHeader.fields, SectionHeader.indexFields, optField, hi, hn, ht, hN, this]
    · simp [SectionHeader.fields, SectionHeader.indexFields, optField, hi, hn, hN]
      split <;> rfl

/-- Lines that are no row of the name searched for are skipped. -/
theorem findIn_append_of_none {s : List Char} {addr : Int} {skipped : List (List Char)}
    (h : ∀ line ∈ skipped, readRow s line = .ok none) (rest : List (List Char)) :
    findIn s addr (skipped ++ rest) = findIn s addr rest := by
  induction skipped with
  | nil => rfl
  | cons line skipped ih =>
    rw [List.cons_append, findIn, h line (List.mem_cons_self _ _)]
    exact ih fun l hl => h l (List.mem_cons_of_mem _ hl)

/-- Over printed rows none of whose types is the name searched for, the inner loop returns
the first row of that name holding the address, with that row's columns. -/
theorem findIn_render (w : Nat) {s : List Char} (hs : ¬ HexDigits s)
    (hb : [']'].isSuffixOf s = false) (addr : Int) (rows : List SectionHeader)
    (h : ∀ r ∈ rows, r.WF ∧ r.type ≠ s) :
    findIn s addr (rows.map (·.render w)) =
      .ok ((rows.find? fun r => r.name = s ∧ r.Holds addr).map (·.candidate)) := by
  induction rows with
  | nil => rfl
  | cons r rows ih =>
    obtain ⟨hw, ht⟩ := h r (List.mem_cons_self _ _)
    have ih := ih fun r hr => h r (List.mem_cons_of_mem _ hr)
    rw [List.map_cons, findIn, readRow_render w hw hs hb ht]
    by_cases hn : r.name = s
    · by_cases ha : r.Holds addr
      · simp [hn, ha, ha.1, ha.2, SectionHeader.candidate]
      · simp only [SectionHeader.Holds] at ha
        simp [hn, ha, SectionHeader.candidate, SectionHeader.Holds, ih]
    · simp [hn, ih]

/-- Spec §4.2: the first `.data` row holding the address, otherwise the first `.bss` row. -/
def selectSection (addr : Int) (rows : List SectionHeader) :
    Option (List Char × SectionHeader) :=
  match rows.find? fun r => r.name = ".data".toList ∧ r.Holds addr with
  | some r => some (".data".toList, r)
  | none => (rows.find? fun r => r.name = ".bss".toList ∧ r.Holds addr).map (".bss".toList, ·)

/-- The search over printed rows, when no row's type column reads `.data` or `.bss`: it is
the selection of spec §4.2, with that row's columns. -/
theorem findSection_render (w : Nat) (addr : Int) (rows : List SectionHeader)
    (h : ∀ r ∈ rows, r.WF ∧ r.type ≠ ".data".toList ∧ r.type ≠ ".bss".toList) :
    findSection addr (rows.map (·.render w)) =
      .ok ((selectSection addr rows).map fun p => (p.1, p.2.candidate)) := by
  unfold findSection
  rw [findIn_render w (by decide) (by decide) addr rows fun r hr => ⟨(h r hr).1, (h r hr).2.1⟩]
  cases hf : rows.find? (fun r => r.name = ".data".toList ∧ r.Holds addr) with
  | some r => rw [selectSection, hf]; rfl
  | none =>
    rw [findIn_render w (by decide) (by decide) addr rows fun r hr => ⟨(h r hr).1, (h r hr).2.2⟩,
      selectSection, hf]
    cases rows.find? (fun r => r.name = ".bss".toList ∧ r.Holds addr) <;> rfl

/-! ### The whole listing -/

/-- The lines `llvm-readelf -S` prints before the rows: the count, the offset of the section
header table, and the column header (`Address` for ELF64, `Addr` for ELF32). -/
def listingHeader (addressWidth count shoff : Nat) : List (List Char) :=
  ["There are ".toList ++ Nat.toDigits 10 count ++
      " section headers, starting at offset 0x".toList ++ Nat.toDigits 16 shoff ++ [':'],
    [], "Section Headers:".toList,
    "  [Nr] Name              Type            ".toList ++
      (if addressWidth = 8 then "Addr     ".toList else "Address          ".toList) ++
      "Off    Size   ES Flg Lk Inf Al".toList]

/-- The key to the flags that `llvm-readelf -S` prints after the rows. -/
def listingKey : List (List Char) :=
  ["Key to Flags:".toList,
    "  W (write), A (alloc), X (execute), M (merge), S (strings), I (info),".toList,
    "  L (link order), O (extra OS processing required), G (group), T (TLS),".toList,
    "  C (compressed), x (unknown), o (OS specific), E (exclude),".toList,
    "  R (retain), p (processor specific)".toList]

/-- Everything `llvm-readelf -S` prints for an image with these section headers. -/
def listing (addressWidth shoff : Nat) (rows : List SectionHeader) : List Char :=
  unlines (listingHeader addressWidth rows.length shoff ++ rows.map (·.render addressWidth) ++
    listingKey)

/-- A line whose second field neither ends in `]` nor is the name is no row of that name. -/
theorem readRow_of_second_field {s line f₀ f₁ : List Char} {more : List (List Char)}
    (h : split line = f₀ :: f₁ :: more) (hb : [']'].isSuffixOf f₁ = false) (hs : f₁ ≠ s) :
    readRow s line = .ok none := by
  unfold readRow
  rw [h]
  simp [hb, hs]

/-- Lines that are no row of the name searched for are skipped at the end too. -/
theorem findIn_append_of_none_right {s : List Char} {addr : Int} {rest : List (List Char)}
    (h : ∀ line ∈ rest, readRow s line = .ok none) :
    ∀ lines : List (List Char), findIn s addr (lines ++ rest) = findIn s addr lines
  | [] => by simpa using findIn_append_of_none h []
  | line :: lines => by
    rw [List.cons_append, findIn, findIn, findIn_append_of_none_right h lines]

private theorem split_count (count shoff : Nat) :
    split ("There are ".toList ++ Nat.toDigits 10 count ++
      " section headers, starting at offset 0x".toList ++ Nat.toDigits 16 shoff ++ [':']) =
      "There".toList :: "are".toList :: split (Nat.toDigits 10 count ++
        " section headers, starting at offset 0x".toList ++ Nat.toDigits 16 shoff ++ [':']) := by
  have e : "There are ".toList ++ Nat.toDigits 10 count ++
      " section headers, starting at offset 0x".toList ++ Nat.toDigits 16 shoff ++ [':'] =
      "There".toList ++ ' ' :: ("are".toList ++ ' ' :: (Nat.toDigits 10 count ++
        " section headers, starting at offset 0x".toList ++ Nat.toDigits 16 shoff ++ [':'])) := by
    simp
  rw [e, split_append_blank, split_append_blank, split_noSpace (by decide),
    split_noSpace (by decide)]
  rfl

/-- The header and the key hold no `.data` or `.bss` row. -/
theorem readRow_listing_extra {s : List Char} (hs : s = ".data".toList ∨ s = ".bss".toList)
    (addressWidth count shoff : Nat) :
    ∀ line ∈ listingHeader addressWidth count shoff ++ listingKey, readRow s line = .ok none := by
  have hs' : "are".toList ≠ s := by rcases hs with rfl | rfl <;> decide
  intro line hl
  rcases List.mem_append.mp hl with hl | hl
  · simp only [listingHeader, List.mem_cons, List.mem_singleton, List.not_mem_nil,
      or_false] at hl
    rcases hl with rfl | rfl | rfl | rfl
    · exact readRow_of_second_field (split_count count shoff) rfl hs'
    all_goals (try split_ifs) <;> rcases hs with rfl | rfl <;> rfl
  · simp only [listingKey, List.mem_cons, List.mem_singleton, List.not_mem_nil, or_false] at hl
    rcases hl with rfl | rfl | rfl | rfl | rfl <;> rcases hs with rfl | rfl <;> rfl

private theorem noLineBreak_listing_extra (addressWidth count shoff : Nat) :
    ∀ line ∈ listingHeader addressWidth count shoff ++ listingKey, NoLineBreak line := by
  have hd := fun b n (hb : 0 < b) (hb' : b ≤ 16) => (noSpace_toDigits hb hb' n).noLineBreak
  intro line hl
  rcases List.mem_append.mp hl with hl | hl
  · simp only [listingHeader, List.mem_cons, List.mem_singleton, List.not_mem_nil,
      or_false] at hl
    rcases hl with rfl | rfl | rfl | rfl
    · simp only [noLineBreak_append, hd 10 count (by decide) (by decide),
        hd 16 shoff (by decide) (by decide), and_true]
      decide
    all_goals (try split_ifs) <;> decide
  · simp only [listingKey, List.mem_cons, List.mem_singleton, List.not_mem_nil, or_false] at hl
    rcases hl with rfl | rfl | rfl | rfl | rfl <;> decide

/-- The search reads only the rows of the whole listing. -/
theorem findSection_listing (w shoff : Nat) (addr : Int) {rows : List SectionHeader}
    (h : ∀ r ∈ rows, r.WF) :
    findSection addr (splitlines (listing w shoff rows)) =
      findSection addr (rows.map (·.render w)) := by
  have hlines : splitlines (listing w shoff rows) =
      listingHeader w rows.length shoff ++ rows.map (·.render w) ++ listingKey := by
    refine splitlines_unlines _ fun line hl => ?_
    rcases List.mem_append.mp hl with hl | hl
    · rcases List.mem_append.mp hl with hl | hl
      · exact noLineBreak_listing_extra w rows.length shoff line (List.mem_append_left _ hl)
      · obtain ⟨r, hr, rfl⟩ := List.mem_map.mp hl
        exact SectionHeader.noLineBreak_render w (h r hr)
    · exact noLineBreak_listing_extra w rows.length shoff line (List.mem_append_right _ hl)
  have skip : ∀ s, (s = ".data".toList ∨ s = ".bss".toList) →
      findIn s addr (listingHeader w rows.length shoff ++ rows.map (·.render w) ++ listingKey) =
        findIn s addr (rows.map (·.render w)) := fun s hs => by
    have hx := readRow_listing_extra hs w rows.length shoff
    rw [findIn_append_of_none_right (fun l hl => hx l (List.mem_append_right _ hl)),
      findIn_append_of_none (fun l hl => hx l (List.mem_append_left _ hl))]
  unfold findSection
  rw [hlines, skip _ (.inl rfl), skip _ (.inr rfl)]

/-- Over the whole listing of rows whose type columns never read `.data` or `.bss`, the
search returns the section spec §4.2 selects, with that row's columns. -/
theorem findSection_whole_listing (aw shoff : Nat) (addr : Int) (rows : List SectionHeader)
    (h : ∀ r ∈ rows, r.WF ∧ r.type ≠ ".data".toList ∧ r.type ≠ ".bss".toList) :
    findSection addr (splitlines (listing aw shoff rows)) =
      .ok ((selectSection addr rows).map fun p => (p.1, p.2.candidate)) := by
  rw [findSection_listing aw shoff addr fun r hr => (h r hr).1, findSection_render aw addr rows h]

set_option maxRecDepth 10000 in
/-- The search in the ELF32 listing of a `.data` and a `.bss` row, at an address of `.bss`. -/
theorem findSection_whole_listing_bss :
    findSection 0x80001010 (splitlines (listing 8 0x400
      [⟨1, ".data".toList, "PROGBITS".toList, 0x80000000, 0x100, 0x10, 0, "WA".toList, 0, 0, 4⟩,
        ⟨2, ".bss".toList, "NOBITS".toList, 0x80001000, 0x110, 0x40, 0, "WA".toList, 0, 0, 4⟩])) =
      .ok ((selectSection 0x80001010
        [⟨1, ".data".toList, "PROGBITS".toList, 0x80000000, 0x100, 0x10, 0, "WA".toList, 0, 0, 4⟩,
          ⟨2, ".bss".toList, "NOBITS".toList, 0x80001000, 0x110, 0x40, 0, "WA".toList, 0, 0,
            4⟩]).map fun p => (p.1, p.2.candidate)) :=
  findSection_whole_listing 8 0x400 0x80001010 _ (by decide)

end PicoScripts
