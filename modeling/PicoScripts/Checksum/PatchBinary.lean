import PicoScripts.Checksum.Patch

/-!
# Where `patch_binary` writes

`src/script/compute_checksums.py:65-158`. A run that returns `True` has run the patch step
on the image it started from; when the symbol or its section is not found, it returns
`False` with the image as it was. Over the rows `llvm-readelf -S` prints, the section it patches is the one
spec §4.2 selects, with that row's columns; the window it writes starts inside the row's
file range, but only the start address is checked, so the window can run past the row's
end, and for a NOBITS row it lies wherever the row's nominal offset puts it.
-/

namespace PicoScripts

section Frame

variable (tools : Tools) (symbolName : List Char) (textCrc rodataCrc : Nat)

/-- A run of `patch_binary` that returns `True` found the symbol, read the listing, found a
section and ran the patch step at `offset + (addr - vaddr)` on the image it started from. -/
theorem patchBinary_ok_true_cases {w w' : World}
    (h : (patchBinary tools symbolName textCrc rodataCrc).run w = .ok true w') :
    ∃ addr size out name c,
      (getSymbolAddress tools.nm symbolName).run w = .ok (some (addr, size)) w ∧
      tools.readelf w.file = .ok out ∧
      findSection addr (splitlines out) = .ok (some (name, c)) ∧
      (patchAt name c.type (c.offset + (addr - c.vaddr)) textCrc rodataCrc).run w =
        .ok true w' := by
  simp only [patchBinary, run_bind] at h
  cases hg : (getSymbolAddress tools.nm symbolName).run w with
  | error e w₁ => rw [hg] at h; cases h
  | ok res w₁ =>
    rw [hg] at h
    rcases res with _ | ⟨addr, size⟩
    · simp at h
    obtain ⟨rfl, -⟩ := run_getSymbolAddress_eq_some.mp hg
    simp only [run_bind, run_readFile] at h
    cases hr : tools.readelf w₁.file with
    | error e => rw [hr] at h; simp at h
    | ok out =>
      rw [hr] at h
      simp only [run_bind] at h
      cases hf : findSection addr (splitlines out) with
      | error e => rw [hf] at h; cases h
      | ok sel =>
        rw [hf] at h
        rcases sel with _ | ⟨name, c⟩
        · simp at h
        · exact ⟨addr, size, out, name, c, rfl, rfl, hf, h⟩

/-- When the symbol is found and the listing read but no section holds its address,
`patch_binary` returns `False` and leaves the image as it was. -/
theorem patchBinary_eq_false_of_findSection_none {w w₁ : World} {addr size : Int}
    {out : List Char}
    (hg : (getSymbolAddress tools.nm symbolName).run w = .ok (some (addr, size)) w₁)
    (hr : tools.readelf w₁.file = .ok out) (hf : findSection addr (splitlines out) = .ok none) :
    ∃ w', (patchBinary tools symbolName textCrc rodataCrc).run w = .ok false w' ∧
      w'.file = w.file := by
  obtain ⟨rfl, -⟩ := run_getSymbolAddress_eq_some.mp hg
  simp [patchBinary, hg, hr, hf]

/-- When the symbol is not found, `patch_binary` reports it and returns `False`. -/
theorem run_patchBinary_of_none {w w₁ : World}
    (hg : (getSymbolAddress tools.nm symbolName).run w = .ok none w₁) :
    (patchBinary tools symbolName textCrc rodataCrc).run w = .ok false { w₁ with stderr :=
      w₁.stderr ++ ["Cannot patch: symbol ".toList ++ symbolName ++ " not found".toList] } := by
  simp [patchBinary, hg]

end Frame

/-! ### The section it patches -/

/-- The rows `llvm-readelf -S` prints are the lines the search reads. -/
theorem splitlines_listing (w : Nat) {rows : List SectionHeader} (h : ∀ r ∈ rows, r.WF) :
    splitlines (unlines (rows.map (·.render w))) = rows.map (·.render w) :=
  splitlines_unlines _ fun _ hl => by
    obtain ⟨r, hr, rfl⟩ := List.mem_map.mp hl
    exact SectionHeader.noLineBreak_render w (h r hr)

/-- A selected row is a row of the listing, of the name searched for, holding the address;
the name is `.data` or `.bss`. -/
theorem selectSection_spec {addr : Int} {rows : List SectionHeader} {name : List Char}
    {sec : SectionHeader} (h : selectSection addr rows = some (name, sec)) :
    sec ∈ rows ∧ sec.name = name ∧ sec.Holds addr ∧
      (name = ".data".toList ∨ name = ".bss".toList) := by
  have hsel : ∀ n, (rows.find? fun r => r.name = n ∧ r.Holds addr) = some sec →
      sec ∈ rows ∧ sec.name = n ∧ sec.Holds addr := fun n hf => by
    have hm := List.find?_some hf
    simp only [decide_eq_true_eq] at hm
    exact ⟨List.mem_of_find?_eq_some hf, hm⟩
  unfold selectSection at h
  split at h
  · next hf =>
    cases h
    exact ⟨(hsel _ hf).1, (hsel _ hf).2.1, (hsel _ hf).2.2, .inl rfl⟩
  · obtain ⟨r, hf, he⟩ := Option.map_eq_some'.mp h
    cases he
    exact ⟨(hsel _ hf).1, (hsel _ hf).2.1, (hsel _ hf).2.2, .inr rfl⟩

/-- Over printed rows whose type columns never read `.data` or `.bss`, and for every
address, `patch_binary` patches the section spec §4.2 selects, with that row's type,
address, offset and size; when nothing is selected it returns `False` without writing. -/
theorem patchBinary_selects_section (aw : Nat) (rows : List SectionHeader)
    (h : ∀ r ∈ rows, r.WF ∧ r.type ≠ ".data".toList ∧ r.type ≠ ".bss".toList) (addr : Int) :
    findSection addr (splitlines (unlines (rows.map (·.render aw)))) =
        .ok ((selectSection addr rows).map fun p => (p.1, p.2.candidate)) ∧
      (selectSection addr rows = none →
        ∀ (tools : Tools) (symbolName : List Char) (textCrc rodataCrc : Nat) (w w₁ : World)
          (size : Int),
          (getSymbolAddress tools.nm symbolName).run w = .ok (some (addr, size)) w₁ →
          tools.readelf w₁.file = .ok (unlines (rows.map (·.render aw))) →
          ∃ w', (patchBinary tools symbolName textCrc rodataCrc).run w = .ok false w' ∧
            w'.file = w.file) := by
  have hf := findSection_render aw addr rows h
  rw [← splitlines_listing aw fun r hr => (h r hr).1] at hf
  refine ⟨hf, fun hn tools symbolName textCrc rodataCrc w w₁ size hg hr => ?_⟩
  rw [hn] at hf
  exact patchBinary_eq_false_of_findSection_none tools symbolName textCrc rodataCrc hg hr hf

/-- An ELF64 listing: the null row, a `.data` row and a `.rodata` row after it in the file. -/
def dataRows : List SectionHeader :=
  [⟨0, [], "NULL".toList, 0, 0, 0, 0, [], 0, 0, 0⟩,
    ⟨1, ".data".toList, "PROGBITS".toList, 0x2000, 0x10, 0x10, 0, "WA".toList, 0, 0, 8⟩,
    ⟨2, ".rodata".toList, "PROGBITS".toList, 0x3000, 0x20, 0x10, 0, "A".toList, 0, 0, 8⟩]

set_option maxRecDepth 10000 in
/-- The selection over `dataRows` at an address of `.data`. -/
theorem patchBinary_selects_section_data :
    findSection 0x200c (splitlines (unlines (dataRows.map (·.render 16)))) =
        .ok ((selectSection 0x200c dataRows).map fun p => (p.1, p.2.candidate)) ∧
      (selectSection 0x200c dataRows = none →
        ∀ (tools : Tools) (symbolName : List Char) (textCrc rodataCrc : Nat) (w w₁ : World)
          (size : Int),
          (getSymbolAddress tools.nm symbolName).run w = .ok (some (0x200c, size)) w₁ →
          tools.readelf w₁.file = .ok (unlines (dataRows.map (·.render 16))) →
          ∃ w', (patchBinary tools symbolName textCrc rodataCrc).run w = .ok false w' ∧
            w'.file = w.file) :=
  patchBinary_selects_section 16 dataRows (by decide) 0x200c

/-! ### The window it writes -/

/-- Over the whole listing of rows whose type columns never read `.data` or `.bss`, a run
that returns `True` has run the patch step on the selected row at the non-negative offset
`offset + (addr - address)`. -/
theorem patchBinary_ok_true_select (aw shoff : Nat) {rows : List SectionHeader}
    (hrows : ∀ r ∈ rows, r.WF ∧ r.type ≠ ".data".toList ∧ r.type ≠ ".bss".toList)
    (tools : Tools) {symbolName : List Char} {textCrc rodataCrc : Nat} {w w' : World}
    (hread : tools.readelf w.file = .ok (listing aw shoff rows))
    (hrun : (patchBinary tools symbolName textCrc rodataCrc).run w = .ok true w') :
    ∃ (addr size : Int) (name : List Char) (sec : SectionHeader) (fo : Nat),
      (getSymbolAddress tools.nm symbolName).run w = .ok (some (addr, size)) w ∧
      selectSection addr rows = some (name, sec) ∧
      (fo : Int) = sec.offset + (addr - sec.address) ∧
      (patchAt name sec.type fo textCrc rodataCrc).run w = .ok true w' := by
  obtain ⟨addr, size, out, name, c, hg, hout, hf, hp⟩ :=
    patchBinary_ok_true_cases tools symbolName textCrc rodataCrc hrun
  rw [hread] at hout
  cases hout
  rw [findSection_listing aw shoff addr fun r hr => (hrows r hr).1,
    findSection_render aw addr rows hrows] at hf
  cases hs : selectSection addr rows with
  | none => rw [hs] at hf; cases hf
  | some p =>
    obtain ⟨name', sec⟩ := p
    rw [hs] at hf
    simp only [Option.map_some', Except.ok.injEq, Option.some.injEq, Prod.mk.injEq] at hf
    obtain ⟨rfl, rfl⟩ := hf
    obtain ⟨-, -, ⟨hlo, -⟩, -⟩ := selectSection_spec hs
    have hfo : (((sec.offset + (addr - sec.address)).toNat : Nat) : Int) =
        sec.offset + (addr - sec.address) := Int.toNat_of_nonneg (by omega)
    simp only [SectionHeader.candidate] at hp
    rw [← hfo] at hp
    exact ⟨addr, size, name', sec, _, hg, hs, hfo, hp⟩

/-- Over the whole listing of rows whose type columns never read `.data` or `.bss`: when
`patch_binary` writes, it has patched the selected row at `fo = offset + (addr - address)`.
The window starts inside the row's file range, and lies inside it when the row holds all
eight bytes from `addr`; the image keeps every other byte, and only a NOBITS row grows it,
with zeros, to the window's end. -/
theorem patchBinary_window (aw shoff : Nat) (rows : List SectionHeader)
    (hrows : ∀ r ∈ rows, r.WF ∧ r.type ≠ ".data".toList ∧ r.type ≠ ".bss".toList)
    (tools : Tools) (symbolName : List Char) (textCrc rodataCrc : Nat)
    (ht : textCrc < 2 ^ 32) (hr : rodataCrc < 2 ^ 32) (w w' : World)
    (hread : tools.readelf w.file = .ok (listing aw shoff rows))
    (hrun : (patchBinary tools symbolName textCrc rodataCrc).run w = .ok true w') :
    ∃ (addr size : Int) (name : List Char) (sec : SectionHeader) (fo : Nat),
      (getSymbolAddress tools.nm symbolName).run w = .ok (some (addr, size)) w ∧
      selectSection addr rows = some (name, sec) ∧
      (fo : Int) = sec.offset + (addr - sec.address) ∧
      sec.offset ≤ fo ∧ fo < sec.offset + sec.size ∧
      (addr + 8 ≤ sec.address + sec.size → fo + 8 ≤ sec.offset + sec.size) ∧
      w'.file.length = (if sec.type = "NOBITS".toList then max w.file.length (fo + 8)
        else w.file.length) ∧
      Written w.file w'.file fo textCrc rodataCrc := by
  obtain ⟨addr, size, name, sec, fo, hg, hs, hfo, hp⟩ :=
    patchBinary_ok_true_select aw shoff hrows tools hread hrun
  obtain ⟨-, -, ⟨hlo, hhi⟩, -⟩ := selectSection_spec hs
  obtain ⟨-, -, hlen, hw⟩ := patchAt_written ht hr hp
  exact ⟨addr, size, name, sec, fo, hg, hs, hfo, by omega, by omega, fun _ => by omega, hlen, hw⟩

/-- The checksum symbol, four bytes before the end of `.data`. -/
def dataTools : Tools where
  objcopy _ _ := .error []
  nm _ := .ok (unlines [NmLine.render 16 (.sized 0x200c 8 'D'
    "platform_expected_checksums".toList)])
  readelf _ := .ok (listing 16 0x30 dataRows)

set_option maxRecDepth 10000 in
/-- `patch_binary` on `dataRows` with the symbol four bytes before the end of `.data`. -/
theorem patchBinary_window_data :
    ∃ w', (patchBinary dataTools "platform_expected_checksums".toList 0x11223344 0x55667788).run
        ⟨List.replicate 0x30 0, true, [], []⟩ = .ok true w' ∧
      ∃ (addr size : Int) (name : List Char) (sec : SectionHeader) (fo : Nat),
        (getSymbolAddress dataTools.nm "platform_expected_checksums".toList).run
          ⟨List.replicate 0x30 0, true, [], []⟩ =
          .ok (some (addr, size)) ⟨List.replicate 0x30 0, true, [], []⟩ ∧
        selectSection addr dataRows = some (name, sec) ∧
        (fo : Int) = sec.offset + (addr - sec.address) ∧
        sec.offset ≤ fo ∧ fo < sec.offset + sec.size ∧
        (addr + 8 ≤ sec.address + sec.size → fo + 8 ≤ sec.offset + sec.size) ∧
        w'.file.length = (if sec.type = "NOBITS".toList then max 0x30 (fo + 8) else 0x30) ∧
        Written (List.replicate 0x30 0) w'.file fo 0x11223344 0x55667788 :=
  ⟨_, rfl, patchBinary_window 16 0x30 dataRows (by decide) dataTools _ 0x11223344 0x55667788
    (by decide) (by decide) ⟨List.replicate 0x30 0, true, [], []⟩ _ rfl rfl⟩

/-- A `.bss` whose nominal offset is where `.comment` starts, as linkers place it. -/
def bssRows : List SectionHeader :=
  [⟨0, [], "NULL".toList, 0, 0, 0, 0, [], 0, 0, 0⟩,
    ⟨1, ".data".toList, "PROGBITS".toList, 0x2000, 0x10, 0x10, 0, "WA".toList, 0, 0, 8⟩,
    ⟨2, ".bss".toList, "NOBITS".toList, 0x3000, 0x20, 0x100, 0, "WA".toList, 0, 0, 8⟩,
    ⟨3, ".comment".toList, "PROGBITS".toList, 0, 0x20, 0x10, 1, "MS".toList, 0, 0, 1⟩]

/-- The checksum symbol at the start of `bssRows`' `.bss`. -/
def bssTools : Tools where
  objcopy _ _ := .error []
  nm _ := .ok (unlines [NmLine.render 16 (.sized 0x3000 8 'B'
    "platform_expected_checksums".toList)])
  readelf _ := .ok (listing 16 0x30 bssRows)

set_option maxRecDepth 10000 in
/-- `patch_binary` reports success after writing outside the symbol's section twice over:
the symbol four bytes before the end of `.data` is patched at `0x1c`, and the second word
lands on `0x20`, the first byte of `.rodata`; the symbol at the start of `.bss` is
patched in place at `.bss`'s nominal offset `0x20`, inside the 48-byte image, over the
first byte of `.comment`. -/
theorem patchBinary_writes_outside_section :
    (∃ w', (patchBinary dataTools "platform_expected_checksums".toList 0x11223344
        0x55667788).run ⟨List.replicate 0x30 0, true, [], []⟩ = .ok true w' ∧
      w'.file[0x20]? = some 0x88) ∧
    (∃ w', (patchBinary bssTools "platform_expected_checksums".toList 0x11223344
        0x55667788).run ⟨List.replicate 0x30 0, true, [], []⟩ = .ok true w' ∧
      w'.file.length = 0x30 ∧ w'.file[0x20]? = some 0x44) :=
  ⟨⟨_, rfl, by decide⟩, ⟨_, rfl, by decide, by decide⟩⟩

end PicoScripts
