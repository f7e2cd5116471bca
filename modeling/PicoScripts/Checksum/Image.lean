import PicoScripts.Checksum.Main

/-!
# Checksums that hold for the image they are written into

`src/script/compute_checksums.py` end to end. The three tools decode the image's section
headers and symbol table from its bytes (`ElfView`), and `llvm-objcopy` writes the object
back over the image each time it extracts a section. The two words `main` writes are the
CRC-32s of the `.text` and `.rodata` bytes `llvm-objcopy` extracts from the image it leaves
behind, at the checksum symbol's own bytes (`main_checksums_valid`), provided that

* the image `llvm-objcopy` writes back shows the tools what the one it read showed
  (`ElfView.Keeps`),
* no line of `llvm-nm -S` before the symbol's own line contains its name (the lookup
  matches substrings),
* no other `.data` or `.bss` row holds the symbol's address, and no row's type column
  reads `.data` or `.bss` (the section search reads columns by position),
* the symbol's section, whether it has file contents or not, does not overlay `.text` or
  `.rodata` at its nominal file offset: a NOBITS section is patched at that offset too, and
* the eight bytes patched are none of those the tools decode the headers from, which lie
  in the image: a NOBITS section's nominal offset can lie in the section header table.

When no line of `llvm-nm -S` contains the symbol's name, `main` returns `1` and leaves the
image the extractions wrote (`main_fails_without_symbol`).
-/

namespace PicoScripts

/-- An image as the ELF tools describe it: its section headers, the file offset of the
header table, and its symbol table. Patching rewrites neither. -/
structure Image where
  sections : List SectionHeader
  shoff : Nat
  symbols : List NmLine

namespace Image

/-- The bytes `llvm-objcopy --dump-section name=/dev/stdout` prints: those of the first
section of that name, which must have contents inside the image. -/
def dumpSection (img : Image) (name : List Char) (bytes : List UInt8) : Option (List UInt8) :=
  match img.sections.find? (·.name = name) with
  | none => none
  | some r =>
    if r.type ≠ "NOBITS".toList ∧ r.offset + r.size ≤ bytes.length then
      some ((bytes.drop r.offset).take r.size)
    else none

/-- The tools can read the image: every row and every symbol line is well formed, and no
row's type column reads `.data` or `.bss`. -/
structure WF (img : Image) : Prop where
  sections : ∀ r ∈ img.sections, r.WF ∧ r.type ≠ ".data".toList ∧ r.type ≠ ".bss".toList
  symbols : ∀ l ∈ img.symbols, l.WF

/-- The checksum symbol `symbol` is an object of `size ≥ 8` bytes at `addr`, inside the
`.data` or `.bss` row `sec`, and it is found and patched there: its own line comes before
any other line containing its name, `sec` is the only `.data` or `.bss` row holding
`addr`, and `sec`'s nominal file range does not meet a `.text` or `.rodata` row's. -/
structure Slot (img : Image) (addressWidth : Nat) (symbol : List Char) (sec : SectionHeader)
    (addr size : Nat) : Prop where
  line : ∃ pre post ty, img.symbols = pre ++ .sized addr size ty symbol :: post ∧
    ∀ l ∈ pre, ¬ symbol <:+: l.render addressWidth
  large : 8 ≤ size
  mem : sec ∈ img.sections
  name : sec.name = ".data".toList ∨ sec.name = ".bss".toList
  inside : sec.address ≤ addr ∧ addr + size ≤ sec.address + sec.size
  only : ∀ r ∈ img.sections, (r.name = ".data".toList ∨ r.name = ".bss".toList) →
    r.Holds addr → r = sec
  apart : ∀ r ∈ img.sections, (r.name = ".text".toList ∨ r.name = ".rodata".toList) →
    r.offset + r.size ≤ sec.offset ∨ sec.offset + sec.size ≤ r.offset

end Image

/-- How the ELF tools see an image: the headers and symbol table they decode from its bytes,
which they read only at the offsets `reads` holds (the ELF header, the section header table,
and the symbol and string tables). -/
structure ElfView where
  decode : List UInt8 → Image
  reads : Nat → Bool
  decode_congr : ∀ d d' : List UInt8, (∀ i, reads i = true → d'[i]? = d[i]?) →
    decode d' = decode d

namespace ElfView

variable (v : ElfView)

/-- The tools on an image, printing `addressWidth`-digit addresses: `llvm-objcopy` dumps a
section the headers it decodes name and writes `rewrite` of its input back over it, or fails
with the text `failure`, which `main` only prints. -/
def tools (rewrite : List UInt8 → List UInt8) (addressWidth : Nat) (failure : List Char) :
    Tools where
  objcopy name bytes :=
    match (v.decode bytes).dumpSection name bytes with
    | some data => .ok (data, rewrite bytes)
    | none => .error failure
  nm bytes := .ok (unlines ((v.decode bytes).symbols.map (·.render addressWidth)))
  readelf bytes := .ok (listing addressWidth (v.decode bytes).shoff (v.decode bytes).sections)

/-- `d'` shows the tools what `d` shows them: the bytes they decode the headers from, and
every section they dump. -/
structure Keeps (d d' : List UInt8) : Prop where
  reads : ∀ i, v.reads i = true → d'[i]? = d[i]?
  dumps : ∀ name, (v.decode d).dumpSection name d' = (v.decode d).dumpSection name d

/-- The view of an image whose headers and symbol table, read from the offsets `reads`
holds, are those of `img`. -/
def ofImage (img : Image) (reads : Nat → Bool) : ElfView := ⟨fun _ => img, reads, fun _ _ _ => rfl⟩

variable {v} {rewrite : List UInt8 → List UInt8} {aw : Nat} {failure : List Char}

theorem decode_of_keeps {d d' : List UInt8} (h : v.Keeps d d') : v.decode d' = v.decode d :=
  v.decode_congr d d' h.reads

theorem Keeps.refl (d : List UInt8) : v.Keeps d d := ⟨fun _ _ => rfl, fun _ => rfl⟩

theorem Keeps.trans {d₁ d₂ d₃ : List UInt8} (h₁ : v.Keeps d₁ d₂) (h₂ : v.Keeps d₂ d₃) :
    v.Keeps d₁ d₃ where
  reads i hi := (h₂.reads i hi).trans (h₁.reads i hi)
  dumps name := by rw [← decode_of_keeps h₁, h₂.dumps, decode_of_keeps h₁, h₁.dumps]

/-- An image that keeps the bytes the tools read still holds them. -/
theorem Keeps.reads_lt {d d' : List UInt8} (h : v.Keeps d d')
    (hin : ∀ i, v.reads i = true → i < d.length) (i : Nat) (hi : v.reads i = true) :
    i < d'.length := by
  have h₁ := h.reads i hi
  rw [List.getElem?_eq_getElem (hin i hi)] at h₁
  by_contra hc
  rw [List.getElem?_eq_none (by omega)] at h₁
  cases h₁

@[simp] theorem nm_tools (d : List UInt8) :
    (v.tools rewrite aw failure).nm d = .ok (unlines ((v.decode d).symbols.map (·.render aw))) :=
  rfl

@[simp] theorem readelf_tools (d : List UInt8) :
    (v.tools rewrite aw failure).readelf d =
      .ok (listing aw (v.decode d).shoff (v.decode d).sections) :=
  rfl

@[simp] theorem dump_tools (name : List Char) (d : List UInt8) :
    (v.tools rewrite aw failure).dump name d = (v.decode d).dumpSection name d := by
  simp only [Tools.dump, tools]
  cases (v.decode d).dumpSection name d <;> rfl

/-- Each extraction leaves an image that shows the tools what the one it read showed. -/
theorem keeps_afterDump (hrw : ∀ d, v.Keeps d (rewrite d)) (name : List Char) (d : List UInt8) :
    v.Keeps d ((v.tools rewrite aw failure).afterDump name d) := by
  simp only [Tools.afterDump, tools]
  cases (v.decode d).dumpSection name d with
  | some data => exact hrw d
  | none => exact Keeps.refl d

theorem keeps_afterExtraction (hrw : ∀ d, v.Keeps d (rewrite d)) (d : List UInt8) :
    v.Keeps d ((v.tools rewrite aw failure).afterExtraction d) :=
  (keeps_afterDump hrw _ d).trans (keeps_afterDump hrw _ _)

/-- Eight bytes patched away from the bytes the tools decode, all of which lie in the image,
leave the headers they decode as they were. -/
theorem decode_of_written {d d' : List UInt8} {fo t r : Nat} (hW : Written d d' fo t r)
    (hclear : ∀ i, fo ≤ i → i < fo + 8 → v.reads i = false)
    (hin : ∀ i, v.reads i = true → i < d.length) : v.decode d' = v.decode d :=
  v.decode_congr d d' fun i hi => hW.frame i (hin i hi) (Classical.byContradiction fun hc => by
    rw [hclear i (by omega) (by omega)] at hi
    cases hi)

end ElfView

private theorem take_drop_congr {d d' : List UInt8} {o n : Nat}
    (h : ∀ i, o ≤ i → i < o + n → d'[i]? = d[i]?) :
    (d'.drop o).take n = (d.drop o).take n := by
  apply List.ext_getElem?
  intro i
  rw [List.getElem?_take, List.getElem?_take, List.getElem?_drop, List.getElem?_drop]
  split_ifs with hi
  · exact h _ (by omega) (by omega)
  · rfl

/-- An extraction reads the same bytes from an image that keeps the section's bytes and
does not shrink. -/
theorem dumpSection_of_frame {img : Image} {name : List Char} {d d' data : List UInt8}
    (h : img.dumpSection name d = some data) (hlen : d.length ≤ d'.length)
    (hframe : ∀ r ∈ img.sections, r.name = name → r.offset + r.size ≤ d.length →
      ∀ i, r.offset ≤ i → i < r.offset + r.size → d'[i]? = d[i]?) :
    img.dumpSection name d' = some data := by
  unfold Image.dumpSection at h ⊢
  cases hf : img.sections.find? (·.name = name) with
  | none => rw [hf] at h; cases h
  | some r =>
    rw [hf] at h
    dsimp only at h ⊢
    have hr : r.name = name := by simpa using List.find?_some hf
    split_ifs at h with hc
    cases h
    rw [if_pos ⟨hc.1, by omega⟩,
      take_drop_congr (hframe r (List.mem_of_find?_eq_some hf) hr hc.2)]

/-- With the checksum symbol in its slot, the lookup of `patch_binary` over the listing of
`llvm-nm` finds the symbol's own address, and the section search selects its section. -/
theorem Image.Slot.select {img : Image} {aw : Nat} {symbol : List Char} {sec : SectionHeader}
    {addr size : Nat} (hwf : img.WF) (hslot : img.Slot aw symbol sec addr size) {tools : Tools}
    {w : World} (hnm : tools.nm w.file = .ok (unlines (img.symbols.map (·.render aw))))
    {addr' size' : Int} {name : List Char} {sec' : SectionHeader}
    (hg : (getSymbolAddress tools.nm symbol).run w = .ok (some (addr', size')) w)
    (hs : selectSection addr' img.sections = some (name, sec')) : addr' = addr ∧ sec = sec' := by
  obtain ⟨-, out, hout, hfind⟩ := run_getSymbolAddress_eq_some.mp hg
  rw [hnm, Except.ok.injEq] at hout
  subst hout
  obtain ⟨pre, post, ty, hsyms, hpre⟩ := hslot.line
  have hlook := findSymbol_listing aw (l := .sized addr size ty symbol)
    (by rw [← hsyms]; exact hwf.symbols) hpre rfl
  dsimp only [NmLine.name] at hlook
  rw [hsyms, hlook] at hfind
  simp only [NmLine.expected, Except.ok.injEq, Option.some.injEq, Prod.mk.injEq] at hfind
  obtain ⟨rfl, -⟩ := hfind
  obtain ⟨hmem', hname', hholds, hdb⟩ := selectSection_spec hs
  exact ⟨rfl, (hslot.only sec' hmem' (hname' ▸ hdb) hholds).symm⟩

/-- Patching the symbol's slot leaves `.text` and `.rodata` extracting as they did. -/
theorem Image.Slot.dumpSection_of_written {img : Image} {aw : Nat} {symbol : List Char}
    {sec : SectionHeader} {addr size : Nat} (hslot : img.Slot aw symbol sec addr size)
    {d d' data : List UInt8} {name : List Char} {t r : Nat}
    (hW : Written d d' (sec.offset + (addr - sec.address)) t r) (hlen : d.length ≤ d'.length)
    (hn : name = ".text".toList ∨ name = ".rodata".toList)
    (h : img.dumpSection name d = some data) : img.dumpSection name d' = some data := by
  have hins := hslot.inside
  have hlarge := hslot.large
  refine dumpSection_of_frame h hlen fun r' hr hrn hrl i hi hi' => hW.frame i (by omega) ?_
  have := hslot.apart r' hr (hrn ▸ hn)
  omega

/-- The lookup of `patch_binary` over the listing of `llvm-nm` finds nothing when no line
contains the symbol's name. -/
theorem findSymbol_listing_of_absent {syms : List NmLine} {aw : Nat} {symbol : List Char}
    (hwf : ∀ l ∈ syms, l.WF) (habsent : ∀ l ∈ syms, ¬ symbol <:+: l.render aw) :
    findSymbol symbol (splitlines (unlines (syms.map (·.render aw)))) = .ok none := by
  rw [splitlines_unlines _ fun line hl => by
      obtain ⟨l, hm, rfl⟩ := List.mem_map.mp hl
      exact NmLine.noLineBreak_render aw (hwf l hm),
    ← List.append_nil (syms.map _), findSymbol_append_of_not_infix _ _ _ fun line hl => by
      obtain ⟨l, hm, rfl⟩ := List.mem_map.mp hl
      exact habsent l hm]
  rfl

/-- When no line of `llvm-nm -S` contains the symbol's name, `main` without `--verify-only`
returns `1`, and the image it leaves is the one its extractions wrote. -/
theorem main_fails_without_symbol (v : ElfView) (rewrite : List UInt8 → List UInt8) (aw : Nat)
    (failure : List Char) (args : Args) (hv : args.verifyOnly = false)
    (hrw : ∀ d, v.Keeps d (rewrite d)) (w : World) (hwf : (v.decode w.file).WF)
    (habsent : ∀ l ∈ (v.decode w.file).symbols, ¬ args.symbol <:+: l.render aw) :
    ∃ w', (main (v.tools rewrite aw failure) args).run w = .ok 1 w' ∧
      w'.file = if w.present then (v.tools rewrite aw failure).afterExtraction w.file
        else w.file := by
  cases hp : w.present with
  | false => exact ⟨_, run_main_of_absent _ args hp, rfl⟩
  | true =>
    obtain ⟨err, hrun⟩ := run_main_of_present (v.tools rewrite aw failure) args hp
    rw [hrun]
    cases ht : (v.tools rewrite aw failure).dump ".text".toList w.file with
    | none => exact ⟨_, run_reportAndPatch_of_none _ args (.inl rfl) _, rfl⟩
    | some textData =>
      cases hr : (v.tools rewrite aw failure).dump ".rodata".toList
          ((v.tools rewrite aw failure).afterDump ".text".toList w.file) with
      | none => exact ⟨_, run_reportAndPatch_of_none _ args (.inr rfl) _, rfl⟩
      | some rodataData =>
        -- the image both extractions wrote shows `llvm-nm` the symbols it started with
        have hdec : v.decode ((v.tools rewrite aw failure).afterExtraction w.file) =
            v.decode w.file :=
          ElfView.decode_of_keeps (ElfView.keeps_afterExtraction hrw w.file)
        rw [run_reportAndPatch_some _ args hv, run_patchBinary_of_none _ _ _ _
          (run_getSymbolAddress_of_none (by rw [ElfView.nm_tools, hdec])
            (findSymbol_listing_of_absent hwf.symbols habsent))]
        exact ⟨_, rfl, rfl⟩

/-! ### A kernel image -/

/-- An ELF64 image: its ELF header in the first `0x40` bytes, `.text`, `.rodata` and `.data`
back to back from there, the section header table at `0x58`, and a `.bss` whose nominal
offset is `bssOffset`; `llvm-nm` lists `symbol` alone. -/
def kernelImage (bssOffset : Nat) (symbol : NmLine) : Image where
  sections :=
    [⟨0, [], "NULL".toList, 0, 0, 0, 0, [], 0, 0, 0⟩,
      ⟨1, ".text".toList, "PROGBITS".toList, 0x1000, 0x40, 0x8, 0, "AX".toList, 0, 0, 4⟩,
      ⟨2, ".rodata".toList, "PROGBITS".toList, 0x1008, 0x48, 0x8, 0, "A".toList, 0, 0, 8⟩,
      ⟨3, ".data".toList, "PROGBITS".toList, 0x2000, 0x50, 0x8, 0, "WA".toList, 0, 0, 8⟩,
      ⟨4, ".bss".toList, "NOBITS".toList, 0x3000, bssOffset, 0x10, 0, "WA".toList, 0, 0, 8⟩]
  shoff := 0x58
  symbols := [symbol]

/-- The bytes the tools decode the kernel image's headers from: the ELF header and the five
64-byte section headers. -/
def kernelReads (i : Nat) : Bool := decide (i < 0x40 ∨ 0x58 ≤ i ∧ i < 0x198)

/-- `compute_checksums.py kernel.elf`. -/
def kernelArgs : Args := { elfFile := "kernel.elf".toList }

/-- The checksum symbol as an object in `.data`. -/
def dataChecksums : NmLine := .sized 0x2000 8 'D' "platform_expected_checksums".toList

set_option maxRecDepth 10000 in
/-- `compute_checksums.py --symbol missing_checksums kernel.elf` on the kernel image. -/
theorem main_fails_without_symbol_missing :
    ∃ w', (main ((ElfView.ofImage (kernelImage 0x198 dataChecksums) kernelReads).tools id 16 [])
        { kernelArgs with symbol := "missing_checksums".toList }).run
        ⟨List.replicate 0x198 0, true, [], []⟩ = .ok 1 w' ∧
      w'.file = if true then ((ElfView.ofImage (kernelImage 0x198 dataChecksums)
          kernelReads).tools id 16 []).afterExtraction (List.replicate 0x198 0)
        else List.replicate 0x198 0 :=
  main_fails_without_symbol (ElfView.ofImage (kernelImage 0x198 dataChecksums) kernelReads) id
    16 [] _ rfl (fun _ => ⟨fun _ _ => rfl, fun _ => rfl⟩) ⟨List.replicate 0x198 0, true, [], []⟩
    ⟨by decide, by decide⟩ (by decide)

end PicoScripts
