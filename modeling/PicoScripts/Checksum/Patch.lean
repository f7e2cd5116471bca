import PicoScripts.Checksum.Readelf

/-!
# Writing the checksums into the image

`src/script/compute_checksums.py:65-158` (`patch_binary`) looks the symbol up, finds its
section, turns the address into the file offset `offset + (addr - vaddr)` and writes the
two words there. For a NOBITS section that offset is where the bytes would lie: the image
grows with zero bytes when the window passes its end, and is written in place otherwise.
A file-backed section's window must already lie in the image, or a `pack_into` raises
before anything is written.
-/

namespace PicoScripts

/-- What the external tools print for the image bytes they run on, or the text of the
`CalledProcessError` they exit with: `llvm-objcopy --dump-section name=/dev/stdout`,
`llvm-nm -S` and `llvm-readelf -S`. With no output operand `llvm-objcopy` writes the
object back over its input, so it gives the dumped bytes and the image it leaves. -/
structure Tools where
  objcopy : List Char → List UInt8 → Except (List Char) (List UInt8 × List UInt8)
  nm : List UInt8 → Except (List Char) (List Char)
  readelf : List UInt8 → Except (List Char) (List Char)

/-- `data.extend(b'\x00' * (n - len(data)))` when `len(data) < n`
(`compute_checksums.py:117-118`). -/
def growTo (data : List UInt8) (n : Int) : List UInt8 :=
  if (data.length : Int) < n then data ++ List.replicate (n - data.length).toNat 0 else data

/-- The two `struct.pack_into` calls of either branch (`compute_checksums.py:121-122,141-142`). -/
def packChecksums (data : List UInt8) (fileOffset : Int) (textCrc rodataCrc : Nat) :
    Except PyError (List UInt8) := do
  let data ← packInto data fileOffset textCrc
  packInto data (fileOffset + 4) rodataCrc

/-- The report of either branch (`compute_checksums.py:128-130,148-150`). -/
def reportPatch (sectionName : List Char) (fileOffset : Int) (textCrc rodataCrc : Nat) :
    Script Unit := do
  printLine ("Patched checksums in ".toList ++ sectionName ++ " at offset 0x".toList ++
    hexInt fileOffset)
  printLine ("  .text CRC32: 0x".toList ++ hexPad 8 textCrc)
  printLine ("  .rodata CRC32: 0x".toList ++ hexPad 8 rodataCrc)

/-- The lines both branches share: pack, write the image back, report, return `True`. -/
def packAndWrite (sectionName : List Char) (data : List UInt8) (fileOffset : Int)
    (textCrc rodataCrc : Nat) : Script Bool := do
  let data ← liftExcept (packChecksums data fileOffset textCrc rodataCrc)
  writeFile data
  reportPatch sectionName fileOffset textCrc rodataCrc
  pure true

/-- The NOBITS branch (`compute_checksums.py:106-131`): grow the image to the window's end. -/
def patchNobits (sectionName : List Char) (fileOffset : Int) (textCrc rodataCrc : Nat) :
    Script Bool := do
  let data ← readFile
  packAndWrite sectionName (growTo data (fileOffset + 8)) fileOffset textCrc rodataCrc

/-- The file-backed branch (`compute_checksums.py:132-151`). -/
def patchFileBacked (sectionName : List Char) (fileOffset : Int) (textCrc rodataCrc : Nat) :
    Script Bool := do
  packAndWrite sectionName (← readFile) fileOffset textCrc rodataCrc

/-- The patch step at a resolved offset, by the section's type (`compute_checksums.py:106`). -/
def patchAt (sectionName sectionType : List Char) (fileOffset : Int) (textCrc rodataCrc : Nat) :
    Script Bool :=
  if sectionType = "NOBITS".toList then patchNobits sectionName fileOffset textCrc rodataCrc
  else patchFileBacked sectionName fileOffset textCrc rodataCrc

/-- `patch_binary(elf_path, symbol_name, text_crc, rodata_crc)`. -/
def patchBinary (tools : Tools) (symbolName : List Char) (textCrc rodataCrc : Nat) :
    Script Bool := do
  match ← getSymbolAddress tools.nm symbolName with
  | none =>
    printErr ("Cannot patch: symbol ".toList ++ symbolName ++ " not found".toList)
    pure false
  | some (addr, _) =>
    match tools.readelf (← readFile) with
    | .error e =>
      printErr ("Error reading ELF sections: ".toList ++ e)
      pure false
    | .ok stdout =>
      match ← liftExcept (findSection addr (splitlines stdout)) with
      | some (name, c) => patchAt name c.type (c.offset + (addr - c.vaddr)) textCrc rodataCrc
      | none =>
        printErr ("Could not find symbol ".toList ++ symbolName ++
          " in .data or .bss sections".toList)
        pure false

/-! ### The patch step -/

/-- The image with both words written at `fileOffset`. -/
def writeWords (data : List UInt8) (fileOffset textCrc rodataCrc : Nat) : List UInt8 :=
  writeBytes (writeBytes data fileOffset (leBytes textCrc)) (fileOffset + 4) (leBytes rodataCrc)

/-- What a patch step that succeeds leaves in the image `d'` written over `d`: both words
read back, every old byte outside the window is kept, and the bytes added before the
window are zero. -/
structure Written (d d' : List UInt8) (fileOffset textCrc rodataCrc : Nat) : Prop where
  text : unpackFrom d' fileOffset = some textCrc
  rodata : unpackFrom d' (fileOffset + 4) = some rodataCrc
  frame : ∀ i < d.length, (i < fileOffset ∨ fileOffset + 8 ≤ i) → d'[i]? = d[i]?
  zeros : ∀ i, d.length ≤ i → i < fileOffset → d'[i]? = some 0

section Step

variable {name : List Char} {fo t r : Nat}

theorem growTo_natCast (d : List UInt8) (n : Nat) :
    growTo d n = d ++ List.replicate (n - d.length) 0 := by
  unfold growTo
  split
  · congr 2; omega
  · rw [Nat.sub_eq_zero_of_le (by omega)]; simp

theorem packChecksums_natCast (d : List UInt8) (ht : t < 2 ^ 32) (hr : r < 2 ^ 32) :
    packChecksums d fo t r =
      if d.length < fo + 8 then .error .structError else .ok (writeWords d fo t r) := by
  have h4 : ((fo : Int) + 4) = ((fo + 4 : Nat) : Int) := by push_cast; rfl
  unfold packChecksums
  rw [packInto_natCast]
  by_cases h1 : d.length < fo + 4
  · rw [if_pos (.inl h1), if_pos (by omega)]; rfl
  · rw [if_neg (by omega), except_ok_bind, h4, packInto_natCast, length_writeBytes]
    by_cases h2 : d.length < fo + 8
    · rw [if_pos (.inl (by omega)), if_pos h2]
    · rw [if_neg (by omega), if_neg h2]; rfl

theorem getElem?_writeWords {d : List UInt8} (h : fo + 8 ≤ d.length) (i : Nat) :
    (writeWords d fo t r)[i]? =
      if fo ≤ i ∧ i < fo + 4 then (leBytes t)[i - fo]?
      else if fo + 4 ≤ i ∧ i < fo + 8 then (leBytes r)[i - (fo + 4)]? else d[i]? := by
  rw [writeWords, getElem?_writeBytes _ _ _ _ (by simp; omega),
    getElem?_writeBytes _ _ _ _ (by simp; omega)]
  simp only [length_leBytes]
  by_cases h1 : fo + 4 ≤ i ∧ i < fo + 4 + 4
  · rw [if_pos h1, if_neg (by omega), if_pos (by omega)]
  · rw [if_neg h1]
    by_cases h2 : fo ≤ i ∧ i < fo + 4
    · rw [if_pos h2, if_pos h2]
    · rw [if_neg h2, if_neg h2, if_neg (by omega)]

/-- Writing both words over an image `d₀` that extends `d` with zeros leaves `Written`. -/
theorem written_writeWords {d d₀ : List UInt8} (ht : t < 2 ^ 32) (hr : r < 2 ^ 32)
    (hl : fo + 8 ≤ d₀.length) (hpre : ∀ i < d.length, d₀[i]? = d[i]?)
    (hz : ∀ i, d.length ≤ i → i < d₀.length → d₀[i]? = some 0) :
    Written d (writeWords d₀ fo t r) fo t r where
  text := unpackFrom_of_getElem? ht fun j hj => by
    rw [getElem?_writeWords hl, if_pos (by omega), Nat.add_sub_cancel_left]
  rodata := unpackFrom_of_getElem? hr fun j hj => by
    rw [getElem?_writeWords hl, if_neg (by omega), if_pos (by omega), Nat.add_sub_cancel_left]
  frame i hi hw := by
    rw [getElem?_writeWords hl, if_neg (by omega), if_neg (by omega), hpre i hi]
  zeros i hi hf := by
    rw [getElem?_writeWords hl, if_neg (by omega), if_neg (by omega), hz i hi (by omega)]

theorem run_packAndWrite (name : List Char) (t r : Nat) (w : World) (data : List UInt8)
    (fileOffset : Int) :
    ∃ out, (packAndWrite name data fileOffset t r).run w =
      match packChecksums data fileOffset t r with
      | .ok d' => .ok true { w with file := d', stdout := out }
      | .error e => .error e w := by
  unfold packAndWrite reportPatch
  cases packChecksums data fileOffset t r <;> simp

/-- The patch step at a non-negative offset: a NOBITS section grows the image to the
window's end and writes; a file-backed one writes in place or raises. -/
theorem run_patchAt (name ty : List Char) (ht : t < 2 ^ 32) (hr : r < 2 ^ 32) (w : World) :
    ∃ out, (patchAt name ty fo t r).run w =
      if ty = "NOBITS".toList then
        .ok true { w with
          file := writeWords (w.file ++ List.replicate (fo + 8 - w.file.length) 0) fo t r,
          stdout := out }
      else if w.file.length < fo + 8 then .error .structError w
      else .ok true { w with file := writeWords w.file fo t r, stdout := out } := by
  unfold patchAt
  by_cases hk : ty = "NOBITS".toList
  · have hg : growTo w.file ((fo : Int) + 8) =
        w.file ++ List.replicate (fo + 8 - w.file.length) 0 := by
      rw [show (fo : Int) + 8 = ((fo + 8 : Nat) : Int) by push_cast; rfl, growTo_natCast]
    obtain ⟨out, h⟩ := run_packAndWrite name t r w
      (w.file ++ List.replicate (fo + 8 - w.file.length) 0) fo
    refine ⟨out, ?_⟩
    simp only [if_pos hk, patchNobits, run_bind, run_readFile, hg, h, packChecksums_natCast _ ht hr]
    rw [if_neg (by simp; omega)]
  · obtain ⟨out, h⟩ := run_packAndWrite name t r w w.file fo
    refine ⟨out, ?_⟩
    simp only [if_neg hk, patchFileBacked, run_bind, run_readFile, h, packChecksums_natCast _ ht hr]
    split_ifs <;> rfl

/-- A patch step that returns has returned `True`, over a section that is NOBITS or whose
window lies in the image, and has written both words; only NOBITS grows the image. -/
theorem patchAt_written {ty : List Char} (ht : t < 2 ^ 32) (hr : r < 2 ^ 32) {w w' : World}
    {b : Bool} (h : (patchAt name ty fo t r).run w = .ok b w') :
    b = true ∧ (ty = "NOBITS".toList ∨ fo + 8 ≤ w.file.length) ∧
      w'.file.length = (if ty = "NOBITS".toList then max w.file.length (fo + 8)
        else w.file.length) ∧ Written w.file w'.file fo t r := by
  obtain ⟨out, hrun⟩ := run_patchAt name ty ht hr w
  rw [h] at hrun
  split_ifs at hrun with hk hl <;> cases hrun
  · have hl : fo + 8 ≤ (w.file ++ List.replicate (fo + 8 - w.file.length) 0).length := by
      simp; omega
    refine ⟨rfl, .inl hk, by rw [if_pos hk]; simp [writeWords]; omega, written_writeWords ht hr hl ?_ ?_⟩
    · intro i hi; rw [List.getElem?_append_left hi]
    · intro i hi hi'
      rw [List.getElem?_append_right hi, List.getElem?_replicate, if_pos (by simp at hi'; omega)]
  · exact ⟨rfl, .inr (by omega), by rw [if_neg hk]; simp [writeWords], written_writeWords ht hr (by omega)
      (fun _ _ => rfl) (fun i hi hi' => absurd hi' (by omega))⟩

/-- A patch step that raises has raised `struct.error` before any effect. -/
theorem patchAt_raises {ty : List Char} (ht : t < 2 ^ 32) (hr : r < 2 ^ 32) {w w' : World}
    {e : PyError} (h : (patchAt name ty fo t r).run w = .error e w') :
    e = .structError ∧ w' = w ∧ ty ≠ "NOBITS".toList ∧ w.file.length < fo + 8 := by
  obtain ⟨out, hrun⟩ := run_patchAt name ty ht hr w
  rw [h] at hrun
  split_ifs at hrun with hk hl
  cases hrun
  exact ⟨rfl, rfl, hk, hl⟩

/-- The patch step at a non-negative file offset, for 32-bit values, raises `struct.error`
exactly for a file-backed section whose window passes the image's end, and then leaves the
world as it was. Otherwise it writes both words, keeps every other byte, and grows the
image only for a NOBITS section, with zeros. -/
theorem patchAt_spec (name ty : List Char) (fo t r : Nat) (ht : t < 2 ^ 32) (hr : r < 2 ^ 32)
    (w : World) :
    match (patchAt name ty fo t r).run w with
    | .error e w' => e = .structError ∧ w' = w ∧ ty ≠ "NOBITS".toList ∧ w.file.length < fo + 8
    | .ok b w' => b = true ∧ (ty = "NOBITS".toList ∨ fo + 8 ≤ w.file.length) ∧
        w'.file.length = (if ty = "NOBITS".toList then max w.file.length (fo + 8)
          else w.file.length) ∧ Written w.file w'.file fo t r := by
  split
  · next h => exact patchAt_raises ht hr h
  · next h => exact patchAt_written ht hr h

/-- The patch step for a NOBITS `.bss` whose window starts at the image's end. -/
theorem patchAt_spec_bss_at_end :
    match (patchAt ".bss".toList "NOBITS".toList (0x10 : Nat) 0xCBF43926 0x2144DF1C).run
        ⟨List.replicate 0x10 0xFF, true, [], []⟩ with
    | .error e w' => e = .structError ∧ w' = ⟨List.replicate 0x10 0xFF, true, [], []⟩ ∧
        "NOBITS".toList ≠ "NOBITS".toList ∧ 0x10 < 0x10 + 8
    | .ok b w' => b = true ∧ ("NOBITS".toList = "NOBITS".toList ∨ 0x10 + 8 ≤ 0x10) ∧
        w'.file.length = (if "NOBITS".toList = "NOBITS".toList then max 0x10 (0x10 + 8)
          else 0x10) ∧ Written (List.replicate 0x10 0xFF) w'.file 0x10 0xCBF43926 0x2144DF1C :=
  patchAt_spec ".bss".toList "NOBITS".toList 0x10 0xCBF43926 0x2144DF1C (by decide) (by decide)
    ⟨List.replicate 0x10 0xFF, true, [], []⟩

end Step

end PicoScripts
