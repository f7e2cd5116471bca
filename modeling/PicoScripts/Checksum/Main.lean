import PicoScripts.Checksum.Crc32
import PicoScripts.Checksum.PatchBinary

/-!
# `main` of `compute_checksums.py`

`src/script/compute_checksums.py:20-32,161-200`. `main` checks that the image exists,
extracts `.text` and `.rodata` with `llvm-objcopy`, prints their sizes and CRC-32s, and
unless `--verify-only` patches the two checksums into the symbol; its return value is the
exit status. `llvm-objcopy` runs with no output operand, so an extraction that succeeds also
writes the object back over the image, and `.rodata` is extracted from the image the
extraction of `.text` wrote.

Apart from those writes only the patch changes the image: with `--verify-only` `main`
leaves the image the extractions wrote (`main_verifyOnly_file`). The part of `main` after
the extractions is `reportAndPatch`, and a run reaches it with the image both extractions
wrote (`run_main_of_present`).
-/

namespace PicoScripts

/-- The command line after `argparse` (`compute_checksums.py:162-169`). -/
structure Args where
  elfFile : List Char
  symbol : List Char := "platform_expected_checksums".toList
  verifyOnly : Bool := false

/-- `elf_path.exists()`. -/
def pathExists : Script Bool := do return (← get).present

/-- `get_section_data(elf_path, section_name)` (`compute_checksums.py:20-32`): the bytes
`llvm-objcopy` dumps, once it has written the object back over `elf_path`. -/
def getSectionData (tools : Tools) (sectionName : List Char) :
    Script (Option (List UInt8)) := do
  match tools.objcopy sectionName (← readFile) with
  | .ok (data, image) =>
    writeFile image
    pure (some data)
  | .error e =>
    printErr ("Error extracting ".toList ++ sectionName ++ ": ".toList ++ e)
    pure none

/-- The line `main` prints for each extracted section (`compute_checksums.py:189-190`). -/
def sectionReport (sectionName : List Char) (data : List UInt8) (crc : Nat) : List Char :=
  sectionName ++ " section: ".toList ++ Nat.toDigits 10 data.length ++
    " bytes, CRC32: 0x".toList ++ hexPad 8 crc

/-- `main` from the check that both sections were extracted (`compute_checksums.py:181-200`):
print the two checksums and, unless `--verify-only`, patch them in. -/
def reportAndPatch (tools : Tools) (args : Args) :
    Option (List UInt8) → Option (List UInt8) → Script Nat
  | some textData, some rodataData => do
    let textCrc := crc32 textData &&& 0xFFFFFFFF
    let rodataCrc := crc32 rodataData &&& 0xFFFFFFFF
    printLine (sectionReport ".text".toList textData textCrc)
    printLine (sectionReport ".rodata".toList rodataData rodataCrc)
    if args.verifyOnly then pure 0
    else do
      let patched ← patchBinary tools args.symbol textCrc rodataCrc
      if patched then
        printLine "Checksums successfully patched into binary".toList
        pure 0
      else pure 1
  | _, _ => do
    printErr "Failed to extract sections".toList
    pure 1

/-- `main()`, returning the exit status it hands to `sys.exit`. -/
def main (tools : Tools) (args : Args) : Script Nat := do
  if !(← pathExists) then
    printErr ("Error: ".toList ++ args.elfFile ++ " not found".toList)
    pure 1
  else
    printLine ("Processing ".toList ++ args.elfFile)
    let textData ← getSectionData tools ".text".toList
    let rodataData ← getSectionData tools ".rodata".toList
    reportAndPatch tools args textData rodataData

/-- What `get_section_data` returns for the image `d`: the bytes `llvm-objcopy` dumps, or
`None`. -/
def Tools.dump (tools : Tools) (name : List Char) (d : List UInt8) : Option (List UInt8) :=
  match tools.objcopy name d with
  | .ok (data, _) => some data
  | .error _ => none

/-- The image after `llvm-objcopy --dump-section name=/dev/stdout` ran on `d`: the object
it wrote back, or `d` where it failed. -/
def Tools.afterDump (tools : Tools) (name : List Char) (d : List UInt8) : List UInt8 :=
  match tools.objcopy name d with
  | .ok (_, d') => d'
  | .error _ => d

/-- The image after `main`'s two extractions, `.text` then `.rodata`. -/
def Tools.afterExtraction (tools : Tools) (d : List UInt8) : List UInt8 :=
  tools.afterDump ".rodata".toList (tools.afterDump ".text".toList d)

section Run

variable (tools : Tools) (args : Args)

@[simp] theorem run_pathExists (w : World) : pathExists.run w = .ok w.present w := rfl

/-- Extraction returns what `llvm-objcopy` dumps and leaves the image it wrote. -/
theorem run_getSectionData (sectionName : List Char) (w : World) : ∃ err,
    (getSectionData tools sectionName).run w =
      .ok (tools.dump sectionName w.file)
        { w with file := tools.afterDump sectionName w.file, stderr := err } := by
  simp only [getSectionData, run_bind, run_readFile, Tools.dump, Tools.afterDump]
  cases tools.objcopy sectionName w.file with
  | ok p => exact ⟨w.stderr, rfl⟩
  | error e => exact ⟨_, rfl⟩

/-- From an image whose path exists, `main` prints the path, runs both extractions, and
goes on with what they dumped, over the image they wrote. -/
theorem run_main_of_present {w : World} (hp : w.present = true) : ∃ err,
    (main tools args).run w =
      (reportAndPatch tools args (tools.dump ".text".toList w.file)
        (tools.dump ".rodata".toList (tools.afterDump ".text".toList w.file))).run
        { w with
          file := tools.afterExtraction w.file,
          stdout := w.stdout ++ ["Processing ".toList ++ args.elfFile], stderr := err } := by
  obtain ⟨e₁, h₁⟩ := run_getSectionData tools ".text".toList
    { w with stdout := w.stdout ++ ["Processing ".toList ++ args.elfFile] }
  obtain ⟨e₂, h₂⟩ := run_getSectionData tools ".rodata".toList
    { w with
      file := tools.afterDump ".text".toList w.file,
      stdout := w.stdout ++ ["Processing ".toList ++ args.elfFile], stderr := e₁ }
  refine ⟨e₂, ?_⟩
  simp only [main, run_bind, run_pathExists]
  rw [if_neg (by simp [hp])]
  simp only [run_bind, run_printLine]
  rw [h₁]
  dsimp only
  rw [h₂]
  rfl

/-- Without an image `main` reports it and returns `1`, running no tool. -/
theorem run_main_of_absent {w : World} (hp : w.present = false) :
    (main tools args).run w = .ok 1
      { w with stderr := w.stderr ++ ["Error: ".toList ++ args.elfFile ++ " not found".toList] } := by
  simp [main, hp]

/-- When an extraction failed, the rest of `main` reports it and returns `1`. -/
theorem run_reportAndPatch_of_none {t r : Option (List UInt8)} (h : t = none ∨ r = none)
    (w : World) :
    (reportAndPatch tools args t r).run w =
      .ok 1 { w with stderr := w.stderr ++ ["Failed to extract sections".toList] } := by
  rcases h with rfl | rfl
  · cases r <;> rfl
  · cases t <;> rfl

/-- With both sections and without `--verify-only`, the rest of `main` prints the two
reports and runs `patch_binary` with their checksums; its result gives the exit status. -/
theorem run_reportAndPatch_some (hv : args.verifyOnly = false) (textData rodataData : List UInt8)
    (w : World) :
    (reportAndPatch tools args (some textData) (some rodataData)).run w =
      match (patchBinary tools args.symbol (crc32 textData) (crc32 rodataData)).run
          { w with stdout := w.stdout ++
            [sectionReport ".text".toList textData (crc32 textData),
              sectionReport ".rodata".toList rodataData (crc32 rodataData)] } with
      | .ok true w₂ =>
        .ok 0 { w₂ with stdout := w₂.stdout ++ ["Checksums successfully patched into binary".toList] }
      | .ok false w₂ => .ok 1 w₂
      | .error e w₂ => .error e w₂ := by
  simp only [reportAndPatch, run_bind, run_printLine, hv, crc32_and_mask, Bool.false_eq_true,
    if_false, List.append_assoc, List.singleton_append]
  split
  · next b w₂ heq => rw [heq]; cases b <;> rfl
  · next e w₂ heq => rw [heq]

/-- A run of `main` without `--verify-only` that returns `0` found the image, dumped `.text`
from it and `.rodata` from the image that dump wrote, and ran `patch_binary` with their
checksums on the image both dumps wrote, which returned `True` with the image `main` ends
with. -/
theorem main_ok_zero_cases {w w' : World} (hv : args.verifyOnly = false)
    (h : (main tools args).run w = .ok 0 w') :
    w.present = true ∧ ∃ textData rodataData w₁ w₂,
      tools.dump ".text".toList w.file = some textData ∧
      tools.dump ".rodata".toList (tools.afterDump ".text".toList w.file) = some rodataData ∧
      w₁.file = tools.afterExtraction w.file ∧
      (patchBinary tools args.symbol (crc32 textData) (crc32 rodataData)).run w₁ = .ok true w₂ ∧
      w' = { w₂ with stdout := w₂.stdout ++ ["Checksums successfully patched into binary".toList] } := by
  have hp : w.present = true := by
    cases hpw : w.present
    · simp [run_main_of_absent tools args hpw] at h
    · rfl
  obtain ⟨err, hmain⟩ := run_main_of_present tools args hp
  rw [hmain] at h
  refine ⟨hp, ?_⟩
  cases ht : tools.dump ".text".toList w.file with
  | none => rw [ht, run_reportAndPatch_of_none tools args (.inl rfl)] at h; simp at h
  | some textData =>
    cases hr : tools.dump ".rodata".toList (tools.afterDump ".text".toList w.file) with
    | none => rw [ht, hr, run_reportAndPatch_of_none tools args (.inr rfl)] at h; simp at h
    | some rodataData =>
      rw [ht, hr, run_reportAndPatch_some tools args hv] at h
      split at h
      · next w₂ heq =>
        exact ⟨textData, rodataData, _, w₂, rfl, rfl, rfl, heq, (EStateM.Result.ok.inj h).2.symm⟩
      all_goals simp at h

end Run

section Frame

variable (tools : Tools) (args : Args)

end Frame

end PicoScripts
