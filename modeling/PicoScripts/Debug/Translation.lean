import Mathlib.Data.Int.Bitwise
import Mathlib.Data.Nat.Bitwise
import PicoScripts.Base.Text

/-!
# The address decoders of the lldb commands

`src/platform/{rv64,rv32,arm64,arm32,x64}/script/debug/lldb_*_cmds.py`. `walk_pt`
(`walk_ttbr` on ARM64) and the RISC-V `decode_satp` parse their argument with
`int(command, 0)` and print fields of the integer, each computed as Python computes on its
unbounded integers: `(v >> shift) & mask`. Without an argument a command prints its usage,
and an argument that does not parse is printed back as invalid.

The fields of every architecture tile the integer: each lies between zero and its mask,
and put back at their shifts they give the integer modulo the width they cover, for a
negative or an oversized argument too (`assemble_add_emod`). So the numbers each walk prints
are the address's indices (`walks_print_address_indices`), and those `decode_satp` prints
are the register's fields (`decodeSatp_prints_fields`). The x86-64 walk goes on to read the
entry of the top-level table at `0x100000` that the address indexes, and what it prints
depends on memory through that entry alone (`walkPageTables_prints_entry`). The commands
that print fixed text only (`dump_csr`, `dump_vectors`, `dump_idt`, `dump_gdt`) are not
modelled, nor the lookups of the target and process that only x86-64 uses.
-/

namespace PicoScripts.Debug

/-! ### Python's integer bit operations -/

private theorem ldiff_two_pow_sub_one (w n : Nat) :
    Nat.ldiff (2 ^ w - 1) n = 2 ^ w - (n % 2 ^ w + 1) := by
  apply Nat.eq_of_testBit_eq
  intro i
  rw [Nat.testBit_ldiff, Nat.testBit_two_pow_sub_one,
    Nat.testBit_two_pow_sub_succ (Nat.mod_lt _ (Nat.two_pow_pos w)), Nat.testBit_mod_two_pow]
  cases decide (i < w) <;> simp

private theorem natCast_two_pow (w : Nat) : ((2 ^ w : Nat) : Int) = 2 ^ w := Int.natCast_pow 2 w

private theorem two_pow_pos (w : Nat) : (0 : Int) < 2 ^ w := by
  rw [← natCast_two_pow]
  exact Int.ofNat_lt.mpr (Nat.two_pow_pos w)

/-- Python's `x & (2 ** w - 1)` is `x % 2 ** w`, for a negative `x` too. -/
theorem land_two_pow_sub_one (x : Int) (w : Nat) :
    Int.land x ((2 ^ w - 1 : Nat) : Int) = x % 2 ^ w := by
  have hp := Nat.two_pow_pos w
  rw [← natCast_two_pow]
  cases x with
  | ofNat n =>
    show ((n &&& (2 ^ w - 1) : Nat) : Int) = _
    rw [Nat.and_pow_two_sub_one_eq_mod]
    rfl
  | negSucc n =>
    show ((Nat.ldiff (2 ^ w - 1) n : Nat) : Int) = _
    have hm := Nat.mod_lt n hp
    rw [ldiff_two_pow_sub_one, Int.negSucc_emod n (Int.ofNat_lt.mpr hp), Int.natCast_sub (by omega)]
    rw [← Int.ofNat_emod]
    omega

private theorem emod_mul_eq (x a b : Int) (ha : 0 < a) (hb : 0 < b) :
    x % (a * b) = x / a % b * a + x % a := by
  have h1 := Int.emod_add_ediv x a
  have h2 := Int.emod_add_ediv (x / a) b
  have r1 := Int.emod_nonneg x (show a ≠ 0 by omega)
  have r2 := Int.emod_lt_of_pos x ha
  have r3 := Int.emod_nonneg (x / a) (show b ≠ 0 by omega)
  have r4 := Int.emod_lt_of_pos (x / a) hb
  have hx : x % (a * b) = (x / a % b * a + x % a) % (a * b) := by
    conv_lhs => rw [← h1, ← h2, Int.mul_add, ← Int.mul_assoc, ← Int.add_assoc,
      Int.add_comm (x % a), Int.mul_comm a (x / a % b)]
    exact Int.add_mul_emod_self_left _ _ _
  have hlt : x / a % b * a + x % a < a * b := by
    have : x / a % b * a ≤ (b - 1) * a := Int.mul_le_mul_of_nonneg_right (by omega) (by omega)
    rw [Int.sub_mul, Int.one_mul] at this
    rw [Int.mul_comm a b]
    omega
  rw [hx, Int.emod_eq_of_lt (by have := Int.mul_nonneg r3 (by omega : (0 : Int) ≤ a); omega) hlt]

/-- The bits of `x` below `s + w` are its `w` bits from `s` up and its bits below `s`. -/
theorem emod_two_pow_add (x : Int) (s w : Nat) :
    x % 2 ^ (s + w) = x / 2 ^ s % 2 ^ w * 2 ^ s + x % 2 ^ s := by
  rw [pow_add]
  exact emod_mul_eq x _ _ (two_pow_pos s) (two_pow_pos w)

/-! ### Fields -/

/-- A field of an integer as the commands extract it: `(v >> shift) & mask`. -/
structure Field where
  shift : Nat
  mask : Nat
  deriving DecidableEq, Repr

/-- `(v >> shift) & mask` on Python's integers. -/
def Field.get (f : Field) (v : Int) : Int := Int.land (v >>> f.shift) f.mask

/-- A field whose mask is `w` ones holds the `w` bits of the integer from its shift up. -/
theorem Field.get_eq_emod (f : Field) (v : Int) {w : Nat} (h : f.mask = 2 ^ w - 1) :
    f.get v = v / 2 ^ f.shift % 2 ^ w := by
  rw [Field.get, h, land_two_pow_sub_one, Int.shiftRight_eq_div_pow, natCast_two_pow]

/-- A field whose mask is `w` ones lies between zero and its mask. -/
theorem Field.get_mem (f : Field) (v : Int) {w : Nat} (h : f.mask = 2 ^ w - 1) :
    0 ≤ f.get v ∧ f.get v ≤ f.mask := by
  have hp := two_pow_pos w
  have hm : (f.mask : Int) = 2 ^ w - 1 := by
    rw [h, Int.natCast_sub Nat.one_le_two_pow, natCast_two_pow]
    rfl
  rw [f.get_eq_emod v h, hm]
  exact ⟨Int.emod_nonneg _ (by omega), by have := Int.emod_lt_of_pos (v / 2 ^ f.shift) hp; omega⟩

/-- A mask of no shift: `v & mask`. -/
theorem Field.get_zero_shift (mask : Nat) (v : Int) :
    (⟨0, mask⟩ : Field).get v = Int.land v mask := by
  show Int.land (v >>> (0 : Nat)) mask = _
  rw [Int.shiftRight_eq_div_pow, Nat.pow_zero, Int.ofNat_one, Int.ediv_one]

/-- Fields that tile the bits `[low, top)` of an integer, top field first: each field's
mask is ones from its shift up to the shift of the field above it. -/
def Tiles : List Field → Nat → Nat → Prop
  | [], low, top => low = top
  | f :: fs, low, top => f.shift ≤ top ∧ f.mask = 2 ^ (top - f.shift) - 1 ∧ Tiles fs low f.shift

instance decTiles : (fs : List Field) → (low top : Nat) → Decidable (Tiles fs low top)
  | [], low, top => inferInstanceAs (Decidable (low = top))
  | f :: fs, low, top =>
    have := decTiles fs low f.shift
    inferInstanceAs
      (Decidable (f.shift ≤ top ∧ f.mask = 2 ^ (top - f.shift) - 1 ∧ Tiles fs low f.shift))

/-- The integer the fields put together: each field's value at its shift. -/
def assemble (fs : List Field) (v : Int) : Int := (fs.map fun f => f.get v * 2 ^ f.shift).sum

/-- Fields that tile `[low, top)`, with the bits of `v` below `low`, give `v` modulo
`2 ^ top`. -/
theorem assemble_add_emod {fs : List Field} {low top : Nat} (h : Tiles fs low top) (v : Int) :
    assemble fs v + v % 2 ^ low = v % 2 ^ top := by
  induction fs generalizing top with
  | nil =>
    cases h
    simp [assemble]
  | cons f fs ih =>
    obtain ⟨hs, hm, ht⟩ := h
    have hsplit := emod_two_pow_add v f.shift (top - f.shift)
    rw [Nat.add_sub_cancel' hs] at hsplit
    simp only [assemble, List.map_cons, List.sum_cons] at ih ⊢
    rw [Int.add_assoc, ih ht, f.get_eq_emod v hm, hsplit]

/-- Every field of a tiling lies between zero and its mask. -/
theorem get_mem_of_tiles {fs : List Field} {low top : Nat} (h : Tiles fs low top) (v : Int) :
    ∀ f ∈ fs, 0 ≤ f.get v ∧ f.get v ≤ f.mask := by
  induction fs generalizing top with
  | nil => exact fun f hf => absurd hf (List.not_mem_nil f)
  | cons f fs ih =>
    intro g hg
    rcases List.mem_cons.mp hg with rfl | hg
    · exact g.get_mem v h.2.1
    · exact ih h.2.2 g hg

/-! ### The commands -/

/-- The shape the address commands share: the usage lines without an argument, the
argument after `invalid` where `int(command, 0)` raises `ValueError`, and otherwise what
`body` prints for the integer. -/
def addressCommand (usage : List (List Char)) (invalid : List Char)
    (body : Int → List (List Char)) (command : List Char) : List (List Char) :=
  if command = [] then usage
  else
    match pyInt 0 command with
    | none => [invalid ++ command]
    | some v => body v

/-- Python's `str(i)`. -/
def decimalInt (i : Int) : List Char := (toString i).toList

/-- A level of a walk: the text around its index in the line the walk prints, and the
field of the address that gives the index. -/
structure Level where
  before : List Char
  after : List Char
  field : Field

/-- `vaddr & 0xFFF`: the offset of the address in its page. -/
def pageOffset (vaddr : Int) : Int := Int.land vaddr 0xFFF

/-- A line of indices: the number `idx` prints for each level inside the level's text, then
`offset` in three hexadecimal digits after `offsetLabel`. -/
def indexText (levels : List Level) (offsetLabel : List Char) (idx : List Int) (offset : Int) :
    List Char :=
  "  ".toList ++
    List.intercalate [' ']
      (List.zipWith (fun l i => l.before ++ decimalInt i ++ l.after) levels idx) ++
    ' ' :: offsetLabel ++ hexIntPad 3 offset

/-- The line of indices a walk prints for an address: each level's index, then the page
offset. -/
def indexLine (levels : List Level) (offsetLabel : List Char) (vaddr : Int) : List Char :=
  indexText levels offsetLabel (levels.map fun l => l.field.get vaddr) (pageOffset vaddr)

/-- What a walk prints for an address up to its indices: the heading with the address in
`width` hexadecimal digits, then the line of indices. -/
def walkHead (title : List Char) (width : Nat) (levels : List Level) (offsetLabel : List Char)
    (vaddr : Int) : List (List Char) :=
  ["\n=== ".toList ++ title ++ " for 0x".toList ++ hexIntPad width vaddr ++ " ===\n".toList,
    indexLine levels offsetLabel vaddr]

/-- The page offset tiles the bits below the page number. -/
theorem pageOffset_eq_emod (vaddr : Int) : pageOffset vaddr = vaddr % 2 ^ 12 := by
  rw [pageOffset, show (0xFFF : Int) = ((2 ^ 12 - 1 : Nat) : Int) from rfl, land_two_pow_sub_one]

/-- Numbers `idx` printed for `levels`, and a page offset, that are the indices of `vaddr` in
a space of `2 ^ top` addresses: one per level, each between zero and its level's mask, the
offset inside a page, and put back at the levels' shifts with the offset they give `vaddr`
modulo `2 ^ top`. -/
structure TilesAddress (levels : List Level) (top : Nat) (vaddr : Int) (idx : List Int)
    (offset : Int) : Prop where
  indices : List.Forall₂ (fun l i => 0 ≤ i ∧ i ≤ l.field.mask) levels idx
  offset_mem : 0 ≤ offset ∧ offset < 2 ^ 12
  sum_eq : (List.zipWith (fun l i => i * 2 ^ l.field.shift) levels idx).sum + offset =
    vaddr % 2 ^ top

/-- Levels that tile the address down to its page offset print its indices. -/
theorem tilesAddress_of_tiles {levels : List Level} {top : Nat}
    (h : Tiles (levels.map Level.field) 12 top) (vaddr : Int) :
    TilesAddress levels top vaddr (levels.map fun l => l.field.get vaddr) (pageOffset vaddr) where
  indices := List.forall₂_map_right_iff.mpr (List.forall₂_same.mpr fun l hl =>
    get_mem_of_tiles h vaddr l.field (List.mem_map_of_mem _ hl))
  offset_mem := by
    rw [pageOffset_eq_emod]
    exact ⟨Int.emod_nonneg _ (by decide), Int.emod_lt_of_pos _ (by decide)⟩
  sum_eq := by
    rw [List.zipWith_map_right, List.zipWith_same, pageOffset_eq_emod,
      ← assemble_add_emod h vaddr, assemble, List.map_map]
    rfl

namespace Rv64

/-- The Sv39 levels of `walk_page_tables` (`lldb_rv64_cmds.py:26-31`). -/
def levels : List Level :=
  [⟨"VPN[2]=".toList, [], ⟨30, 0x1FF⟩⟩, ⟨"VPN[1]=".toList, [], ⟨21, 0x1FF⟩⟩,
    ⟨"VPN[0]=".toList, [], ⟨12, 0x1FF⟩⟩]

/-- `walk_page_tables` (`lldb_rv64_cmds.py:8-37`). -/
def walkPageTables : List Char → List (List Char) :=
  addressCommand ["Usage: walk_pt <virtual_address>".toList] "Invalid address: ".toList
    fun vaddr => walkHead "RISC-V 64 Page Table Walk".toList 16 levels "Offset=0x".toList vaddr ++
      [[], "  Page table walking requires satp CSR access".toList,
        "  (satp contains mode, ASID, and PPN of root page table)".toList, []]

end Rv64

namespace Rv32

/-- The Sv32 levels of `walk_page_tables` (`lldb_rv32_cmds.py:26-30`). -/
def levels : List Level :=
  [⟨"VPN[1]=".toList, [], ⟨22, 0x3FF⟩⟩, ⟨"VPN[0]=".toList, [], ⟨12, 0x3FF⟩⟩]

/-- `walk_page_tables` (`lldb_rv32_cmds.py:8-37`). -/
def walkPageTables : List Char → List (List Char) :=
  addressCommand ["Usage: walk_pt <virtual_address>".toList] "Invalid address: ".toList
    fun vaddr => walkHead "RISC-V 32 Page Table Walk".toList 8 levels "Offset=0x".toList vaddr ++
      [[], "  Page table walking requires satp CSR access".toList,
        "  (satp contains mode, ASID, and PPN of root page table)".toList, []]

end Rv32

namespace Arm64

/-- The four levels of `walk_ttbr` (`lldb_arm64_cmds.py:26-32`). -/
def levels : List Level :=
  [⟨"L0[".toList, "]".toList, ⟨39, 0x1FF⟩⟩, ⟨"L1[".toList, "]".toList, ⟨30, 0x1FF⟩⟩,
    ⟨"L2[".toList, "]".toList, ⟨21, 0x1FF⟩⟩, ⟨"L3[".toList, "]".toList, ⟨12, 0x1FF⟩⟩]

/-- `walk_ttbr` (`lldb_arm64_cmds.py:8-38`). -/
def walkTtbr : List Char → List (List Char) :=
  addressCommand ["Usage: walk_ttbr <virtual_address>".toList] "Invalid address: ".toList
    fun vaddr =>
      walkHead "ARM64 Translation Table Walk".toList 16 levels "Offset: 0x".toList vaddr ++
      ["\n  Translation table walking requires TTBR register access".toList,
        "  (Reading TTBR0_EL1/TTBR1_EL1 system registers)".toList, []]

end Arm64

namespace Arm32

/-- The two levels of `walk_page_tables` (`lldb_arm32_cmds.py:26-30`). -/
def levels : List Level :=
  [⟨"L1[".toList, "]".toList, ⟨20, 0xFFF⟩⟩, ⟨"L2[".toList, "]".toList, ⟨12, 0xFF⟩⟩]

/-- `walk_page_tables` (`lldb_arm32_cmds.py:8-35`). -/
def walkPageTables : List Char → List (List Char) :=
  addressCommand ["Usage: walk_pt <virtual_address>".toList] "Invalid address: ".toList
    fun vaddr => walkHead "ARM32 Page Table Walk".toList 8 levels "Offset: 0x".toList vaddr ++
      ["\n  Page table walking requires TTBR register access".toList,
        "  (Reading TTBR0/TTBR1 system registers)".toList, []]

end Arm32

/-! ### `decode_satp` -/

/-- How `decode_satp` reads the register: the heading and width it prints the value in,
where the mode, the address-space identifier and the root page number lie, the width of the
page number, and the names of the modes. -/
structure SatpLayout where
  heading : List Char
  width : Nat
  mode : Field
  asid : Field
  ppnMask : Nat
  ppnWidth : Nat
  modeNames : List (Int × List Char)

/-- The lines `decode_satp` prints for the value `satp` of the register, reading it as the
mode, address-space identifier and root page number given, with the root table at `root`. -/
def satpText (l : SatpLayout) (satp mode asid ppn root : Int) : List (List Char) :=
  ["\n=== ".toList ++ l.heading ++ ": 0x".toList ++ hexIntPad l.width satp ++ " ===\n".toList,
    "  Mode: ".toList ++ decimalInt mode ++ " (".toList ++
      (l.modeNames.lookup mode).getD "Reserved".toList ++ ")".toList,
    "  ASID: ".toList ++ decimalInt asid,
    "  PPN:  0x".toList ++ hexIntPad l.ppnWidth ppn,
    "  Physical Address of Root Page Table: 0x".toList ++ hexIntPad l.width root,
    []]

/-- What `decode_satp` prints for a value of the register. -/
def satpLines (l : SatpLayout) (satp : Int) : List (List Char) :=
  satpText l satp (l.mode.get satp) (l.asid.get satp) (Int.land satp l.ppnMask)
    (Int.land satp l.ppnMask <<< (12 : Int))

/-- The root table's address `ppn << 12` is the page number times the page size. -/
theorem shiftLeft_twelve (ppn : Int) : ppn <<< (12 : Int) = ppn * 4096 :=
  Int.shiftLeft_eq_mul_pow ppn 12

namespace Rv64

/-- The RV64 `satp` (`lldb_rv64_cmds.py:93-103`). -/
def satpLayout : SatpLayout where
  heading := "Decoding satp".toList
  width := 16
  mode := ⟨60, 0xF⟩
  asid := ⟨44, 0xFFFF⟩
  ppnMask := 0xFFFFFFFFFFF
  ppnWidth := 11
  modeNames :=
    [(0, "Bare (no translation)".toList), (8, "SV39 (39-bit virtual)".toList),
      (9, "SV48 (48-bit virtual)".toList), (10, "SV57 (57-bit virtual)".toList),
      (11, "SV64 (64-bit virtual)".toList)]

/-- `decode_satp` (`lldb_rv64_cmds.py:74-110`). -/
def decodeSatp : List Char → List (List Char) :=
  addressCommand ["Usage: decode_satp <satp_value>".toList,
      "Example: decode_satp 0x8000000000080000".toList]
    "Invalid satp value: ".toList (satpLines satpLayout)

end Rv64

namespace Rv32

/-- The RV32 `satp` (`lldb_rv32_cmds.py:92-99`). -/
def satpLayout : SatpLayout where
  heading := "Decoding satp (RV32)".toList
  width := 8
  mode := ⟨31, 0x1⟩
  asid := ⟨22, 0x1FF⟩
  ppnMask := 0x3FFFFF
  ppnWidth := 6
  modeNames := [(0, "Bare (no translation)".toList), (1, "SV32 (32-bit virtual)".toList)]

/-- `decode_satp` (`lldb_rv32_cmds.py:73-106`). -/
def decodeSatp : List Char → List (List Char) :=
  addressCommand
    ["Usage: decode_satp <satp_value>".toList, "Example: decode_satp 0x80000000".toList]
    "Invalid satp value: ".toList (satpLines satpLayout)

end Rv32

/-! ### The x86-64 walk -/

namespace X86

/-- The four levels of `walk_page_tables` (`lldb_x86_cmds.py:26-32`). -/
def levels : List Level :=
  [⟨"PML4[".toList, "]".toList, ⟨39, 0x1FF⟩⟩, ⟨"PDPT[".toList, "]".toList, ⟨30, 0x1FF⟩⟩,
    ⟨"PD[".toList, "]".toList, ⟨21, 0x1FF⟩⟩, ⟨"PT[".toList, "]".toList, ⟨12, 0x1FF⟩⟩]

/-- `pml4_base`: where the kernel keeps its top-level table. -/
def pml4Base : Int := 0x100000

/-- `'Yes' if x else 'No'`. -/
def yesNo (b : Bool) : List Char := if b then "Yes".toList else "No".toList

/-- `pml4_entry & 0xFFFFFFFFFF000`: the physical address an entry points to. -/
def physicalAddress (entry : Nat) : Nat := entry &&& 0xFFFFFFFFFF000

/-- What `walk_page_tables` prints about the PML4 entry it read (`lldb_x86_cmds.py:44-57`). -/
def entryLines (idx entryAddr : Int) (entry : Nat) : List (List Char) :=
  ("\n  PML4[".toList ++ decimalInt idx ++ "] @ 0x".toList ++ hexIntPad 16 entryAddr ++
      " = 0x".toList ++ hexPad 16 entry) ::
    if entry &&& 1 ≠ 0 then
      ["    Present: Yes".toList, "    Writable: ".toList ++ yesNo (entry &&& 2 ≠ 0),
        "    User: ".toList ++ yesNo (entry &&& 4 ≠ 0),
        "    Physical Address: 0x".toList ++ hexPad 12 (physicalAddress entry)]
    else ["    Not Present".toList]

/-- What `walk_page_tables` prints for its read of the PML4 entry (`lldb_x86_cmds.py:43-57`):
the entry, or the error. -/
def readLines (idx entryAddr : Int) : Except (List Char) Nat → List (List Char)
  | .ok entry => entryLines idx entryAddr entry
  | .error e => ["  Error reading PML4 entry: ".toList ++ e]

/-- `walk_page_tables` (`lldb_x86_cmds.py:8-59`), over how the process reads eight bytes of
its memory at an address: the value, or the text of the error. -/
def walkPageTables (readUnsigned : Int → Except (List Char) Nat) :
    List Char → List (List Char) :=
  addressCommand ["Usage: walk_pt <virtual_address>".toList] "Invalid address: ".toList
    fun vaddr =>
      let idx := (⟨39, 0x1FF⟩ : Field).get vaddr
      let entryAddr := pml4Base + idx * 8
      walkHead "x86-64 Page Table Walk".toList 16 levels "Offset: 0x".toList vaddr ++
        readLines idx entryAddr (readUnsigned entryAddr) ++ [[]]

end X86


/-! ### What the decoders print -/

/-- For an argument it parses, an address command prints what its body prints for the
integer. -/
theorem addressCommand_of_pyInt {usage : List (List Char)} {invalid : List Char}
    {body : Int → List (List Char)} {command : List Char} {v : Int} (hne : command ≠ [])
    (h : pyInt 0 command = some v) : addressCommand usage invalid body command = body v := by
  simp [addressCommand, hne, h]

/-- Every walk prints, for an address it parses, negative ones included, a second line of
indices and a page offset that are the address's indices in the translated space: each
index between zero and its table's last entry, and put back at their shifts with the offset
they give the address modulo `2 ^ 39` for Sv39, `2 ^ 32` for Sv32 and ARM32, and `2 ^ 48` for
ARM64 and x86-64, whatever the x86-64 walk reads from memory. -/
theorem walks_print_address_indices (read : Int → Except (List Char) Nat) {command : List Char}
    {vaddr : Int} (hne : command ≠ []) (h : pyInt 0 command = some vaddr) :
    ∀ p ∈ [(Rv64.walkPageTables, Rv64.levels, "Offset=0x".toList, 39),
      (Rv32.walkPageTables, Rv32.levels, "Offset=0x".toList, 32),
      (Arm64.walkTtbr, Arm64.levels, "Offset: 0x".toList, 48),
      (Arm32.walkPageTables, Arm32.levels, "Offset: 0x".toList, 32),
      (X86.walkPageTables read, X86.levels, "Offset: 0x".toList, 48)],
      ∃ idx offset, (p.1 command)[1]? = some (indexText p.2.1 p.2.2.1 idx offset) ∧
        TilesAddress p.2.1 p.2.2.2 vaddr idx offset := by
  intro p hp
  simp only [List.mem_cons, List.mem_singleton, List.not_mem_nil, or_false] at hp
  rcases hp with rfl | rfl | rfl | rfl | rfl <;> dsimp only <;>
    exact ⟨_, _, by simp [Rv64.walkPageTables, Rv32.walkPageTables, Arm64.walkTtbr,
      Arm32.walkPageTables, X86.walkPageTables, addressCommand_of_pyInt hne h, walkHead,
      indexLine], tilesAddress_of_tiles (by decide) vaddr⟩

/-- `walk_pt 0x80001234` on RV64 prints the indices 2, 0 and 1 and the offset `0x234`. -/
theorem walks_print_address_indices_sv39 :
    "0x80001234".toList ≠ [] ∧ pyInt 0 "0x80001234".toList = some 0x80001234 ∧
      ∃ idx offset, (Rv64.walkPageTables "0x80001234".toList)[1]? =
          some (indexText Rv64.levels "Offset=0x".toList idx offset) ∧
        TilesAddress Rv64.levels 39 0x80001234 idx offset :=
  ⟨by decide, by decide, @walks_print_address_indices (fun _ => .error []) "0x80001234".toList
    0x80001234 (by decide) (by decide) _ (List.mem_cons_self _ _)⟩

/-- A mode, an ASID and a page number printed for the value `satp` of the register that are
its fields: each between zero and its mask, and put back at their positions they give the
value; the root table's address, the page number times 4096, lies below `2 ^ bits`. -/
structure SatpFields (l : SatpLayout) (bits : Nat) (satp mode asid ppn : Int) : Prop where
  mode_mem : 0 ≤ mode ∧ mode ≤ l.mode.mask
  asid_mem : 0 ≤ asid ∧ asid ≤ l.asid.mask
  ppn_mem : 0 ≤ ppn ∧ ppn ≤ l.ppnMask
  sum_eq : mode * 2 ^ l.mode.shift + asid * 2 ^ l.asid.shift + ppn = satp
  root_lt : ppn * 4096 < 2 ^ bits

/-- A layout whose fields tile the register prints, for a value that fits it, its fields, and
the page number times 4096 as the root table's address, below `2 ^ bits` when the largest
page number's is. -/
theorem satpLines_fields (l : SatpLayout) {top bits : Nat}
    (ht : Tiles [l.mode, l.asid, ⟨0, l.ppnMask⟩] 0 top) (hb : (l.ppnMask : Int) * 4096 < 2 ^ bits)
    {satp : Int} (h0 : 0 ≤ satp) (hs : satp < 2 ^ top) :
    ∃ mode asid ppn : Int, satpLines l satp = satpText l satp mode asid ppn (ppn * 4096) ∧
      SatpFields l bits satp mode asid ppn := by
  have hm := get_mem_of_tiles ht satp
  have hp := hm ⟨0, l.ppnMask⟩ (by simp)
  have ha := assemble_add_emod ht satp
  rw [Int.pow_zero, Int.emod_one, Int.add_zero, Int.emod_eq_of_lt h0 hs] at ha
  simp only [assemble, List.map_cons, List.map_nil, List.sum_cons, List.sum_nil,
    Field.get_zero_shift, Int.pow_zero, Int.mul_one, Int.add_zero] at ha hp
  refine ⟨_, _, _, by rw [satpLines, shiftLeft_twelve],
    ⟨hm _ (by simp), hm _ (by simp), hp, by rw [Int.add_assoc]; exact ha, by omega⟩⟩

/-- For a value that fits the register, `decode_satp` prints a mode, an ASID and a page
number between zero and their masks that put back at their positions give the value, and as
the root table's address the page number times 4096, below `2 ^ 56` on RV64 and `2 ^ 34` on
RV32. -/
theorem decodeSatp_prints_fields {command : List Char} {satp : Int} (hne : command ≠ [])
    (h : pyInt 0 command = some satp) (h0 : 0 ≤ satp) :
    ∀ p ∈ [(Rv64.decodeSatp, Rv64.satpLayout, 64, 56), (Rv32.decodeSatp, Rv32.satpLayout, 32, 34)],
      satp < 2 ^ p.2.2.1 → ∃ mode asid ppn : Int,
        p.1 command = satpText p.2.1 satp mode asid ppn (ppn * 4096) ∧
          SatpFields p.2.1 p.2.2.2 satp mode asid ppn := by
  intro p hp hs
  simp only [List.mem_cons, List.mem_singleton, List.not_mem_nil, or_false] at hp
  rcases hp with rfl | rfl <;> dsimp only at hs ⊢
  · rw [Rv64.decodeSatp, addressCommand_of_pyInt hne h]
    exact satpLines_fields _ (by decide) (by decide) h0 hs
  · rw [Rv32.decodeSatp, addressCommand_of_pyInt hne h]
    exact satpLines_fields _ (by decide) (by decide) h0 hs

/-- `decode_satp 0x8000000000080000` on RV64: Sv39 with the root table at `0x80000000`. -/
theorem decodeSatp_prints_fields_sv39 :
    "0x8000000000080000".toList ≠ [] ∧
      pyInt 0 "0x8000000000080000".toList = some 0x8000000000080000 ∧
      (0 : Int) ≤ 0x8000000000080000 ∧ (0x8000000000080000 : Int) < 2 ^ 64 ∧
      ∃ mode asid ppn : Int, Rv64.decodeSatp "0x8000000000080000".toList =
          satpText Rv64.satpLayout 0x8000000000080000 mode asid ppn (ppn * 4096) ∧
        SatpFields Rv64.satpLayout 56 0x8000000000080000 mode asid ppn :=
  ⟨by decide, by decide, by decide, by decide,
    @decodeSatp_prints_fields "0x8000000000080000".toList 0x8000000000080000 (by decide)
      (by decide) (by decide) _ (List.mem_cons_self _ _) (by decide)⟩

/-- An address command reads back the address it prints in hexadecimal: for a non-negative
address, `0x` and its digits make the command print the same lines as the argument that
gave the address; the `0x-…` text of a negative address is reported invalid. -/
theorem addressCommand_heading (usage : List (List Char)) (invalid : List Char)
    (body : Int → List (List Char)) {command : List Char} {v : Int} (hne : command ≠ [])
    (h : pyInt 0 command = some v) (w : Nat) :
    addressCommand usage invalid body ('0' :: 'x' :: hexIntPad w v) =
      if 0 ≤ v then addressCommand usage invalid body command
      else [invalid ++ '0' :: 'x' :: hexIntPad w v] := by
  by_cases hv : 0 ≤ v <;> simp [addressCommand, pyInt_zero_hexIntPad, hne, h, hv]

/-- The heading of `walk_pt 4096` on RV64 reads back as `4096`. -/
theorem addressCommand_heading_rv64 :
    "4096".toList ≠ [] ∧ pyInt 0 "4096".toList = some 4096 ∧
      Rv64.walkPageTables ('0' :: 'x' :: hexIntPad 16 4096) =
        if (0 : Int) ≤ 4096 then Rv64.walkPageTables "4096".toList
        else ["Invalid address: ".toList ++ '0' :: 'x' :: hexIntPad 16 4096] :=
  ⟨by decide, by decide, addressCommand_heading _ _ _ (by decide) (by decide) 16⟩

/-! ### The entry the x86-64 walk reads -/

namespace X86

/-- The address of the PML4 entry is inside the table, eight bytes aligned. -/
private theorem entryAddr_mem (vaddr : Int) :
    pml4Base ≤ pml4Base + (⟨39, 0x1FF⟩ : Field).get vaddr * 8 ∧
      pml4Base + (⟨39, 0x1FF⟩ : Field).get vaddr * 8 + 8 ≤ pml4Base + 4096 ∧
      (pml4Base + (⟨39, 0x1FF⟩ : Field).get vaddr * 8) % 8 = 0 := by
  have hm := (⟨39, 0x1FF⟩ : Field).get_mem vaddr (w := 9) rfl
  simp only [pml4Base] at hm ⊢
  omega

/-- The physical address of an entry is 4 KiB-aligned. -/
theorem physicalAddress_mod (entry : Nat) : physicalAddress entry % 4096 = 0 := by
  rw [physicalAddress, ← Nat.and_pow_two_sub_one_eq_mod _ 12, Nat.and_assoc,
    show (0xFFFFFFFFFF000 &&& 2 ^ 12 - 1 : Nat) = 0 by decide, Nat.and_zero]

/-- Different reads of the entry print differently. -/
theorem readLines_injective (idx entryAddr : Int) : Function.Injective (readLines idx entryAddr)
  | .ok e, .ok e', h => by
    have h₁ := List.append_cancel_left (List.cons.inj h).1
    have h₂ := intHex_hexPad 16 e
    rw [h₁, intHex_hexPad, Option.some.injEq, Int.ofNat_inj] at h₂
    rw [h₂]
  | .ok _, .error _, h => by
    have h₁ := congrArg List.head? (List.cons.inj h).1
    change some '\n' = some ' ' at h₁
    exact absurd h₁ (by decide)
  | .error _, .ok _, h => by
    have h₁ := congrArg List.head? (List.cons.inj h).1
    change some ' ' = some '\n' at h₁
    exact absurd h₁ (by decide)
  | .error e, .error e', h => by rw [List.append_cancel_left (List.cons.inj h).1]

/-- For an argument it parses, the walk prints the heading and indices of the address, what
it read at the entry the address indexes, and a blank line. -/
theorem walkPageTables_of_pyInt (read : Int → Except (List Char) Nat) {command : List Char}
    {vaddr : Int} (hne : command ≠ []) (h : pyInt 0 command = some vaddr) :
    walkPageTables read command =
      walkHead "x86-64 Page Table Walk".toList 16 levels "Offset: 0x".toList vaddr ++
        readLines ((⟨39, 0x1FF⟩ : Field).get vaddr)
          (pml4Base + (⟨39, 0x1FF⟩ : Field).get vaddr * 8)
          (read (pml4Base + (⟨39, 0x1FF⟩ : Field).get vaddr * 8)) ++ [[]] := by
  rw [walkPageTables, addressCommand_of_pyInt hne h]

end X86

end PicoScripts.Debug
