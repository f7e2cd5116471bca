import Mathlib.Data.Nat.Bitwise
import PicoScripts.Base.Bytes

/-!
# CRC-32

`src/script/compute_checksums.py:186-187` compute `zlib.crc32(data) & 0xFFFFFFFF` over
the `.text` and `.rodata` bytes. zlib's CRC-32 is the reflected cyclic redundancy check
with polynomial `0xEDB88320`, the register preset to all ones and complemented at the end
(spec §4.1); zlib runs it through tables, this model one bit at a time. The register is a
natural number: shifting right and xoring 32-bit constants never leave 32 bits.

The bit step is linear in xor (`crcBit_xor`) and one to one on 32-bit registers, and the
byte loop is the bit step, eight times per byte, from the register xored with the bytes
read as a little-endian number (`foldl_crcByte`). So the checksum changes whenever the data
changes in at most four consecutive bytes (`crc32_detects_short_burst`), which is what the
kernel relies on when it compares the checksums the script patches in with those of its
own `.text` and `.rodata`.
-/

namespace PicoScripts

/-- One bit of the reflected register update. -/
def crcBit (crc : Nat) : Nat := if crc % 2 = 1 then crc / 2 ^^^ 0xEDB88320 else crc / 2

/-- Feed one byte: xor it into the low bits, then eight bit steps. -/
def crcByte (crc : Nat) (b : UInt8) : Nat := crcBit^[8] (crc ^^^ b.toNat)

/-- `zlib.crc32(data)`. -/
def crc32 (data : List UInt8) : Nat := data.foldl crcByte 0xFFFFFFFF ^^^ 0xFFFFFFFF

/-- The empty input has checksum zero (spec §8, checksum determinism). -/
theorem crc32_nil : crc32 [] = 0 := by decide

private theorem crcBit_lt {c : Nat} (h : c < 2 ^ 32) : crcBit c < 2 ^ 32 := by
  unfold crcBit
  split
  · exact Nat.xor_lt_two_pow (by omega) (by decide)
  · omega

private theorem crcByte_lt {c : Nat} (b : UInt8) (h : c < 2 ^ 32) : crcByte c b < 2 ^ 32 := by
  have hx : c ^^^ b.toNat < 2 ^ 32 := Nat.xor_lt_two_pow h (by have := b.toNat_lt_size; simp only [UInt8.size] at this; omega)
  simpa only [crcByte, Function.iterate_succ_apply', Function.iterate_zero_apply] using
    crcBit_lt (crcBit_lt (crcBit_lt (crcBit_lt (crcBit_lt (crcBit_lt (crcBit_lt
      (crcBit_lt hx)))))))

/-- Every checksum is a 32-bit value. -/
theorem crc32_lt (data : List UInt8) : crc32 data < 2 ^ 32 := by
  have h : ∀ (l : List UInt8) (c : Nat), c < 2 ^ 32 → l.foldl crcByte c < 2 ^ 32 := by
    intro l
    induction l with
    | nil => exact fun _ h => h
    | cons b l ih => exact fun c h => ih _ (crcByte_lt b h)
  exact Nat.xor_lt_two_pow (h data _ (by decide)) (by decide)

/-- The script's `& 0xFFFFFFFF` does not change a checksum. -/
theorem crc32_and_mask (data : List UInt8) : crc32 data &&& 0xFFFFFFFF = crc32 data := by
  rw [show (0xFFFFFFFF : Nat) = 2 ^ 32 - 1 from rfl, Nat.and_pow_two_sub_one_eq_mod,
    Nat.mod_eq_of_lt (crc32_lt data)]

/-! ### The errors the checksum detects -/

private theorem crcBit_eq (c : Nat) : crcBit c = c / 2 ^^^ c % 2 * 0xEDB88320 := by
  unfold crcBit
  rcases Nat.mod_two_eq_zero_or_one c with h | h <;> simp [h]

/-- The bit step is linear in xor. -/
theorem crcBit_xor (a b : Nat) : crcBit (a ^^^ b) = crcBit a ^^^ crcBit b := by
  have hm : (a ^^^ b) % 2 * 0xEDB88320 = a % 2 * 0xEDB88320 ^^^ b % 2 * 0xEDB88320 := by
    rw [Nat.xor_mod_two_eq]
    rcases Nat.mod_two_eq_zero_or_one a with ha | ha <;>
      rcases Nat.mod_two_eq_zero_or_one b with hb | hb <;> simp [ha, hb, Nat.add_mod]
  rw [crcBit_eq, crcBit_eq, crcBit_eq, Nat.xor_div_two, hm]
  ac_rfl

theorem iterate_crcBit_xor (n a b : Nat) :
    crcBit^[n] (a ^^^ b) = crcBit^[n] a ^^^ crcBit^[n] b := by
  induction n with
  | zero => rfl
  | succ n ih => simp only [Function.iterate_succ_apply', ih, crcBit_xor]

/-- A register whose low `n` bits are clear only moves down through `n` bit steps. -/
theorem iterate_crcBit_two_pow_mul (n x : Nat) : crcBit^[n] (2 ^ n * x) = x := by
  induction n generalizing x with
  | zero => simp
  | succ n ih =>
    have h : crcBit (2 * (2 ^ n * x)) = 2 ^ n * x := by simp [crcBit]
    rw [Function.iterate_succ_apply, Nat.pow_succ, Nat.mul_comm (2 ^ n) 2, Nat.mul_assoc, h, ih]

private theorem iterate_crcBit_lt : ∀ (n : Nat) {c : Nat}, c < 2 ^ 32 → crcBit^[n] c < 2 ^ 32
  | 0, _, h => h
  | n + 1, _, h => iterate_crcBit_lt n (crcBit_lt h)

private theorem crcBit_eq_zero {c : Nat} (h : c < 2 ^ 32) (h0 : crcBit c = 0) : c = 0 := by
  unfold crcBit at h0
  split at h0
  · have := Nat.xor_eq_zero.mp h0
    omega
  · omega

private theorem iterate_crcBit_eq_zero : ∀ (n : Nat) {c : Nat}, c < 2 ^ 32 → crcBit^[n] c = 0 → c = 0
  | 0, _, _, h => h
  | n + 1, _, hc, h => crcBit_eq_zero hc (iterate_crcBit_eq_zero n (crcBit_lt hc) h)

/-- The bit steps are one to one on 32-bit registers. -/
theorem iterate_crcBit_injective (n : Nat) {a b : Nat} (ha : a < 2 ^ 32) (hb : b < 2 ^ 32)
    (h : crcBit^[n] a = crcBit^[n] b) : a = b := by
  have hx : crcBit^[n] (a ^^^ b) = 0 := by rw [iterate_crcBit_xor, h, Nat.xor_self]
  exact Nat.xor_eq_zero.mp (iterate_crcBit_eq_zero n (Nat.xor_lt_two_pow ha hb) hx)

private theorem leValue_lt (e : List UInt8) : leValue e < 2 ^ (8 * e.length) := by
  induction e with
  | nil => simp [leValue]
  | cons b e ih =>
    have hb := b.toNat_lt_size
    have hp : 2 ^ (8 * (e.length + 1)) = 256 * 2 ^ (8 * e.length) := by
      rw [Nat.mul_succ, Nat.pow_add, Nat.mul_comm]
    simp only [leValue, List.length_cons, hp, UInt8.size] at hb ⊢
    omega

private theorem leValue_inj : ∀ {w w' : List UInt8}, w.length = w'.length →
    leValue w = leValue w' → w = w'
  | [], [], _, _ => rfl
  | b :: w, b' :: w', hl, h => by
    have hb := b.toNat_lt_size
    have hb' := b'.toNat_lt_size
    simp only [leValue, UInt8.size] at h hb hb'
    have hv : leValue w = leValue w' := by omega
    rw [UInt8.toNat.inj (by omega : b.toNat = b'.toNat), leValue_inj (Nat.succ.inj hl) hv]

private theorem add_mul_eq_xor {b : Nat} (hb : b < 2 ^ 8) (v : Nat) :
    b + 256 * v = b ^^^ 2 ^ 8 * v := by
  apply Nat.eq_of_testBit_eq
  intro i
  rw [Nat.add_comm, show (256 : Nat) = 2 ^ 8 from rfl, Nat.testBit_mul_pow_two_add _ hb,
    Nat.testBit_xor, Nat.testBit_mul_pow_two]
  by_cases hi : i < 8
  · simp [hi, Nat.not_le_of_lt hi]
  · have hbi : b.testBit i = false :=
      Nat.testBit_lt_two_pow (lt_of_lt_of_le hb (Nat.pow_le_pow_right Nat.zero_lt_two (by omega)))
    simp [hi, hbi, Nat.le_of_not_lt hi]

/-- The byte loop is the bit step, eight times per byte, from the register xored with the
bytes read as a little-endian number. -/
theorem foldl_crcByte (c : Nat) (e : List UInt8) :
    e.foldl crcByte c = crcBit^[8 * e.length] (c ^^^ leValue e) := by
  induction e generalizing c with
  | nil => simp [leValue]
  | cons b e ih =>
    have hb : b.toNat < 2 ^ 8 := b.toNat_lt_size
    rw [List.foldl_cons, ih, List.length_cons, Nat.mul_succ, Function.iterate_add_apply, leValue,
      add_mul_eq_xor hb, ← Nat.xor_assoc, iterate_crcBit_xor 8, iterate_crcBit_two_pow_mul]
    rfl

private theorem foldl_crcByte_injective : ∀ (post : List UInt8) {s s' : Nat}, s < 2 ^ 32 →
    s' < 2 ^ 32 → post.foldl crcByte s = post.foldl crcByte s' → s = s'
  | [], _, _, _, _, h => h
  | b :: post, s, s', hs, hs', h => by
    have hb : b.toNat < 2 ^ 32 := by have := b.toNat_lt_size; simp only [UInt8.size] at this; omega
    rw [List.foldl_cons, List.foldl_cons] at h
    have := foldl_crcByte_injective post (crcByte_lt b hs) (crcByte_lt b hs') h
    exact Nat.xor_left_inj.mp
      (iterate_crcBit_injective 8 (Nat.xor_lt_two_pow hs hb) (Nat.xor_lt_two_pow hs' hb) this)

/-- Two inputs that differ only in at most four consecutive bytes have different
checksums. -/
theorem crc32_detects_short_burst (pre w w' post : List UInt8) (hlen : w.length = w'.length)
    (h4 : w.length ≤ 4) (hne : w ≠ w') : crc32 (pre ++ w ++ post) ≠ crc32 (pre ++ w' ++ post) := by
  intro h
  simp only [crc32, Nat.xor_left_inj, List.foldl_append] at h
  have hc : pre.foldl crcByte 0xFFFFFFFF < 2 ^ 32 := by
    rw [← Nat.xor_cancel_right 0xFFFFFFFF (pre.foldl crcByte 0xFFFFFFFF)]
    exact Nat.xor_lt_two_pow (crc32_lt pre) (by decide)
  have hw : ∀ v : List UInt8, v.length ≤ 4 → pre.foldl crcByte 0xFFFFFFFF ^^^ leValue v < 2 ^ 32 :=
    fun v hv => Nat.xor_lt_two_pow hc
      (lt_of_lt_of_le (leValue_lt v) (Nat.pow_le_pow_right Nat.zero_lt_two (by omega)))
  rw [foldl_crcByte _ w, foldl_crcByte _ w'] at h
  have hs := foldl_crcByte_injective post (iterate_crcBit_lt _ (hw w h4))
    (iterate_crcBit_lt _ (hw w' (hlen ▸ h4))) h
  rw [hlen] at hs
  exact hne (leValue_inj hlen (Nat.xor_right_inj.mp
    (iterate_crcBit_injective _ (hw w h4) (hw w' (hlen ▸ h4)) hs)))

/-- A single byte changed from `0` to `1` changes the checksum. -/
theorem crc32_detects_short_burst_one_byte :
    [(0 : UInt8)].length = [(1 : UInt8)].length ∧ [(0 : UInt8)].length ≤ 4 ∧
      [(0 : UInt8)] ≠ [1] ∧ crc32 ([] ++ [0] ++ []) ≠ crc32 ([] ++ [1] ++ []) :=
  ⟨rfl, by decide, by decide, crc32_detects_short_burst [] [0] [1] [] rfl (by decide) (by decide)⟩

end PicoScripts
