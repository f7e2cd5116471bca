import Mathlib.Data.List.GetD
import Mathlib.Data.UInt

/-!
# Byte buffers and `struct.pack_into('<I', ...)`

`src/script/compute_checksums.py:121-122,141-142` write each checksum with
`struct.pack_into('<I', data, offset, value)` into the `bytearray` read from the image.
CPython `Modules/_struct.c` (`s_pack_into`) resolves a negative offset against the
buffer's end, checks the four bytes' room, then the value's range, and writes only after
all checks; every failure raises `struct.error` and leaves the buffer as it was.
Integers are unbounded here: CPython raises `IndexError` for an offset that does not fit
`Py_ssize_t`, which the scripts do not catch either.
-/

namespace PicoScripts

/-- The Python exceptions the scripts raise and do not catch. -/
inductive PyError
  | valueError
  | structError
  deriving DecidableEq, Repr

section Except

variable {ε α β : Type}

@[simp] theorem except_pure (a : α) : (pure a : Except ε α) = Except.ok a := rfl

@[simp] theorem except_ok_bind (a : α) (f : α → Except ε β) : (Except.ok a >>= f) = f a := rfl

@[simp] theorem except_error_bind (e : ε) (f : α → Except ε β) :
    (Except.error e >>= f) = Except.error e := rfl

end Except

/-- Overwrite the bytes from index `o` on; indices past the end are dropped. -/
def writeBytes : List UInt8 → Nat → List UInt8 → List UInt8
  | d, _, [] => d
  | d, o, b :: bs => writeBytes (d.set o b) (o + 1) bs

/-- The four bytes of `'<I'`, least significant first. -/
def leBytes (v : Nat) : List UInt8 :=
  [UInt8.ofNat v, UInt8.ofNat (v / 256), UInt8.ofNat (v / 65536), UInt8.ofNat (v / 16777216)]

/-- Little-endian value of a byte list. -/
def leValue : List UInt8 → Nat
  | [] => 0
  | b :: bs => b.toNat + 256 * leValue bs

/-- CPython `struct.pack_into('<I', buf, offset, v)`. -/
def packInto (buf : List UInt8) (offset : Int) (v : Nat) : Except PyError (List UInt8) :=
  if offset < 0 ∧ (0 < offset + 4 ∨ offset + buf.length < 0) then .error .structError
  else
    let start := if offset < 0 then offset + buf.length else offset
    if (buf.length : Int) - start < 4 then .error .structError
    else if 2 ^ 32 ≤ v then .error .structError
    else .ok (writeBytes buf start.toNat (leBytes v))

/-- CPython `struct.unpack_from('<I', buf, offset)` at a non-negative offset. -/
def unpackFrom (buf : List UInt8) (offset : Nat) : Option Nat :=
  if offset + 4 ≤ buf.length then some (leValue ((buf.drop offset).take 4)) else none

@[simp] theorem length_leBytes (v : Nat) : (leBytes v).length = 4 := rfl

private theorem toNat_uint8OfNat (n : Nat) : (UInt8.ofNat n).toNat = n % 256 := rfl

theorem leValue_leBytes {v : Nat} (h : v < 2 ^ 32) : leValue (leBytes v) = v := by
  simp only [leBytes, leValue, toNat_uint8OfNat]
  omega

@[simp] theorem length_writeBytes :
    ∀ (d : List UInt8) (o : Nat) (bs : List UInt8), (writeBytes d o bs).length = d.length
  | _, _, [] => rfl
  | d, o, _ :: bs => by rw [writeBytes, length_writeBytes _ _ bs, List.length_set]

/-- A write inside the buffer replaces exactly its window. -/
theorem getElem?_writeBytes :
    ∀ (d : List UInt8) (o : Nat) (bs : List UInt8) (i : Nat), o + bs.length ≤ d.length →
      (writeBytes d o bs)[i]? = if o ≤ i ∧ i < o + bs.length then bs[i - o]? else d[i]?
  | d, o, [], i, _ => by rw [if_neg (by simp only [List.length_nil]; omega)]; rfl
  | d, o, b :: bs, i, h => by
    simp only [List.length_cons] at h ⊢
    rw [writeBytes, getElem?_writeBytes _ _ bs i (by rw [List.length_set]; omega),
      List.getElem?_set]
    rcases Nat.lt_trichotomy i o with hi | rfl | hi
    · rw [if_neg (by omega), if_neg (by omega), if_neg (by omega)]
    · rw [if_neg (by omega), if_pos rfl, if_pos (by omega), if_pos (by omega)]; simp
    · by_cases hw : i < o + 1 + bs.length
      · rw [if_pos (by omega), if_pos (by omega)]
        obtain ⟨k, rfl⟩ : ∃ k, i = o + 1 + k := ⟨i - (o + 1), by omega⟩
        simp [show o + 1 + k - o = k + 1 by omega]
      · rw [if_neg (by omega), if_neg (by omega), if_neg (by omega)]

/-- At a non-negative offset `pack_into` fails exactly when the word does not fit or the
value is out of range. -/
theorem packInto_natCast (buf : List UInt8) (o v : Nat) :
    packInto buf o v =
      if buf.length < o + 4 ∨ 2 ^ 32 ≤ v then .error .structError
      else .ok (writeBytes buf o (leBytes v)) := by
  have hn : ¬ (o : Int) < 0 := by omega
  simp only [packInto, hn, false_and, if_false, Int.toNat_ofNat]
  by_cases h1 : buf.length < o + 4
  · rw [if_pos (by omega), if_pos (.inl h1)]
  · rw [if_neg (by omega)]
    by_cases h2 : 2 ^ 32 ≤ v
    · rw [if_pos h2, if_pos (.inr h2)]
    · rw [if_neg h2, if_neg (by omega)]

/-- `unpack_from` reads back a word whose four bytes are in place. -/
theorem unpackFrom_of_getElem? {buf : List UInt8} {o v : Nat} (hv : v < 2 ^ 32)
    (h : ∀ j < 4, buf[o + j]? = (leBytes v)[j]?) : unpackFrom buf o = some v := by
  have hl : o + 4 ≤ buf.length := by
    have h3 := h 3 (by decide)
    by_contra hc
    rw [List.getElem?_eq_none (by omega)] at h3
    simp [leBytes] at h3
  have hw : (buf.drop o).take 4 = leBytes v := by
    apply List.ext_getElem?
    intro i
    rw [List.getElem?_take, List.getElem?_drop]
    by_cases hi : i < 4
    · simp [hi, h i hi]
    · simp [hi]; omega
  simp [unpackFrom, hl, hw, leValue_leBytes hv]

end PicoScripts
