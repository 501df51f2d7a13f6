import LC3.Processor
import Mathlib.Algebra.Group.Int.Defs
import Mathlib.Algebra.Group.Nat.Defs

/-! What the bits of a word mean as integers: unsigned fields, two's-complement fields, and sums
that wrap at 2^16. The instruction fields of `Word` and the sign extension of its offsets are
instances, so a statement about instructions can be read without any bit vector. -/

namespace LC3

namespace Word

/-- Bits `low` to `low + width - 1` of `w` as a number. -/
def field (w : Word) (low width : Nat) : Nat := w.toNat / 2 ^ low % 2 ^ width

/-- The low `width` bits of `w` as a two's-complement number. -/
def signed (w : Word) (width : Nat) : Int :=
  if w.field 0 width < 2 ^ (width - 1) then w.field 0 width else w.field 0 width - 2 ^ width

/-- The number below 2^16 that is congruent to `n`. -/
def wrap (n : Int) : Nat := (n % 2 ^ 16).toNat

theorem wrap_toNat (w : Word) : wrap w.toNat = w.toNat := by
  have := w.isLt
  simp only [wrap]
  omega

theorem toNat_extractLsb' (w : Word) (low width : Nat) :
    (w.extractLsb' low width).toNat = w.field low width := by
  rw [BitVec.extractLsb'_toNat, Nat.shiftRight_eq_div_pow, field]

theorem toNat_setWidth (w : Word) (width : Nat) : (w.setWidth width).toNat = w.field 0 width := by
  simp [field]

theorem toNat_upper (w : Word) : w.upper.toNat = w.field 9 3 := w.toNat_extractLsb' 9 3

theorem toNat_middle (w : Word) : w.middle.toNat = w.field 6 3 := w.toNat_extractLsb' 6 3

theorem field_opcode (w : Word) : w.field 12 4 = w.opcode.nibble.toNat := by
  rw [opcode, Opcode.nibble_ofNibble, toNat_extractLsb']

theorem opcode_eq_iff {w : Word} {op : Opcode} :
    w.opcode = op ↔ w.field 12 4 = op.nibble.toNat := by
  rw [field_opcode]
  refine ⟨fun h => by rw [h], fun h => ?_⟩
  rw [← Opcode.ofNibble_nibble w.opcode, BitVec.eq_of_toNat_eq h, Opcode.ofNibble_nibble]

theorem field_one (w : Word) (i : Nat) : w.field i 1 = 1 ↔ w.getLsbD i := by
  rw [field, BitVec.getLsbD, Nat.testBit_eq_decide_div_mod_eq]
  simp

theorem toInt_setWidth (w : Word) {width : Nat} (h : 0 < width) :
    (w.setWidth width).toInt = w.signed width := by
  have half : 2 ^ width = 2 * 2 ^ (width - 1) := by
    rw [← Nat.pow_succ', Nat.succ_eq_add_one, Nat.sub_add_cancel h]
  rw [BitVec.toInt_eq_toNat_cond, toNat_setWidth, signed]
  push_cast
  split <;> split <;> omega

/-- Adding a word and an offset is adding integers, up to wrapping. -/
theorem toNat_add_ofInt (a : Word) (n : Int) :
    (a + BitVec.ofInt 16 n).toNat = wrap (a.toNat + n) := by
  simp only [BitVec.toNat_add, BitVec.toNat_ofInt, wrap]
  omega

theorem signExtend_setWidth (w : Word) {width : Nat} (h : 0 < width) :
    (w.setWidth width).signExtend 16 = BitVec.ofInt 16 (w.signed width) := by
  rw [BitVec.signExtend, toInt_setWidth w h]

theorem toNat_add_signExtend (a w : Word) {width : Nat} (h : 0 < width) :
    (a + (w.setWidth width).signExtend 16).toNat = wrap (a.toNat + w.signed width) := by
  rw [signExtend_setWidth w h, toNat_add_ofInt]

theorem toNat_add_one (a : Word) : (a + 1).toNat = wrap (a.toNat + 1) := toNat_add_ofInt a 1

theorem toNat_add (a b : Word) : (a + b).toNat = wrap (a.toNat + b.toNat) := by
  simp only [BitVec.toNat_add, wrap]
  omega

theorem wrap_wrap (n : Int) : wrap (wrap n) = wrap n := by
  simp only [wrap]
  omega

theorem wrap_add_wrap (m n : Int) : wrap (m + wrap n) = wrap (m + n) := by
  simp only [wrap]
  omega

theorem wrap_wrap_add (m n : Int) : wrap (wrap m + n) = wrap (m + n) := by
  simp only [wrap]
  omega

/-- Counting addresses on from the next one, also past the last one. -/
theorem add_ofNat_succ (a : Word) (n : Nat) :
    a + BitVec.ofNat 16 (n + 1) = a + 1 + BitVec.ofNat 16 n := by bv_omega

theorem toNat_ofByte (b : Byte) : (ofByte b).toNat = b.toNat := by
  have : b.toNat < 2 ^ 8 := b.toBitVec.isLt
  simp only [ofByte, BitVec.toNat_setWidth, UInt8.toNat_toBitVec]
  omega

theorem toNat_low (w : Word) : w.low.toNat = w.toNat % 256 := BitVec.toNat_setWidth ..

theorem toNat_high (w : Word) : w.high.toNat = w.toNat / 256 := by
  have := w.isLt
  have high : w.high.toNat = w.toNat / 256 % 256 := w.toNat_extractLsb' 8 8
  omega

theorem toNat_ofBytes (hi lo : Byte) : (ofBytes hi lo).toNat = 256 * hi.toNat + lo.toNat := by
  rw [ofBytes, BitVec.toNat_append, ← Nat.shiftLeft_add_eq_or_of_lt lo.toBitVec.isLt,
    Nat.shiftLeft_eq, Nat.mul_comm]
  rfl

end Word

end LC3
