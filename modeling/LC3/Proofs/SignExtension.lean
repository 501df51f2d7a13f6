import LC3.Proofs.Bits

/-! Sign extension by masks: the low bits of a word beside the negation of its sign bit. Bit by bit
this repeats the sign bit upward, at every width, and so it is the two's-complement value of the low
bits in a whole word. The processor widens its narrow fields to the same words. -/

namespace LC3

namespace Word

/-- A power of two, negated, is all the bits from its own on. -/
theorem getLsbD_neg_shiftLeft {k i : Nat} (inside : i < 16) :
    (-(1#16 <<< k)).getLsbD i = decide (k ≤ i) := by
  rw [← BitVec.shiftLeft_neg, BitVec.neg_one_eq_allOnes, BitVec.getLsbD_shiftLeft,
    BitVec.getLsbD_allOnes]
  grind

theorem getLsbD_mask {bits i : Nat} (inside : i < 16) :
    (1#16 <<< bits - 1#16).getLsbD i = decide (i < bits) := by
  rw [← BitVec.not_neg, BitVec.getLsbD_not, getLsbD_neg_shiftLeft inside]
  grind

/-- Negating the sign bit alone copies it to all bits from its own on. -/
theorem getLsbD_negated_sign (w : Word) {k i : Nat} (inside : i < 16) :
    (~~~(w &&& 1#16 <<< k) + 1#16).getLsbD i = (w.getLsbD k && decide (k ≤ i)) := by
  rw [← BitVec.neg_eq_not_add, ← BitVec.twoPow_eq, BitVec.and_twoPow]
  split
  next set => rw [BitVec.twoPow_eq, getLsbD_neg_shiftLeft inside, set, Bool.true_and]
  next clear => simp [clear]

theorem field_eq_field_iff {v w : Word} {bits : Nat} :
    v.field 0 bits = w.field 0 bits ↔ v.setWidth bits = w.setWidth bits := by
  rw [← toNat_setWidth, ← toNat_setWidth, BitVec.toNat_inj]

section Width

variable (w : Word) {bits : Nat} (pos : 0 < bits)
include pos

/-- Below the sign bit a word is as it was, and from there on the sign bit is repeated. -/
theorem getLsbD_signExtend {i : Nat} (inside : i < 16) :
    (w.signExtend bits).getLsbD i = w.getLsbD (min i (bits - 1)) := by
  rw [signExtend, BitVec.getLsbD_or, BitVec.getLsbD_and, getLsbD_mask inside,
    getLsbD_negated_sign w inside]
  by_cases low : i < bits
  · -- the sign bit itself is in both parts
    rw [Nat.min_eq_left (by omega)]
    grind
  · rw [Nat.min_eq_right (by omega)]
    grind

/-- The masks do what widening a field of that many bits does. -/
theorem signExtend_eq : w.signExtend bits = (w.setWidth bits).signExtend 16 := by
  refine BitVec.eq_of_getLsbD_eq fun i inside => ?_
  rw [getLsbD_signExtend w pos inside, BitVec.getLsbD_signExtend, BitVec.getLsbD_setWidth,
    BitVec.msb_setWidth]
  grind

theorem toInt_signExtend (short : bits < 16) : (w.signExtend bits).toInt = w.signed bits := by
  rw [signExtend_eq w pos, BitVec.toInt_signExtend_of_le (Nat.le_of_lt short),
    toInt_setWidth w pos]

theorem setWidth_signExtend (short : bits < 16) :
    (w.signExtend bits).setWidth bits = w.setWidth bits := by
  refine BitVec.eq_of_getLsbD_eq fun i low => ?_
  rw [BitVec.getLsbD_setWidth, BitVec.getLsbD_setWidth,
    getLsbD_signExtend w pos (Nat.lt_trans low short), Nat.min_eq_left (by omega)]

theorem signExtend_eq_iff {v : Word} (short : bits < 16) :
    v.signExtend bits = w.signExtend bits ↔ v.field 0 bits = w.field 0 bits := by
  rw [field_eq_field_iff]
  constructor
  · intro same
    rw [← setWidth_signExtend v pos short, same, setWidth_signExtend w pos short]
  · intro same
    rw [signExtend_eq v pos, same, signExtend_eq w pos]

theorem signExtend_signExtend {wider : Nat} (h : bits ≤ wider) :
    (w.signExtend bits).signExtend wider = w.signExtend bits := by
  refine BitVec.eq_of_getLsbD_eq fun i inside => ?_
  rw [getLsbD_signExtend _ (Nat.lt_of_lt_of_le pos h) inside, getLsbD_signExtend w pos (by omega),
    getLsbD_signExtend w pos inside]
  congr 1
  omega

theorem field_signExtend (short : bits < 16) :
    (w.signExtend bits).field 0 bits = w.field 0 bits :=
  field_eq_field_iff.2 (setWidth_signExtend w pos short)

theorem add_signExtend_of_neg (a : Word) {n : Nat} (negative : w.signed bits = -n) :
    a + w.signExtend bits = a - BitVec.ofNat 16 n := by
  rw [signExtend_eq w pos, signExtend_setWidth w pos, negative, BitVec.ofInt_neg,
    BitVec.ofInt_natCast, BitVec.sub_eq_add_neg]

theorem near_setWidth (cpu : Processor) :
    cpu.near (w.setWidth bits) = cpu.regs.pc + w.signExtend bits := by
  rw [Processor.near, signExtend_eq w pos]

/-- Extended from its low bits, a word is their two's-complement value in sixteen bits. The bits
above do not count and the low ones stay as they are, so to extend again at that width or a larger
one changes nothing. Added to an address it counts as an integer, up to wrapping: a negative one is
subtracted. The processor's fields are widened to just these words. -/
theorem extended_from_low_bits (short : bits < 16) :
    (w.signExtend bits).toInt = w.signed bits ∧
    (∀ v : Word, v.signExtend bits = w.signExtend bits ↔ v.field 0 bits = w.field 0 bits) ∧
    (w.signExtend bits).field 0 bits = w.field 0 bits ∧
    (∀ wider, bits ≤ wider → (w.signExtend bits).signExtend wider = w.signExtend bits) ∧
    (∀ a : Word, (a + w.signExtend bits).toNat = wrap (a.toNat + w.signed bits)) ∧
    (∀ (a : Word) (n : Nat), w.signed bits = -n →
      a + w.signExtend bits = a - BitVec.ofNat 16 n) ∧
    (w.setWidth bits).signExtend 16 = w.signExtend bits ∧
    ∀ cpu : Processor, cpu.near (w.setWidth bits) = cpu.regs.pc + w.signExtend bits := by
  have widened := signExtend_eq w pos
  refine ⟨toInt_signExtend w pos short, fun v => signExtend_eq_iff w pos short,
    field_signExtend w pos short, fun wider h => signExtend_signExtend w pos h, fun a => ?_,
    fun a n negative => add_signExtend_of_neg w pos a negative, widened.symm, near_setWidth w pos⟩
  rw [widened, toNat_add_signExtend a w pos]

end Width

/-- The offset of `BRnz #-2`, also in `LD R0, #-2`, leads back past the first address. -/
theorem extended_from_low_bits_backTwo :
    0 < 9 ∧ 9 < 16 ∧ (signExtend 0x0DFE 9).toInt = -2 ∧
      signExtend 0x21FE 9 = signExtend 0x0DFE 9 ∧
      (signExtend 0x0DFE 9).signExtend 11 = signExtend 0x0DFE 9 ∧
      1 + signExtend 0x0DFE 9 = 1 - 2 ∧ (1 + signExtend 0x0DFE 9).toNat = 0xFFFF := by
  obtain ⟨value, same, -, again, sum, back, -⟩ :=
    extended_from_low_bits 0x0DFE (show 0 < 9 by decide) (by decide)
  exact ⟨by decide, by decide, value, (same 0x21FE).2 rfl, again 11 (by decide), back 1 2 rfl,
    sum 1⟩

/-- In a single bit, one is minus one. -/
example : signExtend 0x0001 1 = 0xFFFF := by decide

end Word

end LC3
