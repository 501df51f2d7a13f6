import LC3.Proofs.Bits
import Mathlib.Data.List.Forall2

/-! Which bits of a word its instruction is read from, and which instructions there are. Each format
defines some of the bits and leaves the others alone: words decode to the same instruction just if
they agree on all that the first defines, and what they decode to is every instruction whose fields
fit its format. -/

namespace LC3

namespace Isa

open Word

/-- Bit `i` of `w` belongs to its opcode or to what the format of `w` defines besides. -/
def Defined (w : Word) (i : Nat) : Prop :=
  12 ≤ i ∨
    match w.field 12 4 with
    -- ADD and AND: bit 5 tells an immediate from a register
    | 0x1 | 0x5 => 5 ≤ i ∨ w.field 5 1 = 1 ∨ i < 3
    -- JSR: bit 11 tells an offset from a register
    | 0x4 => i = 11 ∨ w.field 11 1 = 1 ∨ 6 ≤ i ∧ i < 9
    -- RTI and the reserved opcode
    | 0x8 | 0xD => False
    -- NOT
    | 0x9 => 6 ≤ i
    -- JMP
    | 0xC => 6 ≤ i ∧ i < 9
    -- TRAP
    | 0xF => i < 8
    | _ => True

/-- Words that agree where both are defined are defined in the same places. -/
theorem defined_congr {w w' : Word}
    (agree : ∀ i < 16, Defined w i → Defined w' i → w.getLsbD i = w'.getLsbD i) (i : Nat) :
    Defined w i ↔ Defined w' i := by
  have opcode : w.field 12 4 = w'.field 12 4 := by
    rw [← toNat_extractLsb', ← toNat_extractLsb']
    refine congrArg BitVec.toNat (BitVec.eq_of_getLsbD_eq fun j hj => ?_)
    rw [BitVec.getLsbD_extractLsb', BitVec.getLsbD_extractLsb',
      agree (12 + j) (by omega) (.inl (by omega)) (.inl (by omega))]
  have selector {j : Nat} (short : j < 16) (here : Defined w j) (there : Defined w' j) :
      w.field j 1 = 1 ↔ w'.field j 1 = 1 := by
    rw [field_one, field_one, agree j short here there]
  have arithmetic (op : w.field 12 4 = 0x1 ∨ w.field 12 4 = 0x5) :
      w.field 5 1 = 1 ↔ w'.field 5 1 = 1 := by
    apply selector (by decide)
    · obtain op | op := op <;> simp [Defined, op]
    · obtain op | op := op <;> simp [Defined, ← opcode, op]
  have call (op : w.field 12 4 = 0x4) : w.field 11 1 = 1 ↔ w'.field 11 1 = 1 := by
    apply selector (by decide)
    · simp [Defined, op]
    · simp [Defined, ← opcode, op]
  unfold Defined
  rw [← opcode]
  split
  next op => rw [arithmetic (.inl op)]
  next op => rw [arithmetic (.inr op)]
  next op => rw [call op]
  all_goals exact Iff.rfl

end Isa

namespace Instruction
open Word

theorem opcode_encode (i : Instruction) : (encode i).opcode = i.opcode := by
  have nibble : (encode i).extractLsb' 12 4 = i.opcode.nibble := BitVec.extractLsb'_append_eq_left
  rw [Word.opcode, nibble, Opcode.ofNibble_nibble]

theorem setWidth_append_of_le {k n m : Nat} (h : k ≤ m) (x : BitVec n) (y : BitVec m) :
    (x ++ y).setWidth k = y.setWidth k := by
  rw [BitVec.setWidth_append, dif_pos h]

section Encode

variable (i : Instruction)

theorem upper_encode : (encode i).upper = i.fields.extractLsb' 9 3 :=
  BitVec.extractLsb'_append_eq_of_add_le (by decide)

theorem middle_encode : (encode i).middle = i.fields.extractLsb' 6 3 :=
  BitVec.extractLsb'_append_eq_of_add_le (by decide)

theorem setWidth_encode {k : Nat} (h : k ≤ 12) : (encode i).setWidth k = i.fields.setWidth k :=
  setWidth_append_of_le h _ _

theorem getLsbD_encode {k : Nat} (h : k < 12) : (encode i).getLsbD k = i.fields.getLsbD k := by
  rw [encode, BitVec.getLsbD_append, if_pos h]

end Encode

section Fields

variable (x y : BitVec 3)

theorem upper_two (z : BitVec 9) : (x ++ z).extractLsb' 9 3 = x :=
  BitVec.extractLsb'_append_eq_left

theorem upper_three (z : BitVec 6) : (x ++ y ++ z).extractLsb' 9 3 = x := by
  rw [BitVec.extractLsb'_append_eq_of_le (by decide)]
  exact BitVec.extractLsb'_append_eq_left

theorem middle_three (z : BitVec 6) : (x ++ y ++ z).extractLsb' 6 3 = y := by
  rw [BitVec.extractLsb'_append_eq_of_le (by decide)]
  exact BitVec.extractLsb'_append_eq_right

end Fields

/-- Bit 5 tells an immediate from a register. -/
theorem operand_encode {i : Instruction} {x y : BitVec 3} {o : Operand}
    (h : i.fields = x ++ y ++ fields.operandField o) : (encode i).operand = o := by
  have selector : (encode i).getLsbD 5 = (fields.operandField o).getLsbD 5 := by
    rw [i.getLsbD_encode (by decide), h, BitVec.getLsbD_append, if_pos (by decide)]
  have low {k : Nat} (short : k ≤ 6) :
      (encode i).setWidth k = (fields.operandField o).setWidth k := by
    rw [i.setWidth_encode (by omega), h, setWidth_append_of_le short]
  rw [Word.operand, selector, low (by decide), low (by decide)]
  cases o with
  | reg r =>
    have clear : (0#3 ++ r).getLsbD 5 = false := by
      rw [BitVec.getLsbD_append, if_neg (by decide)]
      rfl
    rw [fields.operandField, clear, BitVec.setWidth_append_eq_right]
    rfl
  | imm value =>
    have set : (1#1 ++ value).getLsbD 5 = true := by
      rw [BitVec.getLsbD_append, if_neg (by decide)]
      rfl
    rw [fields.operandField, set, BitVec.setWidth_append_eq_right]
    rfl

/-- Bit 11 tells a distance from a register. -/
theorem jumpTarget_encode (target : JumpTarget) :
    (encode (.jsr target)).jumpTarget = target := by
  rw [Word.jumpTarget, getLsbD_encode _ (by decide), setWidth_encode _ (by decide), middle_encode]
  cases target with
  | offset distance =>
    have set : (1#1 ++ distance).getLsbD 11 = true := by
      rw [BitVec.getLsbD_append, if_neg (by decide)]
      rfl
    rw [fields, set, BitVec.setWidth_append_eq_right]
    rfl
  | reg r =>
    have clear : (0#3 ++ r ++ 0#6).getLsbD 11 = false := by
      rw [BitVec.getLsbD_append, if_neg (by decide), BitVec.getLsbD_append, if_neg (by decide)]
      rfl
    rw [fields, clear, middle_three]
    rfl

theorem decode_encode (i : Instruction) : decode (encode i) = i := by
  rw [decode, opcode_encode]
  cases i with
  | br | ld | st | ldi | sti | lea =>
    simp only [opcode, upper_encode, setWidth_encode, fields, upper_two,
      BitVec.setWidth_append_eq_right, Nat.reduceLeDiff]
  | ldr | str =>
    simp only [opcode, upper_encode, middle_encode, setWidth_encode, fields, upper_three,
      middle_three, BitVec.setWidth_append_eq_right, Nat.reduceLeDiff]
  | not | jmp =>
    simp only [opcode, upper_encode, middle_encode, fields, upper_three, middle_three]
  | rti | reserved => rfl
  | trap vector =>
    simp only [opcode, setWidth_encode, fields, BitVec.setWidth_append_eq_right, Nat.reduceLeDiff]
  | add dst src operand =>
    have second : (encode (.add dst src operand)).operand = operand := operand_encode rfl
    simp only [opcode, upper_encode, middle_encode, second, fields, upper_three, middle_three]
  | and dst src operand =>
    have second : (encode (.and dst src operand)).operand = operand := operand_encode rfl
    simp only [opcode, upper_encode, middle_encode, second, fields, upper_three, middle_three]
  | jsr target => simp only [opcode, jumpTarget_encode]

open Isa (Defined)

theorem getLsbD_operandField (w : Word) {i : Nat} (low : i < 6) :
    (fields.operandField w.operand).getLsbD i = true ↔
      (i = 5 ∨ w.field 5 1 = 1 ∨ i < 3) ∧ w.getLsbD i = true := by
  rw [Word.operand, field_one]
  split <;> simp only [fields.operandField, BitVec.getLsbD_append, BitVec.getLsbD_setWidth] <;>
    grind

theorem getLsbD_jumpTarget (w : Word) {i : Nat} (low : i < 12) :
    (Instruction.jsr w.jumpTarget).fields.getLsbD i = true ↔
      (i = 11 ∨ w.field 11 1 = 1 ∨ 6 ≤ i ∧ i < 9) ∧ w.getLsbD i = true := by
  rw [Word.jumpTarget, field_one]
  split <;> simp only [fields, BitVec.getLsbD_append, middle, BitVec.getLsbD_setWidth,
    BitVec.getLsbD_extractLsb'] <;> grind

/-- The fields of a word that was decoded are its defined bits, with zeros between them. -/
theorem getLsbD_fields_decode (w : Word) {i : Nat} (low : i < 12) :
    (decode w).fields.getLsbD i = true ↔ Defined w i ∧ w.getLsbD i = true := by
  have op := w.field_opcode
  unfold decode
  cases hop : w.opcode <;> rw [hop] at op <;> simp only [Defined, op, Opcode.nibble]
  case br | ld | st | ldi | sti | lea =>
    simp only [fields, BitVec.getLsbD_append, upper, BitVec.getLsbD_setWidth,
      BitVec.getLsbD_extractLsb']
    grind
  case ldr | str | not | jmp | trap | rti | reserved =>
    simp only [fields, BitVec.getLsbD_append, upper, middle, BitVec.getLsbD_setWidth,
      BitVec.getLsbD_extractLsb']
    grind
  case jsr =>
    have target := getLsbD_jumpTarget w low
    grind
  case add | and =>
    have second {i : Nat} (low : i < 6) := getLsbD_operandField w low
    simp only [fields, BitVec.getLsbD_append, upper, middle, BitVec.getLsbD_extractLsb']
    grind

theorem getLsbD_encode_decode (w : Word) {i : Nat} (short : i < 16) :
    (encode (decode w)).getLsbD i = true ↔ Defined w i ∧ w.getLsbD i = true := by
  by_cases low : i < 12
  · rw [getLsbD_encode _ low, getLsbD_fields_decode w low]
  · have opcode : (encode (decode w)).getLsbD i = w.getLsbD i := by
      rw [encode, opcode_decode, Word.opcode, Opcode.nibble_ofNibble, BitVec.getLsbD_append,
        if_neg low, BitVec.getLsbD_extractLsb']
      simp [show i - 12 < 4 by omega, show 12 + (i - 12) = i by omega]
    have defined : Defined w i := .inl (by omega)
    rw [opcode, and_iff_right defined]

theorem decode_eq_decode_iff {w w' : Word} :
    decode w = decode w' ↔ ∀ i < 16, Defined w i → w.getLsbD i = w'.getLsbD i := by
  constructor
  · intro same i short here
    have agree (i : Nat) (short : i < 16) (here : Defined w i) (there : Defined w' i) :
        w.getLsbD i = w'.getLsbD i := by
      have left := getLsbD_encode_decode w short
      have right := getLsbD_encode_decode w' short
      rw [and_iff_right here] at left
      rw [← same, and_iff_right there] at right
      exact Bool.eq_iff_iff.2 (left.symm.trans right)
    exact agree i short here ((Isa.defined_congr agree i).1 here)
  · intro agree
    have defined := Isa.defined_congr fun i short here _ => agree i short here
    refine Function.LeftInverse.injective decode_encode (BitVec.eq_of_getLsbD_eq fun i short => ?_)
    rw [Bool.eq_iff_iff, getLsbD_encode_decode w short, getLsbD_encode_decode w' short, ← defined]
    exact and_congr_right fun here => by rw [agree i short here]

end Instruction

namespace Isa

/-- A field as an instruction hands it on: a number, or an offset or immediate in sixteen bits. -/
inductive Part where
  | number (n : Nat)
  | signed (value : Word)

/-- What a format has room for in one place. -/
inductive Room where
  | number (width : Nat)
  | signed (width : Nat)

/-- A number in so many bits, or a two's-complement number in so many. -/
def Room.Fits : Room → Part → Prop
  | .number width, .number n => n < 2 ^ width
  | .signed width, .signed v => -2 ^ (width - 1) ≤ v.toInt ∧ v.toInt < 2 ^ (width - 1)
  | _, _ => False

/-- The formats of an opcode: two of them where a bit tells a register from a value. -/
def formats : Opcode → List (List Room)
  | .br | .ld | .st | .ldi | .sti | .lea => [[.number 3, .signed 9]]
  | .add | .and => [[.number 3, .number 3, .number 3], [.number 3, .number 3, .signed 5]]
  | .jsr => [[.signed 11], [.number 3]]
  | .ldr | .str => [[.number 3, .number 3, .signed 6]]
  | .rti | .reserved => [[]]
  | .not => [[.number 3, .number 3]]
  | .jmp => [[.number 3]]
  | .trap => [[.number 8]]

def WellFormed (op : Opcode) (parts : List Part) : Prop :=
  ∃ format ∈ formats op, List.Forall₂ Room.Fits format parts

namespace Part

variable {width : Nat} (x y : BitVec width)

def plain : Part := .number x.toNat

def widened : Part := .signed (x.signExtend 16)

theorem plain_inj : plain x = plain y ↔ x = y := by
  rw [plain, plain, Part.number.injEq, BitVec.toNat_inj]

theorem widened_inj (short : width ≤ 16) : widened x = widened y ↔ x = y := by
  rw [widened, widened, Part.signed.injEq, ← BitVec.toInt_inj, ← BitVec.toInt_inj,
    BitVec.toInt_signExtend_of_le short, BitVec.toInt_signExtend_of_le short]

theorem plain_ne_widened {width' : Nat} (z : BitVec width') : plain x ≠ widened z := nofun

end Part

theorem number_fits {width : Nat} {p : Part} :
    (Room.number width).Fits p ↔ ∃ x : BitVec width, p = .plain x := by
  constructor
  · intro fits
    cases p with
    | number n => exact ⟨.ofNatLT n fits, rfl⟩
    | signed => exact fits.elim
  · rintro ⟨x, rfl⟩
    exact x.isLt

theorem signed_fits {width : Nat} (pos : 0 < width) (short : width ≤ 16) {p : Part} :
    (Room.signed width).Fits p ↔ ∃ x : BitVec width, p = .widened x := by
  constructor
  · intro fits
    cases p with
    | number => exact fits.elim
    | signed v =>
      obtain ⟨least, most⟩ := fits
      refine ⟨.ofInt width v.toInt, congrArg Part.signed (BitVec.eq_of_toInt_eq ?_)⟩
      rw [BitVec.toInt_signExtend_of_le short, BitVec.toInt_ofInt_eq_self pos least most]
  · rintro ⟨x, rfl⟩
    rw [Part.widened, Room.Fits, BitVec.toInt_signExtend_of_le short]
    exact ⟨x.le_toInt, x.toInt_lt⟩

section Rooms

variable {width : Nat} {rooms : List Room} {parts : List Part}

theorem number_cons : List.Forall₂ Room.Fits (.number width :: rooms) parts ↔
    ∃ x : BitVec width, ∃ rest, List.Forall₂ Room.Fits rooms rest ∧ parts = .plain x :: rest := by
  rw [List.forall₂_cons_left_iff]
  simp only [number_fits]
  grind

theorem signed_cons (pos : 0 < width) (short : width ≤ 16) :
    List.Forall₂ Room.Fits (.signed width :: rooms) parts ↔
      ∃ x : BitVec width, ∃ rest,
        List.Forall₂ Room.Fits rooms rest ∧ parts = .widened x :: rest := by
  rw [List.forall₂_cons_left_iff]
  simp only [signed_fits pos short]
  grind

end Rooms

end Isa

open Isa (Part)

def Operand.part : Operand → Part
  | .reg r => .plain r
  | .imm value => .widened value

def JumpTarget.part : JumpTarget → Part
  | .offset distance => .widened distance
  | .reg r => .plain r

theorem Operand.part_inj {o o' : Operand} : o.part = o'.part ↔ o = o' := by
  cases o <;> cases o' <;> simp [part, Part.plain_inj, Part.widened_inj, Part.plain_ne_widened,
    (Part.plain_ne_widened _ _).symm]

theorem JumpTarget.part_inj {t t' : JumpTarget} : t.part = t'.part ↔ t = t' := by
  cases t <;> cases t' <;> simp [part, Part.plain_inj, Part.widened_inj, Part.plain_ne_widened,
    (Part.plain_ne_widened _ _).symm]

namespace Instruction

open Isa

def parts : Instruction → List Part
  | .br condition offset => [.plain condition, .widened offset]
  | .add dst src operand | .and dst src operand => [.plain dst, .plain src, operand.part]
  | .ld r offset | .st r offset | .ldi r offset | .sti r offset | .lea r offset =>
    [.plain r, .widened offset]
  | .jsr target => [target.part]
  | .ldr r base offset | .str r base offset => [.plain r, .plain base, .widened offset]
  | .rti | .reserved => []
  | .not dst src => [.plain dst, .plain src]
  | .jmp base => [.plain base]
  | .trap vector => [.plain vector]

theorem wellFormed_parts (i : Instruction) : WellFormed i.opcode i.parts := by
  have number {width : Nat} (x : BitVec width) : (Room.number width).Fits (.plain x) :=
    number_fits.2 ⟨x, rfl⟩
  have signed {width : Nat} (pos : 0 < width) (short : width ≤ 16) (x : BitVec width) :
      (Room.signed width).Fits (.widened x) :=
    (signed_fits pos short).2 ⟨x, rfl⟩
  cases i with
  | br x y | ld x y | st x y | ldi x y | sti x y | lea x y =>
    exact ⟨_, List.mem_cons_self, .cons (number x) (.cons (signed (by decide) (by decide) y) .nil)⟩
  | add x y operand | and x y operand =>
    cases operand with
    | reg z =>
      exact ⟨_, List.mem_cons_self, .cons (number x) (.cons (number y) (.cons (number z) .nil))⟩
    | imm z =>
      exact ⟨_, List.mem_cons_of_mem _ List.mem_cons_self,
        .cons (number x) (.cons (number y) (.cons (signed (by decide) (by decide) z) .nil))⟩
  | jsr target =>
    cases target with
    | offset x => exact ⟨_, List.mem_cons_self, .cons (signed (by decide) (by decide) x) .nil⟩
    | reg x => exact ⟨_, List.mem_cons_of_mem _ List.mem_cons_self, .cons (number x) .nil⟩
  | ldr x y z | str x y z =>
    exact ⟨_, List.mem_cons_self,
      .cons (number x) (.cons (number y) (.cons (signed (by decide) (by decide) z) .nil))⟩
  | rti | reserved => exact ⟨_, List.mem_cons_self, .nil⟩
  | not x y => exact ⟨_, List.mem_cons_self, .cons (number x) (.cons (number y) .nil)⟩
  | jmp x | trap x => exact ⟨_, List.mem_cons_self, .cons (number x) .nil⟩

theorem exists_of_wellFormed {op : Opcode} {parts : List Part} (h : WellFormed op parts) :
    ∃ i : Instruction, i.opcode = op ∧ i.parts = parts := by
  unfold WellFormed at h
  cases op <;> simp only [formats, List.exists_mem_cons_iff, List.not_mem_nil, false_and,
    exists_false, or_false, number_cons, signed_cons, Nat.reduceLeDiff, Nat.zero_lt_succ,
    List.forall₂_nil_left_iff, exists_eq_left] at h
  case br => obtain ⟨x, _, ⟨y, rfl⟩, rfl⟩ := h; exact ⟨.br x y, rfl, rfl⟩
  case add =>
    obtain ⟨x, _, ⟨y, _, ⟨z, rfl⟩, rfl⟩, rfl⟩ | ⟨x, _, ⟨y, _, ⟨z, rfl⟩, rfl⟩, rfl⟩ := h
    · exact ⟨.add x y (.reg z), rfl, rfl⟩
    · exact ⟨.add x y (.imm z), rfl, rfl⟩
  case ld => obtain ⟨x, _, ⟨y, rfl⟩, rfl⟩ := h; exact ⟨.ld x y, rfl, rfl⟩
  case st => obtain ⟨x, _, ⟨y, rfl⟩, rfl⟩ := h; exact ⟨.st x y, rfl, rfl⟩
  case jsr =>
    obtain ⟨x, rfl⟩ | ⟨x, rfl⟩ := h
    · exact ⟨.jsr (.offset x), rfl, rfl⟩
    · exact ⟨.jsr (.reg x), rfl, rfl⟩
  case and =>
    obtain ⟨x, _, ⟨y, _, ⟨z, rfl⟩, rfl⟩, rfl⟩ | ⟨x, _, ⟨y, _, ⟨z, rfl⟩, rfl⟩, rfl⟩ := h
    · exact ⟨.and x y (.reg z), rfl, rfl⟩
    · exact ⟨.and x y (.imm z), rfl, rfl⟩
  case ldr => obtain ⟨x, _, ⟨y, _, ⟨z, rfl⟩, rfl⟩, rfl⟩ := h; exact ⟨.ldr x y z, rfl, rfl⟩
  case str => obtain ⟨x, _, ⟨y, _, ⟨z, rfl⟩, rfl⟩, rfl⟩ := h; exact ⟨.str x y z, rfl, rfl⟩
  case rti => exact ⟨.rti, rfl, h.symm⟩
  case not => obtain ⟨x, _, ⟨y, rfl⟩, rfl⟩ := h; exact ⟨.not x y, rfl, rfl⟩
  case ldi => obtain ⟨x, _, ⟨y, rfl⟩, rfl⟩ := h; exact ⟨.ldi x y, rfl, rfl⟩
  case sti => obtain ⟨x, _, ⟨y, rfl⟩, rfl⟩ := h; exact ⟨.sti x y, rfl, rfl⟩
  case jmp => obtain ⟨x, rfl⟩ := h; exact ⟨.jmp x, rfl, rfl⟩
  case reserved => exact ⟨.reserved, rfl, h.symm⟩
  case lea => obtain ⟨x, _, ⟨y, rfl⟩, rfl⟩ := h; exact ⟨.lea x y, rfl, rfl⟩
  case trap => obtain ⟨x, rfl⟩ := h; exact ⟨.trap x, rfl, rfl⟩

theorem parts_injective : Function.Injective fun i : Instruction => (i.opcode, i.parts) := by
  intro i j h
  obtain ⟨op, same⟩ := Prod.mk.inj h
  -- instructions of different opcodes fall away
  cases i <;> cases j <;> try contradiction
  all_goals
    simp only [parts, List.cons.injEq, Part.plain_inj, Part.widened_inj, Nat.reduceLeDiff,
      Operand.part_inj, JumpTarget.part_inj] at same
    grind

/-- Only the defined bits count, and they reach the well-formed instructions, all of them. -/
theorem decoded_from_defined_bits :
    (∀ w w', decode w = decode w' ↔ ∀ i < 16, Defined w i → w.getLsbD i = w'.getLsbD i) ∧
      (∀ op parts,
        (∃ w, (decode w).opcode = op ∧ (decode w).parts = parts) ↔ WellFormed op parts) ∧
      Function.Injective fun i : Instruction => (i.opcode, i.parts) := by
  refine ⟨fun w w' => decode_eq_decode_iff, fun op parts => ⟨?_, fun h => ?_⟩, parts_injective⟩
  · rintro ⟨w, rfl, rfl⟩
    exact wellFormed_parts (decode w)
  · obtain ⟨i, hop, hparts⟩ := exists_of_wellFormed h
    exact ⟨encode i, by rwa [decode_encode], by rwa [decode_encode]⟩

/-- Two words for `ADD R1, R2, R3`, with different bits 4 and 3. -/
example : decode 0x1283 = decode 0x129B := by decide

end Instruction

end LC3
