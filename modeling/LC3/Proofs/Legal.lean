import LC3.Proofs.Bits
import LC3.Proofs.Dialogue

/-! Which words are no instructions. Three kinds of words fault whatever the console answers; every
other instruction raises no fault of its own, so it can only fail as one of its calls does. No
instruction asks whether to stop, which is for a run to ask between two of them. -/

namespace LC3

namespace Isa

/-- `Illegal a w f`: the word `w`, fetched at `a`, is no instruction, and its fault is `f`. -/
inductive Illegal (a w : Word) : Fault → Prop where
  | reserved (op : w.field 12 4 = 0xD) : Illegal a w (.reservedOpcode a w)
  | privileged (op : w.field 12 4 = 0x8) : Illegal a w (.privilegedInstruction a)
  | unknownTrap {v : BitVec 8} (op : w.field 12 4 = 0xF) (vector : v.toNat = w.field 0 8)
      (unknown : v.toNat < 0x20 ∨ 0x25 < v.toNat) : Illegal a w (.unknownTrap a v)

end Isa

namespace Dialogue

variable {α β : Type}

/-- However the console answers, the dialogue does not poll and raises no fault of its own. -/
def Quiet (d : Dialogue α) : Prop := d.Within (fun out => ∀ f, out ≠ .fault f) (· ≠ .interrupted)

theorem Quiet.bind {d : Dialogue α} {g : α → Dialogue β} (h : d.Quiet) (hg : ∀ a, (g a).Quiet) :
    (d >>= g).Quiet := Within.bind h (fun a _ => hg a) (fun f hf => absurd rfl (hf f)) (by simp)

theorem quiet_pure (a : α) : (pure a : Dialogue α).Quiet := by
  intro f h
  exact absurd h (by simp)

theorem quiet_print (bytes : List Byte) : (print bytes).Quiet :=
  ⟨by simp, fun _ => ⟨by simp, fun _ => quiet_pure ()⟩⟩

theorem quiet_tell (n : Note) : (tell n).Quiet := quiet_pure ()

theorem quiet_readByte : readByte.Quiet := ⟨by simp, quiet_pure⟩

end Dialogue

open Dialogue

namespace Bus

theorem read_within (mem : Memory) (a : Word) :
    (read mem a).Within (fun out => ∃ w, out = .ok w) (· ≠ .interrupted) := by
  unfold read
  split
  · exact ⟨_, rfl⟩
  next d _ =>
    cases d with
    | keyboardStatus => exact ⟨by simp, fun _ => ⟨_, rfl⟩⟩
    | keyboardData => exact ⟨by simp, fun _ => ⟨_, rfl⟩⟩
    | displayStatus => exact ⟨_, rfl⟩
    | displayData => exact ⟨_, rfl⟩

theorem read_quiet (mem : Memory) (a : Word) : (read mem a).Quiet :=
  (read_within mem a).mono fun _ ⟨_, h⟩ => by simp [h]

theorem write_quiet (a w : Word) : (write a w).Quiet := by
  unfold write
  split
  · exact quiet_pure _
  next d _ =>
    refine (quiet_tell _).bind fun _ => Quiet.bind ?_ fun _ => quiet_pure _
    cases d with
    | displayData => exact quiet_print _
    | _ => exact quiet_pure _

end Bus

theorem Routine.printString_quiet (mem : Memory) (a : Word) (bytes : Word → List Byte) :
    (printString mem a bytes).Quiet := by
  unfold printString
  split
  · intro f h
    exact absurd h (by simp)
  · exact (quiet_print _).bind fun _ => quiet_pure _

theorem Routine.serve_quiet (style : Style) (regs : Registers) (mem : Memory) (pc : Word)
    (r : Routine) : (r.serve style regs mem pc).Quiet := by
  cases r with
  | getc => exact quiet_readByte.bind fun _ => quiet_pure _
  | out => exact (quiet_print _).bind fun _ => quiet_pure _
  | puts => exact printString_quiet _ _ _
  | input =>
    exact (quiet_print _).bind fun _ => quiet_readByte.bind fun _ =>
      (quiet_print _).bind fun _ => quiet_pure _
  | putsp => exact printString_quiet _ _ _
  | halt => exact (quiet_print _).bind fun _ => (quiet_tell _).bind fun _ => quiet_pure _

theorem Routine.ofVector?_eq_some_iff {v : BitVec 8} {r : Routine} :
    ofVector? v = some r ↔ v = r.vector := by
  constructor
  · intro h
    unfold ofVector? at h
    split at h
    case h_7 => exact absurd h (by simp)
    all_goals
      obtain rfl := Option.some.inj h
      rfl
  · rintro rfl
    cases r <;> rfl

theorem Routine.ofVector?_eq_none_iff {v : BitVec 8} :
    ofVector? v = none ↔ v.toNat < 0x20 ∨ 0x25 < v.toNat := by
  revert v
  decide

namespace Processor

open Isa

theorem decode_trap {w : Word} (op : w.field 12 4 = 0xF) :
    Instruction.decode w = .trap (w.setWidth 8) := by
  have : w.opcode = .trap := Word.opcode_eq_iff.2 op
  rw [Instruction.decode, this]

theorem execute_routine (style : Style) (cpu : Processor) (a : Word) {w : Word} {r : Routine}
    (op : w.field 12 4 = 0xF) (vector : w.field 0 8 = r.vector.toNat) :
    cpu.execute style a w = r.serve style cpu.regs cpu.mem a := by
  rw [← Word.toNat_setWidth] at vector
  have known := Routine.ofVector?_eq_some_iff.2 (BitVec.eq_of_toNat_eq vector)
  simp only [execute, decode_trap op, known]

theorem execute_of_illegal (style : Style) (cpu : Processor) {a w : Word} {f : Fault}
    (h : Illegal a w f) : cpu.execute style a w = .fault f := by
  unfold execute
  cases h with
  | reserved op =>
    have : w.opcode = .reserved := Word.opcode_eq_iff.2 op
    rw [Instruction.decode, this]
  | privileged op =>
    have : w.opcode = .rti := Word.opcode_eq_iff.2 op
    rw [Instruction.decode, this]
  | unknownTrap op vector unknown =>
    rw [← Word.toNat_setWidth] at vector
    obtain rfl := BitVec.eq_of_toNat_eq vector
    simp only [decode_trap op, Routine.ofVector?_eq_none_iff.2 unknown]

theorem execute_quiet (style : Style) (cpu : Processor) {a w : Word} (h : ∀ f, ¬ Illegal a w f) :
    (cpu.execute style a w).Quiet := by
  have op := w.field_opcode
  unfold execute Instruction.decode
  cases hop : w.opcode <;> rw [hop] at op <;> simp only
  case ld | ldr => exact (Bus.read_quiet _ _).bind fun _ => quiet_pure _
  case ldi =>
    exact (Bus.read_quiet _ _).bind fun _ => (Bus.read_quiet _ _).bind fun _ => quiet_pure _
  case st | str => exact Bus.write_quiet _ _
  case sti => exact (Bus.read_quiet _ _).bind fun _ => Bus.write_quiet _ _
  case rti => exact absurd (.privileged op) (h _)
  case reserved => exact absurd (.reserved op) (h _)
  case trap =>
    split
    · exact Routine.serve_quiet _ _ _ _ _
    next hv =>
      have unknown := Routine.ofVector?_eq_none_iff.1 hv
      exact absurd (.unknownTrap op (w.toNat_setWidth 8) unknown) (h _)
  all_goals exact quiet_pure _

/-- Left to itself, an instruction faults exactly when it is illegal. -/
theorem execute_within (style : Style) (cpu : Processor) (a w : Word) :
    (cpu.execute style a w).Within (fun out => ∀ f, out = .fault f ↔ Illegal a w f)
      (· ≠ .interrupted) := by
  by_cases h : ∃ g, Illegal a w g
  · obtain ⟨g, hg⟩ := h
    rw [execute_of_illegal style cpu hg]
    intro f
    constructor
    · rintro ⟨⟩
      exact hg
    · intro hf
      have same := (execute_of_illegal style cpu hg).symm.trans (execute_of_illegal style cpu hf)
      rw [Dialogue.fault.inj same]
  · have legal : ∀ f, ¬ Illegal a w f := fun f hf => h ⟨f, hf⟩
    exact (execute_quiet style cpu legal).mono fun out hout f =>
      ⟨fun hf => absurd hf (hout f), fun hf => absurd hf (legal f)⟩

theorem cycle_within (style : Style) (cpu : Processor) :
    (cpu.cycle style).Within (fun _ => True) (· ≠ .interrupted) :=
  (Bus.read_within _ _).bind
    (fun w _ => (execute_within style cpu.advance cpu.regs.pc w).mono fun _ _ => trivial)
    (fun _ _ => trivial) (fun _ => trivial)

end Processor

end LC3
