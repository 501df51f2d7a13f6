import LC3.Proofs.Condition

/-! The way back from a subroutine. A call leaves the address behind it in R7, and no other
instruction touches R7 that does not name it as its destination: no store, branch or jump, no
routine, no access to a device. So however long the subroutine runs and whatever it does, as long as
R7 is left alone a jump through R7 goes back behind the call. -/

namespace LC3

namespace Isa

open Word Function

def changes? (w : Word) : Option Reg := if w.field 12 4 = 0x4 then some 7 else destination? w

theorem State.reg_store (s : State) (a n : Nat) : (s.store a n).reg = s.reg := by
  unfold State.store
  split <;> rfl

theorem State.reg_load_of_ne (s : State) {r i : Nat} (other : i ≠ r) (n : Nat) :
    (s.load r n).reg i = s.reg i := update_of_ne other _ _

/-- A row leaves all registers as they are but the one that its word changes. -/
theorem reg_of_row {C : Type} [Console C] {mem : Memory} {w : Word} {c : C} {s s' : State}
    (row : Row mem w s c s') {r : Reg} (spared : changes? w ≠ some r) :
    s'.reg r.toNat = s.reg r.toNat := by
  have ne_of_toNat {r' : Reg} (other : some r' ≠ some r) : r.toNat ≠ r'.toNat := fun same =>
    other (by rw [BitVec.eq_of_toNat_eq same])
  have load {op : Nat} (h : w.field 12 4 = op) (sets : op ∈ settingOpcodes) (n : Nat) :
      (s.load (w.field 9 3) n).reg r.toNat = s.reg r.toNat := by
    have call : op ≠ 0x4 := by
      rintro rfl
      exact absurd sets (by decide)
    rw [changes?, h, if_neg call, destination?_setting h sets] at spared
    rw [← toNat_upper]
    exact s.reg_load_of_ne (ne_of_toNat spared) n
  have call (h : w.field 12 4 = 0x4) (a : Nat) : (s.call a).reg r.toNat = s.reg r.toNat := by
    rw [changes?, if_pos h] at spared
    exact update_of_ne (ne_of_toNat spared) _ _
  have read (h : w.field 12 4 = 0xF) (reads : w.field 0 8 = 0x20 ∨ w.field 0 8 = 0x23) (n : Nat) :
      (s.load 0 n).reg r.toNat = s.reg r.toNat := by
    rw [changes?, h, if_neg (by decide), destination?_trap h, if_pos reads] at spared
    exact s.reg_load_of_ne (ne_of_toNat spared) n
  cases row with
  | branch | fallThrough | jmp | print | halt => rfl
  | add op => exact load op (by decide) _
  | ld op => exact load op (by decide) _
  | st => rw [State.reg_store]
  | jsr op => exact call op _
  | jsrr op => exact call op _
  | and op => exact load op (by decide) _
  | ldr op => exact load op (by decide) _
  | str => rw [State.reg_store]
  | not op => exact load op (by decide) _
  | ldi op => exact load op (by decide) _
  | sti => rw [State.reg_store]
  | lea op => exact load op (by decide) _
  | getc op vector => exact read op (.inl vector) _
  | input op vector => exact read op (.inr vector) _

theorem wrap_reg (cpu : Processor) (w : Word) :
    wrap ((view cpu).reg (w.field 6 3)) = (view cpu).reg (w.field 6 3) := by
  rw [← toNat_middle, view_reg, wrap_toNat]

end Isa

namespace Machine

variable {C : Type} [Console C] {m m₀ : Machine C} {w : Word} {c : C}

/-- Steps that succeed lead from `m₀` to `m`, none of them of an instruction that changes `r`. -/
inductive Sparing (r : Reg) (m₀ : Machine C) : Machine C → Prop where
  | start : Sparing r m₀ m₀
  | step {m m' : Machine C} {w : Word} {c : C} (before : Sparing r m₀ m)
    (fetched : (Bus.read m.cpu.mem m.cpu.regs.pc).run m.console = (.ok w, c))
    (spared : Isa.changes? w ≠ some r) (step : m.step = (.ok (), m')) : Sparing r m₀ m'

theorem Sparing.reg {r : Reg} (h : Sparing r m₀ m) :
    (Isa.view m.cpu).reg r.toNat = (Isa.view m₀.cpu).reg r.toNat := by
  induction h with
  | start => rfl
  | step _ fetched spared step ih =>
    exact (Isa.reg_of_row (Isa.row_of_fetched fetched step) spared).trans ih

section Fetched

variable (fetched : (Bus.read m.cpu.mem m.cpu.regs.pc).run m.console = (.ok w, c))
include fetched

/-- Where a call goes is read before R7 is changed, so a call through R7 goes where R7 was. -/
theorem step_call (op : w.field 12 4 = 0x4) :
    m.step.1 = .ok () ∧
      (Isa.view m.step.2.cpu).pc = (if w.field 11 1 = 1 then (Isa.view m.cpu).near w 11
        else (Isa.view m.cpu).reg (w.field 6 3)) ∧
      (Isa.view m.step.2.cpu).reg 7 = Word.wrap (m.cpu.regs.pc.toNat + 1) := by
  obtain ⟨succeeds, row⟩ := step_of_control fetched (.inr (.inl op))
  refine ⟨succeeds, ?_⟩
  split
  next long =>
    rw [row.unique (.jsr op long)]
    exact ⟨Word.wrap_wrap _, rfl⟩
  next short =>
    rw [row.unique (.jsrr op short)]
    exact ⟨Isa.wrap_reg m.cpu w, rfl⟩

theorem step_jump (op : w.field 12 4 = 0xC) :
    m.step.1 = .ok () ∧
      (Isa.view m.step.2.cpu).pc = (Isa.view m.cpu).reg (w.field 6 3) := by
  obtain ⟨succeeds, row⟩ := step_of_control fetched (.inr (.inr op))
  refine ⟨succeeds, ?_⟩
  rw [row.unique (.jmp op)]
  exact Isa.wrap_reg m.cpu w

/-- A call never fails. It goes where the word says, or where the register it names was before, be
it R7 itself, and leaves the next address in R7. There it is still after any steps of instructions
that do not change R7, and if a jump through R7 comes next, it goes to that address. -/
theorem returned_of_call (call : w.field 12 4 = 0x4) :
    let behind := Word.wrap (m.cpu.regs.pc.toNat + 1)
    m.step.1 = .ok () ∧
    (Isa.view m.step.2.cpu).pc = (if w.field 11 1 = 1 then (Isa.view m.cpu).near w 11
      else (Isa.view m.cpu).reg (w.field 6 3)) ∧
    (Isa.view m.step.2.cpu).reg 7 = behind ∧
    ∀ m' : Machine C, Sparing 7 m.step.2 m' → (Isa.view m'.cpu).reg 7 = behind ∧
      ∀ (w' : Word) (c' : C), (Bus.read m'.cpu.mem m'.cpu.regs.pc).run m'.console = (.ok w', c') →
        w'.field 12 4 = 0xC → w'.field 6 3 = 7 →
          m'.step.1 = .ok () ∧ (Isa.view m'.step.2.cpu).pc = behind := by
  intro behind
  obtain ⟨succeeds, entered, link⟩ := step_call fetched call
  refine ⟨succeeds, entered, link, fun m' spared => ?_⟩
  have kept : (Isa.view m'.cpu).reg 7 = behind := spared.reg.trans link
  refine ⟨kept, fun w' c' fetched' jump base => ?_⟩
  obtain ⟨jumps, back⟩ := step_jump fetched' jump
  rw [base, kept] at back
  exact ⟨jumps, back⟩

end Fetched

/-- `JSRR R7` at the last address, to a subroutine at 0x4000 that prints a character and returns. -/
def callAtEnd : Machine Buffered where
  cpu := ⟨(Registers.start 0xFFFF).set 7 0x4000,
    ((Memory.blank.set 0xFFFF 0x41C0).set 0x4000 0xF021).set 0x4001 0xC1C0, .running⟩
  console := .ofInput []
  style := .plain

def calledAtEnd : Machine Buffered :=
  { callAtEnd with cpu := callAtEnd.cpu.advance.commit (.call 0x4000) }

def printedAtEnd : Machine Buffered :=
  { calledAtEnd with cpu := calledAtEnd.cpu.advance, console := ⟨[], #[0], false⟩ }

theorem fetched_callAtEnd {a w : Word} (stored : Device.at? a = none)
    (word : callAtEnd.cpu.mem.get a = w) (c : Buffered) :
    (Bus.read callAtEnd.cpu.mem a).run c = (.ok w, c) := by
  rw [Bus.read_stored stored, word]
  rfl

/-- The jump at 0x4001 goes back to the first address, the one behind the last. -/
theorem returned_of_call_roundTheEnd :
    calledAtEnd.cpu.regs.pc = 0x4000 ∧ Sparing 7 calledAtEnd printedAtEnd ∧
      printedAtEnd.step.1 = .ok () ∧ (Isa.view printedAtEnd.step.2.cpu).pc = 0 := by
  have call : (Bus.read callAtEnd.cpu.mem 0xFFFF).run callAtEnd.console =
      (.ok 0x41C0, callAtEnd.console) :=
    fetched_callAtEnd rfl (by simp [callAtEnd, Memory.get_set]) _
  have print : (Bus.read callAtEnd.cpu.mem 0x4000).run calledAtEnd.console =
      (.ok 0xF021, calledAtEnd.console) :=
    fetched_callAtEnd rfl (by simp [callAtEnd, Memory.get_set]) _
  have back : (Bus.read callAtEnd.cpu.mem 0x4001).run printedAtEnd.console =
      (.ok 0xC1C0, printedAtEnd.console) :=
    fetched_callAtEnd rfl (by simp [callAtEnd, Memory.get_set]) _
  have called : callAtEnd.step = (.ok (), calledAtEnd) := step_of_pure call rfl
  have printed : calledAtEnd.step = (.ok (), printedAtEnd) :=
    step_eq_ok.2 ⟨.nothing, _, Processor.cycle_eq_ok.2 ⟨0xF021, _, print, rfl⟩, rfl⟩
  have spared : Sparing 7 calledAtEnd printedAtEnd :=
    Sparing.start.step print (by decide) printed
  obtain ⟨-, -, -, returns⟩ := returned_of_call call rfl
  rw [called] at returns
  obtain ⟨-, returns⟩ := returns printedAtEnd spared
  obtain ⟨jumps, home⟩ := returns 0xC1C0 _ back rfl rfl
  exact ⟨rfl, spared, jumps, home⟩

end Machine

end LC3
