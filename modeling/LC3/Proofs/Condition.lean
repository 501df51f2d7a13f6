import LC3.Console.Buffered
import LC3.Proofs.DeviceCells

/-! The flag as a memory of one word. It keeps the sign of what an operation, a load or a character
read has written last, and nothing else touches it: no store, jump, branch or other routine, no
setting of a register and no instruction that fails. So a branch is decided by the word written
last, however long ago that was and whatever its register holds by now. -/

namespace LC3

namespace Isa

open Word Function

def settingOpcodes : List Nat := [0x1, 0x2, 0x5, 0x6, 0x9, 0xA, 0xE]

/-- The register that the instruction `w` writes along with the flag, if it is one that does. The
two routines that read a character write R0. -/
def destination? (w : Word) : Option Reg :=
  if w.field 12 4 ∈ settingOpcodes then some w.upper
  else if w.field 12 4 = 0xF ∧ (w.field 0 8 = 0x20 ∨ w.field 0 8 = 0x23) then some 0
  else none

/-- The branch `w` asks for numbers of the sign of `n`. -/
def Asks (w : Word) (n : Int) : Prop :=
  w.field 11 1 = 1 ∧ n < 0 ∨ w.field 10 1 = 1 ∧ n = 0 ∨ w.field 9 1 = 1 ∧ 0 < n

section Destination

variable {w : Word} {op : Nat}

theorem destination?_setting (h : w.field 12 4 = op) (sets : op ∈ settingOpcodes) :
    destination? w = some w.upper := by
  rw [destination?, h, if_pos sets]

theorem destination?_other (h : w.field 12 4 = op) (other : op ∉ settingOpcodes)
    (trap : op ≠ 0xF) : destination? w = none := by
  rw [destination?, h, if_neg other, if_neg fun both => trap both.1]

theorem destination?_trap (h : w.field 12 4 = 0xF) :
    destination? w = if w.field 0 8 = 0x20 ∨ w.field 0 8 = 0x23 then some 0 else none := by
  rw [destination?, h, if_neg (by decide)]
  simp only [true_and]

end Destination

theorem State.flag_load (s : State) (r n : Nat) : (s.load r n).flag = sign ((s.load r n).reg r) := by
  simp [State.load]

theorem State.flag_store (s : State) (a n : Nat) : (s.store a n).flag = s.flag := by
  unfold State.store
  split <;> rfl

theorem flag_of_row {C : Type} [Console C] {mem : Memory} {w : Word} {c : C} {s s' : State}
    (row : Row mem w s c s') :
    s'.flag = (destination? w).elim s.flag fun r => sign (s'.reg r.toNat) := by
  have load {op : Nat} (h : w.field 12 4 = op) (sets : op ∈ settingOpcodes) (n : Nat) :
      (s.load (w.field 9 3) n).flag = (destination? w).elim s.flag fun r =>
        sign ((s.load (w.field 9 3) n).reg r.toNat) := by
    rw [destination?_setting h sets, Option.elim_some, toNat_upper, State.flag_load]
  have other {op : Nat} {t : State} (h : w.field 12 4 = op) (other : op ∉ settingOpcodes)
      (trap : op ≠ 0xF) (kept : t.flag = s.flag) :
      t.flag = (destination? w).elim s.flag fun r => sign (t.reg r.toNat) := by
    rw [destination?_other h other trap]
    exact kept
  cases row with
  | branch op => exact other op (by decide) (by decide) rfl
  | fallThrough op => exact other op (by decide) (by decide) rfl
  | add op => exact load op (by decide) _
  | ld op => exact load op (by decide) _
  | st op => exact other op (by decide) (by decide) (s.flag_store _ _)
  | jsr op => exact other op (by decide) (by decide) rfl
  | jsrr op => exact other op (by decide) (by decide) rfl
  | and op => exact load op (by decide) _
  | ldr op => exact load op (by decide) _
  | str op => exact other op (by decide) (by decide) (s.flag_store _ _)
  | not op => exact load op (by decide) _
  | ldi op => exact load op (by decide) _
  | sti op => exact other op (by decide) (by decide) (s.flag_store _ _)
  | jmp op => exact other op (by decide) (by decide) rfl
  | lea op => exact load op (by decide) _
  | getc op vector =>
    rw [destination?_trap op, if_pos (.inl vector)]
    exact s.flag_load 0 _
  | print op vector =>
    rw [destination?_trap op, if_neg (by omega)]
    rfl
  | input op vector =>
    rw [destination?_trap op, if_pos (.inr vector)]
    exact s.flag_load 0 _
  | halt op vector =>
    rw [destination?_trap op, if_neg (by omega)]
    rfl

/-- The flag tells the sign of a word as a branch asks for it. -/
theorem takes_iff_asks {s : State} {v : Word} (flag : s.flag = .of v) (w : Word) :
    s.takes w ↔ Asks w v.toInt := by
  have bound : v.toNat < 2 ^ 16 := v.isLt
  have negative : Flag.of v = .negative ↔ v.toInt < 0 := by
    rw [← sign_toNat, BitVec.toInt_eq_toNat_cond, sign]
    grind
  have zero : Flag.of v = .zero ↔ v.toInt = 0 := by
    rw [← sign_toNat, BitVec.toInt_eq_toNat_cond, sign]
    grind
  have positive : Flag.of v = .positive ↔ 0 < v.toInt := by
    rw [← sign_toNat, BitVec.toInt_eq_toNat_cond, sign]
    grind
  rw [State.takes, Asks, flag, negative, zero, positive]

end Isa

namespace Machine

variable {C : Type} [Console C] {m m₀ : Machine C}

/-- What the next instruction writes along with the flag: the word in its destination after a step
that succeeds. -/
def written? (m : Machine C) : Option Word :=
  match (Bus.read m.cpu.mem m.cpu.regs.pc).run m.console, m.step with
  | (.ok w, _), (.ok (), m') => (Isa.destination? w).map m'.cpu.regs.get
  | _, _ => none

/-- `Latest m₀ v m`: steps, which may fail, and settings of registers lead from `m₀` to `m`, and `v`
is what the last of these steps that wrote a word along with the flag wrote, if there was one. -/
inductive Latest (m₀ : Machine C) : Option Word → Machine C → Prop where
  | start : Latest m₀ none m₀
  | step {v : Option Word} {m : Machine C} (before : Latest m₀ v m) :
    Latest m₀ (m.written?.or v) m.step.2
  | setReg {v : Option Word} {m : Machine C} (before : Latest m₀ v m) (r : Reg) (w : Word) :
    Latest m₀ v (m.setReg r w)

theorem written?_of_step {m' : Machine C} {w : Word} {c : C}
    (fetched : (Bus.read m.cpu.mem m.cpu.regs.pc).run m.console = (.ok w, c))
    (step : m.step = (.ok (), m')) :
    m.written? = (Isa.destination? w).map m'.cpu.regs.get := by
  rw [written?, fetched, step]

theorem written?_of_failed (failed : m.step.1 ≠ .ok ()) : m.written? = none := by
  unfold written?
  split
  next step =>
    rw [step] at failed
    exact absurd rfl failed
  next => rfl

theorem flag_step (m : Machine C) :
    m.step.2.cpu.regs.flag = m.written?.elim m.cpu.regs.flag .of := by
  by_cases succeeded : m.step.1 = .ok ()
  · obtain ⟨m', step⟩ : ∃ m', m.step = (.ok (), m') := ⟨_, Prod.ext succeeded rfl⟩
    obtain ⟨w, c, fetched, row⟩ := Isa.step_row step
    have flag := Isa.flag_of_row row
    rw [written?_of_step fetched step, step]
    cases destination : Isa.destination? w with
    | none =>
      rw [destination] at flag
      exact flag
    | some r =>
      rw [destination, Option.elim_some, Isa.view_reg, Isa.sign_toNat] at flag
      exact flag
  · have unchanged : m.step.2.cpu = m.cpu.advance := step_cpu (m := m) rfl succeeded
    rw [written?_of_failed succeeded, unchanged]
    rfl

/-- The flag is as at the start until a word is written along with it, and from then on the sign of
the word written last. -/
theorem Latest.flag {v : Option Word} (h : Latest m₀ v m) :
    m.cpu.regs.flag = v.elim m₀.cpu.regs.flag .of := by
  induction h with
  | start => rfl
  | @step v m before ih =>
    rw [flag_step, ih]
    cases m.written? <;> rfl
  | setReg before r w ih => exact ih

/-- Once fetched, a branch, a call or a jump never fails. -/
theorem step_of_control {w : Word} {c : C}
    (fetched : (Bus.read m.cpu.mem m.cpu.regs.pc).run m.console = (.ok w, c))
    (op : w.field 12 4 = 0x0 ∨ w.field 12 4 = 0x4 ∨ w.field 12 4 = 0xC) :
    m.step.1 = .ok () ∧ Isa.Row m.cpu.mem w (Isa.view m.cpu)
      (Console.hear (.step m.cpu.regs.pc w) c) (Isa.view m.step.2.cpu) := by
  have control : w.opcode = .br ∨ w.opcode = .jsr ∨ w.opcode = .jmp :=
    op.imp Word.opcode_eq_iff.2 (.imp Word.opcode_eq_iff.2 Word.opcode_eq_iff.2)
  obtain ⟨e, execute⟩ : ∃ e, m.cpu.advance.execute m.style m.cpu.regs.pc w = pure e := by
    rw [Processor.execute, Instruction.decode]
    obtain br | jsr | jmp := control
    · rw [br]
      exact ⟨_, rfl⟩
    · rw [jsr]
      exact ⟨_, rfl⟩
    · rw [jmp]
      exact ⟨_, rfl⟩
  have step := step_of_pure fetched execute
  have row := Isa.row_of_fetched fetched step
  rw [step]
  exact ⟨rfl, row⟩

theorem step_branch {w : Word} {c : C}
    (fetched : (Bus.read m.cpu.mem m.cpu.regs.pc).run m.console = (.ok w, c))
    (op : w.field 12 4 = 0x0) :
    m.step.1 = .ok () ∧
      ((Isa.view m.cpu).takes w →
        Isa.view m.step.2.cpu = (Isa.view m.cpu).goto ((Isa.view m.cpu).near w 9)) ∧
      (¬ (Isa.view m.cpu).takes w → Isa.view m.step.2.cpu = (Isa.view m.cpu).next) := by
  obtain ⟨succeeds, row⟩ := step_of_control fetched (.inl op)
  exact ⟨succeeds, fun taken => row.unique (.branch op taken),
    fun passed => row.unique (.fallThrough op passed)⟩

/-- From the loading of an image on, over any steps and register settings, the flag is the sign of
the word written last by an instruction that sets it, or zero before there is one. A branch is taken
as that word, read in two's complement, is negative, zero or positive. And where nothing but
instructions that set no flag, failing instructions and register settings comes between, the flag is
the same, and every branch would go as before. -/
theorem branches_by_latest (style : Style) (image : Image) (console : C) :
    (∀ (v : Option Word) (m : Machine C), Latest (.ofImage style image console) v m →
      m.cpu.regs.flag = v.elim .zero .of ∧
      ∀ (w : Word) (c : C), (Bus.read m.cpu.mem m.cpu.regs.pc).run m.console = (.ok w, c) →
        w.field 12 4 = 0x0 → m.step.1 = .ok () ∧
          (Isa.Asks w (v.getD 0).toInt →
            Isa.view m.step.2.cpu = (Isa.view m.cpu).goto ((Isa.view m.cpu).near w 9)) ∧
          (¬ Isa.Asks w (v.getD 0).toInt → Isa.view m.step.2.cpu = (Isa.view m.cpu).next)) ∧
    ∀ m m' : Machine C, Latest m none m' → m'.cpu.regs.flag = m.cpu.regs.flag ∧
      ∀ w, (Isa.view m'.cpu).takes w ↔ (Isa.view m.cpu).takes w := by
  refine ⟨fun v m h => ?_, fun m m' h => ?_⟩
  · have flag : m.cpu.regs.flag = v.elim .zero .of := h.flag
    refine ⟨flag, fun w c fetched op => ?_⟩
    have sign : m.cpu.regs.flag = .of (v.getD 0) := by
      rw [flag]
      cases v <;> rfl
    rw [← Isa.takes_iff_asks (s := Isa.view m.cpu) sign w]
    exact step_branch fetched op
  · have flag : m'.cpu.regs.flag = m.cpu.regs.flag := h.flag
    refine ⟨flag, fun w => ?_⟩
    rw [Isa.State.takes, show (Isa.view m'.cpu).flag = _ from flag]
    exact Iff.rfl

def countDown : Image := ⟨0x3000, [0x103F, 0x0801], by decide⟩

def countingDown : Machine Buffered := .ofImage .plain countDown (.ofInput [])

def countedDown : Machine Buffered :=
  { countingDown with cpu := countingDown.cpu.advance.commit (.load 0 0xFFFF) }

theorem latest_countedDown : Latest countingDown (some 0xFFFF) countedDown := by
  have fetched : (Bus.read countingDown.cpu.mem 0x3000).run countingDown.console =
      (.ok 0x103F, countingDown.console) := Processor.read_ofImage countDown rfl _
  have step : countingDown.step = (.ok (), countedDown) :=
    step_eq_ok.2 ⟨.load 0 0xFFFF, _, Processor.cycle_eq_ok.2 ⟨0x103F, _, fetched, rfl⟩, rfl⟩
  have written : countingDown.written? = some 0xFFFF := written?_of_step fetched step
  have after : Latest countingDown (countingDown.written?.or none) countingDown.step.2 :=
    Latest.start.step
  rwa [written, step] at after

/-- The branch is taken for the number counted down, although R0 is set to 5 before it. -/
theorem branches_by_latest_countDown :
    Latest countingDown (some 0xFFFF) (countedDown.setReg 0 5) ∧
      (countedDown.setReg 0 5).cpu.regs.get 0 = 5 ∧
      (countedDown.setReg 0 5).step.1 = .ok () ∧
      Isa.view (countedDown.setReg 0 5).step.2.cpu =
        (Isa.view (countedDown.setReg 0 5).cpu).goto 0x3003 := by
  have reached : Latest countingDown (some 0xFFFF) (countedDown.setReg 0 5) :=
    latest_countedDown.setReg 0 5
  have fetched : (Bus.read (countedDown.setReg 0 5).cpu.mem 0x3001).run countedDown.console =
      (.ok 0x0801, countedDown.console) := Processor.read_ofImage countDown rfl _
  obtain ⟨-, branches⟩ :=
    (branches_by_latest .plain countDown (Buffered.ofInput [])).1 _ _ reached
  obtain ⟨succeeds, taken, -⟩ := branches 0x0801 _ fetched rfl
  exact ⟨reached, rfl, succeeds, taken (.inl ⟨rfl, by decide⟩)⟩

end Machine

end LC3
