import LC3.Machine
import LC3.Proofs.Legal

/-! One step in terms of the dialogue of its instruction: how it ends, what it leaves, and what a
console that records its calls has recorded. -/

namespace LC3

namespace Bus

theorem read_stored {mem : Memory} {a : Word} (h : Device.at? a = none) :
    read mem a = pure (mem.get a) := by
  rw [read, h]

end Bus

namespace Processor

theorem cycle_eq_ok {C : Type} [Console C] {style : Style} {cpu : Processor} {c c' : C}
    {e : Effect} :
    (cpu.cycle style).run c = (.ok e, c') ↔
      ∃ w c₁, (Bus.read cpu.mem cpu.regs.pc).run c = (.ok w, c₁) ∧
        (cpu.advance.execute style cpu.regs.pc w).run (Console.hear (.step cpu.regs.pc w) c₁) =
          (.ok e, c') := Dialogue.run_bind_eq_ok

theorem cycle_run {C : Type} [Console C] {style : Style} {cpu : Processor} {c c' : C} {w : Word}
    (fetched : (Bus.read cpu.mem cpu.regs.pc).run c = (.ok w, c')) :
    (cpu.cycle style).run c = (cpu.advance.execute style cpu.regs.pc w).run
      (Console.hear (.step cpu.regs.pc w) c') := by
  rw [cycle]
  change (Dialogue.bind _ _).run c = _
  rw [Dialogue.run_bind, fetched]
  rfl

/-- About to carry out `w`, which is stored at `a` and the only word that is not zero. -/
def single (a w : Word) : Processor := ⟨.start a, Memory.blank.set a w, .running⟩

theorem read_single {a : Word} (h : Device.at? a = none) (w : Word) :
    Bus.read (single a w).mem a = pure w := by
  rw [Bus.read_stored h, single, Memory.get_set, if_pos rfl]

end Processor

namespace Machine

variable {C : Type} [Console C]

theorem step_eq_ok {m m' : Machine C} :
    m.step = (.ok (), m') ↔ ∃ e c, (m.cpu.cycle m.style).run m.console = (.ok e, c) ∧
      { m with cpu := m.cpu.advance.commit e, console := c } = m' := by
  unfold step
  rcases (m.cpu.cycle m.style).run m.console with ⟨_ | _ | _, c⟩ <;> simp [and_assoc]

theorem step_of_fault {m : Machine C} {f : Fault} {c : C}
    (ran : (m.cpu.cycle m.style).run m.console = (.fault f, c)) :
    m.step = (.fault f, { m with cpu := m.cpu.advance, console := c }) := by
  unfold step
  rw [ran]

/-- An instruction that asks nothing succeeds. -/
theorem step_of_pure {m : Machine C} {w : Word} {c : C} {e : Effect}
    (fetched : (Bus.read m.cpu.mem m.cpu.regs.pc).run m.console = (.ok w, c))
    (done : m.cpu.advance.execute m.style m.cpu.regs.pc w = pure e) :
    m.step = (.ok (), { m with
      cpu := m.cpu.advance.commit e
      console := Console.hear (.step m.cpu.regs.pc w) c }) := by
  refine step_eq_ok.2 ⟨e, _, ?_, rfl⟩
  rw [Processor.cycle_run fetched, done]
  rfl

/-- Where only one instruction is stored, it is the one that a step carries out. -/
theorem step_single {a w : Word} (stored : Device.at? a = none) {style : Style} {c c' : C}
    {e : Effect} (h : ((Processor.single a w).advance.execute style a w).run
      (Console.hear (.step a w) c) = (.ok e, c')) :
    (mk (.single a w) c style).step =
      (.ok (), ⟨(Processor.single a w).advance.commit e, c', style⟩) := by
  have fetched : (Bus.read (Processor.single a w).mem a).run c = (.ok w, c) := by
    rw [Processor.read_single stored]
    rfl
  exact step_eq_ok.2 ⟨e, c', Processor.cycle_eq_ok.2 ⟨w, c, fetched, h⟩, rfl⟩

/-- Whatever keeps a step from succeeding, only the program counter has moved. -/
theorem step_cpu {m m' : Machine C} {out : Outcome Unit} (h : m.step = (out, m'))
    (failed : out ≠ .ok ()) : m'.cpu = m.cpu.advance := by
  unfold step at h
  rcases (m.cpu.cycle m.style).run m.console with ⟨_ | _ | _, c⟩ <;> grind

theorem step_fst_eq_fault {m : Machine C} {f : Fault} :
    m.step.1 = .fault f ↔ ((m.cpu.cycle m.style).run m.console).1 = .fault f := by
  unfold step
  rcases (m.cpu.cycle m.style).run m.console with ⟨_ | _ | _, c⟩ <;> simp

theorem step_fst_eq_endless {m : Machine C} :
    m.step.1 = .endless ↔ ((m.cpu.cycle m.style).run m.console).1 = .endless := by
  unfold step
  rcases (m.cpu.cycle m.style).run m.console with ⟨_ | _ | _, c⟩ <;> simp

theorem step_console (m : Machine C) :
    m.step.2.console = ((m.cpu.cycle m.style).run m.console).2 := by
  unfold step
  rcases (m.cpu.cycle m.style).run m.console with ⟨_ | _ | _, c⟩ <;> rfl

/-- What the next instruction asks of the console, and the replies. -/
def exchanges (m : Machine C) : List Exchange := (m.cpu.cycle m.style).exchanges m.console

/-- Over a recording console, a step adds the exchanges of its instruction to the record. -/
theorem step_exchanges (m : Machine (Recorded C)) :
    m.step.2.console.exchanges.toList =
      m.console.exchanges.toList ++ (m.cpu.cycle m.style).exchanges m.console.console := by
  rw [step_console]
  exact ((m.cpu.cycle m.style).run_recorded m.console).2.2

/-- The same machine on the console behind the record. -/
def unrecorded (m : Machine (Recorded C)) : Machine C := ⟨m.cpu, m.console.console, m.style⟩

/-- The same machine with a record that begins here. -/
def recorded (m : Machine C) : Machine (Recorded C) := ⟨m.cpu, .ofConsole m.console, m.style⟩

theorem step_unrecorded (m : Machine (Recorded C)) :
    m.unrecorded.step = (m.step.1, m.step.2.unrecorded) := by
  obtain ⟨out, console, -⟩ := (m.cpu.cycle m.style).run_recorded m.console
  have run : (m.cpu.cycle m.style).run m.console.console =
      (((m.cpu.cycle m.style).run m.console).1, ((m.cpu.cycle m.style).run m.console).2.console) :=
    Prod.ext out.symm console.symm
  unfold step
  rw [unrecorded, run]
  rcases (m.cpu.cycle m.style).run m.console with ⟨_ | _ | _, c⟩ <;> rfl

theorem step_failStop (m : Machine (Recorded C)) :
    FailStop (fun f => m.step.1 = .fault f)
      ((m.cpu.cycle m.style).exchanges m.console.console) := by
  refine ((m.cpu.cycle m.style).failStop m.console.console).mono fun f hf => ?_
  rw [step_fst_eq_fault, ((m.cpu.cycle m.style).run_recorded m.console).1]
  exact hf

end Machine

end LC3
