import LC3.Console.Faulty
import LC3.Proofs.InPlace
import LC3.Proofs.Run

/-! What can go wrong in a step and in a run. A fault is either the failure of the last call made or
that of an illegal instruction, which can be read off the word fetched and its address. Whichever it
is, the instruction has changed nothing but the program counter. -/

namespace LC3

open Dialogue

structure Passed (cpu cpu' : Processor) : Prop where
  reg : ∀ r, cpu'.regs.get r = cpu.regs.get r
  flag : cpu'.regs.flag = cpu.regs.flag
  cell : ∀ a, cpu'.mem.get a = cpu.mem.get a
  status : cpu'.status = cpu.status
  pc : cpu'.regs.pc.toNat = (cpu.regs.pc.toNat + 1) % 2 ^ 16

theorem passed_advance (cpu : Processor) : Passed cpu cpu.advance where
  reg := cpu.regs.get_advance
  flag := rfl
  cell := fun _ => rfl
  status := rfl
  pc := BitVec.toNat_add cpu.regs.pc 1

def Routine.echo : Dialogue Byte := do
  Dialogue.print prompt
  let byte ← Dialogue.readByte
  Dialogue.print [byte]
  pure byte

namespace Machine

variable {C : Type} [Console C]

theorem step_of_routine {m : Machine C} {w : Word} {r : Routine} {c c' : C} {f : Fault}
    (fetched : (Bus.read m.cpu.mem m.cpu.regs.pc).run m.console = (.ok w, c))
    (op : w.field 12 4 = 0xF) (vector : w.field 0 8 = r.vector.toNat)
    (failed : (r.serve m.style m.cpu.advance.regs m.cpu.advance.mem m.cpu.regs.pc).run
      (Console.hear (.step m.cpu.regs.pc w) c) = (.fault f, c')) :
    m.step = (.fault f, { m with cpu := m.cpu.advance, console := c' }) := by
  unfold step
  rw [Processor.cycle_run fetched,
    Processor.execute_routine m.style m.cpu.advance m.cpu.regs.pc op vector, failed]

/-- A step that fails has changed nothing but the program counter, also when changes are made in
place; so a failing notice does not halt and a failing input routine leaves R0 and the flag. -/
theorem passed_of_step_fault :
    (∀ (m m' : Machine C) (f : Fault), m.step = (.fault f, m') →
      Act.cycle m.style m = (.fault f, m') ∧ Passed m.cpu m'.cpu) ∧
    (∀ (m : Machine C) (w : Word) (c c' : C) (f : Fault),
      (Bus.read m.cpu.mem m.cpu.regs.pc).run m.console = (.ok w, c) →
      w.field 12 4 = 0xF → w.field 0 8 = 0x25 →
      (Dialogue.print (Routine.haltNotice m.style)).run
        (Console.hear (.step m.cpu.regs.pc w) c) = (.fault f, c') →
      ∃ m', m.step = (.fault f, m') ∧ m'.cpu.status = m.cpu.status) ∧
    (∀ (m : Machine C) (w : Word) (c c' : C) (f : Fault),
      (Bus.read m.cpu.mem m.cpu.regs.pc).run m.console = (.ok w, c) →
      w.field 12 4 = 0xF → w.field 0 8 = 0x23 →
      Routine.echo.run (Console.hear (.step m.cpu.regs.pc w) c) = (.fault f, c') →
      ∃ m', m.step = (.fault f, m') ∧ m'.cpu.regs.get 0 = m.cpu.regs.get 0 ∧
        m'.cpu.regs.flag = m.cpu.regs.flag) := by
  refine ⟨fun m m' f h => ?_, fun m w c c' f fetched op vector failed => ?_,
    fun m w c c' f fetched op vector failed => ?_⟩
  · rw [← step_eq_cycle, step_cpu h (by simp)]
    exact ⟨h, passed_advance m.cpu⟩
  · have failed' : (Routine.halt.serve m.style m.cpu.advance.regs m.cpu.advance.mem
        m.cpu.regs.pc).run (Console.hear (.step m.cpu.regs.pc w) c) = (.fault f, c') :=
      run_bind_fault failed _
    exact ⟨_, step_of_routine (r := .halt) fetched op vector failed', (passed_advance m.cpu).status⟩
  · have failed' : (Routine.input.serve m.style m.cpu.advance.regs m.cpu.advance.mem
        m.cpu.regs.pc).run (Console.hear (.step m.cpu.regs.pc w) c) = (.fault f, c') :=
      run_bind_fault failed fun byte => pure (Effect.load 0 (.ofByte byte))
    have passed := passed_advance m.cpu
    exact ⟨_, step_of_routine (r := .input) fetched op vector failed', passed.reg 0, passed.flag⟩

/-- `TRAP HALT` on a console that cannot flush its notice. -/
def haltUnheard : Machine (Faulty Buffered) where
  cpu := .single 0x3000 0xF025
  console := .ofConsole [⟨.flush, 1, ⟨.brokenPipe, "broken pipe"⟩⟩] none (.ofInput [])
  style := .plain

theorem passed_of_step_fault_haltUnheard :
    ∃ m', haltUnheard.step = (.fault (.host ⟨.brokenPipe, "broken pipe"⟩), m') ∧
      Passed haltUnheard.cpu m'.cpu := by
  have fetched : (Bus.read haltUnheard.cpu.mem haltUnheard.cpu.regs.pc).run haltUnheard.console =
      (.ok 0xF025, haltUnheard.console) :=
    congrArg (Dialogue.run · _) (Processor.read_single rfl 0xF025)
  obtain ⟨m', failed, -⟩ := passed_of_step_fault.2.1 haltUnheard 0xF025 _ _ _ fetched rfl rfl rfl
  exact ⟨m', failed, (passed_of_step_fault.1 haltUnheard m' _ failed).2⟩

/-- A step in which no call fails faults exactly when it fetches an illegal instruction. -/
theorem step_fault_iff {m : Machine (Recorded C)}
    (ok : ∀ e ∈ (m.cpu.cycle m.style).exchanges m.console.console, e.error? = none) :
    ∃ w, ((Bus.read m.cpu.mem m.cpu.regs.pc).run m.console).1 = .ok w ∧
      ∀ f, m.step.1 = .fault f ↔ Isa.Illegal m.cpu.regs.pc w f := by
  rw [Processor.cycle, exchanges_bind] at ok
  obtain ⟨fetchOk, restOk⟩ := List.forall_mem_append.1 ok
  obtain ⟨w, fetched⟩ := (Bus.read_within m.cpu.mem m.cpu.regs.pc).run m.console.console fetchOk
  obtain ⟨c, run⟩ : ∃ c, (Bus.read m.cpu.mem m.cpu.regs.pc).run m.console.console = (.ok w, c) :=
    ⟨_, Prod.ext fetched rfl⟩
  rw [run] at restOk
  have ends := (m.cpu.advance.execute_within m.style m.cpu.regs.pc w).run _ restOk
  refine ⟨w, (run_recorded _ _).1.trans fetched, fun f => ?_⟩
  rw [step_fst_eq_fault, (run_recorded _ _).1, Processor.cycle_run run]
  exact ends f

theorem run_failStop (m : Machine (Recorded C)) (fuel : Nat) :
    ∃ es, (m.run fuel).2.console.exchanges.toList = m.console.exchanges.toList ++ es ∧
      FailStop (fun f => (m.run fuel).1 = some (.fault f)) es := by
  have given := run_eq_iff.1 (rfl : m.run fuel = m.run fuel)
  rcases h : m.run fuel with ⟨_ | out, m'⟩ <;> rw [h] at given
  · obtain ⟨turns, -, asked, ok, -⟩ := given.1.turns
    exact ⟨turns.flatten, asked, .of_ok ok⟩
  · obtain ⟨k, mk, after, stops, -⟩ := given
    obtain ⟨turns, -, asked, ok, -⟩ := after.turns
    obtain ⟨es, asked', -, failStop⟩ := stops.turn
    refine ⟨turns.flatten ++ es, ?_, (failStop.append ok).mono fun f hf => congrArg some hf⟩
    rw [asked', asked, List.append_assoc]
    rfl

theorem run_fault_iff {m : Machine C} {fuel : Nat} {f : Fault} :
    (m.run fuel).1 = some (.fault f) ↔
      ∃ k mk m', k < fuel ∧ After m.begun k mk ∧ Stops k mk (.fault f) m' := by
  constructor
  · intro h
    obtain ⟨m', h⟩ : ∃ m', m.run fuel = (some (.fault f), m') := ⟨_, Prod.ext h rfl⟩
    obtain ⟨k, mk, after, stops, hk | ⟨-, hf⟩⟩ := run_eq_iff.1 h
    · exact ⟨k, mk, _, hk, after, stops⟩
    · exact absurd hf (by simp)
  · rintro ⟨k, mk, m', hk, after, stops⟩
    have given : Gives m.begun fuel (some (.fault f), m') := ⟨k, mk, after, stops, .inl hk⟩
    rw [run_eq_iff.2 given]

/-- Steps and runs are fail-stop: the first failure is the last exchange and the result, and without
one only an illegal instruction or a wish to stop is a fault. -/
theorem failStop_of_step_and_run :
    (∀ m : Machine (Recorded C), m.unrecorded.step = (m.step.1, m.step.2.unrecorded) ∧
      ∀ fuel, m.unrecorded.run fuel = ((m.run fuel).1, (m.run fuel).2.unrecorded)) ∧
    (∀ m : Machine (Recorded C), ∃ es,
      m.step.2.console.exchanges.toList = m.console.exchanges.toList ++ es ∧
      FailStop (fun f => m.step.1 = .fault f) es ∧
      ((∀ e ∈ es, e.error? = none) →
        ∃ w, ((Bus.read m.cpu.mem m.cpu.regs.pc).run m.console).1 = .ok w ∧
          ∀ f, m.step.1 = .fault f ↔ Isa.Illegal m.cpu.regs.pc w f)) ∧
    (∀ (m : Machine (Recorded C)) (fuel : Nat), ∃ es,
      (m.run fuel).2.console.exchanges.toList = m.console.exchanges.toList ++ es ∧
      FailStop (fun f => (m.run fuel).1 = some (.fault f)) es) ∧
    (∀ (m : Machine (Recorded C)) (fuel : Nat) (f : Fault),
      (m.run fuel).1 = some (.fault f) ↔
        ∃ k mk m', k < fuel ∧ After m.begun k mk ∧ Stops k mk (.fault f) m') :=
  ⟨fun m => ⟨step_unrecorded m, run_unrecorded m⟩,
    fun m => ⟨_, step_exchanges m, step_failStop m, step_fault_iff⟩, run_failStop,
    fun _ _ _ => run_fault_iff⟩

/-- A reserved word at the last address. -/
def reservedOnly : Machine (Recorded Buffered) :=
  ⟨.single 0xFFFF 0xD000, .ofConsole (.ofInput []), .plain⟩

theorem failStop_of_step_and_run_reservedOnly :
    reservedOnly.step.1 = .fault (.reservedOpcode 0xFFFF 0xD000) := by
  have fetched : (Bus.read reservedOnly.cpu.mem reservedOnly.cpu.regs.pc).run
      reservedOnly.console = (.ok 0xD000, reservedOnly.console) :=
    congrArg (Dialogue.run · _) (Processor.read_single rfl 0xD000)
  obtain ⟨es, asked, -, faults⟩ := failStop_of_step_and_run.2.1 reservedOnly
  rw [step_console, Processor.cycle_run fetched, Processor.execute_of_illegal _ _ (.reserved rfl),
    run_fault] at asked
  obtain rfl : es = [] := List.self_eq_append_right.1 asked
  obtain ⟨w, read, fault⟩ := faults (by simp)
  obtain rfl : 0xD000 = w := by simpa [fetched] using read
  exact (fault _).2 (.reserved rfl)

end Machine

end LC3
