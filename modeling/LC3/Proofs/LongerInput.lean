import LC3.Console.Buffered
import LC3.Proofs.Accesses
import LC3.Proofs.DeviceCells

/-! What a program can know of input that it has not come to. It takes bytes from the front of the
queue, and that the queue is empty shows in two ways only: a status that is not ready, and a read
that fails. Where neither has happened, a longer queue would have made no difference, and all that
was added to it is still there, behind what the program left. -/

namespace LC3

namespace Recorded

variable {C : Type} [Console C]

/-- Puts bytes behind those that are waiting, which is no call and leaves no record. -/
def supply (r : Recorded Buffered) (bytes : List Byte) : Recorded Buffered :=
  { r with console := r.console.supply bytes }

def AlwaysReady (r : Recorded C) : Prop := ⟨.inputReady, .ok false⟩ ∉ r.exchanges.toList

theorem mem_answer {e : Exchange} (q : Call) {r : Recorded C} (h : e ∈ r.exchanges.toList) :
    e ∈ (Console.answer q r).2.exchanges.toList := by
  rcases answered : Console.answer q r with ⟨reply, r'⟩
  rw [Machine.exchanges_answer answered]
  exact List.mem_append_left _ h

theorem answer_supply {q : Call} {r : Recorded Buffered}
    (fed : q.asksInput = true → r.console.input ≠ []) (more : List Byte) :
    Console.answer q (r.supply more) =
      ((Console.answer q r).1, (Console.answer q r).2.supply more) := by
  obtain ⟨⟨input, output, interrupted⟩, es⟩ := r
  cases input with
  | nil =>
    cases q with
    | inputReady => exact absurd rfl (fed rfl)
    | readByte => exact absurd rfl (fed rfl)
    | _ => rfl
  | cons b rest => cases q <;> rfl

end Recorded

namespace Dialogue

variable {α : Type} {d : Dialogue α} {r : Recorded Buffered}

/-- What is on record stays there, so it was not there before if it is not there afterwards. -/
theorem alwaysReady_of_run (h : (d.run r).2.AlwaysReady) : r.AlwaysReady := by
  intro told
  apply h
  exact run_keeps (I := fun r : Recorded Buffered => _ ∈ r.exchanges.toList)
    (fun q _ => Recorded.mem_answer q) (fun _ _ => id) d told

/-- A call that finds the queue empty is told that there is no input, or ends the dialogue. -/
theorem fed_of_run {q : Call} {next : q.Answer → Dialogue α}
    (ended : ((ask q next).run r).1 ≠ .fault .inputClosed)
    (ready : ((ask q next).run r).2.AlwaysReady) : q.asksInput = true → r.console.input ≠ [] := by
  intro asks empty
  obtain ⟨⟨input, output, interrupted⟩, es⟩ := r
  obtain rfl : input = [] := empty
  cases q with
  | inputReady =>
    have told := alwaysReady_of_run (d := next false) ready
    exact told (by simp)
  | readByte => exact ended rfl
  | write bytes => exact nomatch asks
  | flush => exact nomatch asks
  | interrupted => exact nomatch asks

theorem run_longer (ended : (d.run r).1 ≠ .fault .inputClosed) (ready : (d.run r).2.AlwaysReady)
    (more : List Byte) : d.run (r.supply more) = ((d.run r).1, (d.run r).2.supply more) := by
  induction d generalizing r with
  | done a => rfl
  | fault f => rfl
  | endless => rfl
  | ask q next ih =>
    have longer := Recorded.answer_supply (fed_of_run ended ready) more
    rcases answered : Console.answer q r with ⟨f | a, r₁⟩
    · rw [answered] at longer
      rw [run_ask_error answered, run_ask_error longer]
    · rw [answered] at longer
      rw [run_ask_ok answered] at ended ready ⊢
      rw [run_ask_ok longer]
      exact ih a ended ready
  | note n next ih => exact ih ended ready

end Dialogue

namespace Machine

section Recorded

variable {m : Machine (Recorded Buffered)}

def longer (m : Machine (Recorded Buffered)) (more : List Byte) : Machine (Recorded Buffered) :=
  { m with console := m.console.supply more }

theorem poll_longer (m : Machine (Recorded Buffered)) (more : List Byte) (count : UInt32) :
    (m.longer more).poll count = ((m.poll count).1, (m.poll count).2.longer more) := by
  have answer := Recorded.answer_supply (q := .interrupted) (r := m.console) nofun more
  unfold poll
  split
  · rw [show (m.longer more).console = m.console.supply more from rfl, answer]
    rcases Console.answer .interrupted m.console with ⟨_ | _ | _, r⟩
    · rfl
    · rfl
    · rfl
  · rfl

theorem step_longer (ended : m.step.1 ≠ .fault .inputClosed)
    (ready : m.step.2.console.AlwaysReady) (more : List Byte) :
    (m.longer more).step = (m.step.1, m.step.2.longer more) := by
  rw [Ne, step_fst_eq_fault] at ended
  rw [step_console] at ready
  have run := Dialogue.run_longer ended ready more
  unfold step
  rw [show ((m.longer more).cpu.cycle (m.longer more).style).run (m.longer more).console = _
    from run]
  rcases (m.cpu.cycle m.style).run m.console with ⟨_ | _ | _, r⟩
  · rfl
  · rfl
  · rfl

theorem keeps_exchange (e : Exchange) :
    Keeps fun m : Machine (Recorded Buffered) => e ∈ m.console.exchanges.toList :=
  .of_console (I := fun r : Recorded Buffered => e ∈ r.exchanges.toList)
    (fun q _ => Recorded.mem_answer q) (fun _ _ => id)

theorem alwaysReady_of_runFrom {fuel : Nat} {count : UInt32}
    (h : (m.runFrom fuel count).2.console.AlwaysReady) : m.console.AlwaysReady := by
  intro told
  apply h
  exact (keeps_exchange _).runFrom told fuel count

theorem runFrom_longer {fuel : Nat} {count : UInt32}
    (ended : (m.runFrom fuel count).1 ≠ some (.fault .inputClosed))
    (ready : (m.runFrom fuel count).2.console.AlwaysReady) (more : List Byte) :
    (m.longer more).runFrom fuel count =
      ((m.runFrom fuel count).1, (m.runFrom fuel count).2.longer more) := by
  induction fuel generalizing m count with
  | zero =>
    cases status : m.cpu.status with
    | halted => rw [runFrom_halted status, runFrom_halted (m := m.longer more) status]
    | running => rw [runFrom_zero status, runFrom_zero (m := m.longer more) status]
  | succ fuel ih =>
    cases status : m.cpu.status with
    | halted => rw [runFrom_halted status, runFrom_halted (m := m.longer more) status]
    | running =>
      rw [runFrom_succ status] at ended ready ⊢
      rw [runFrom_succ (m := m.longer more) status, poll_longer]
      rcases polled : m.poll count with ⟨_ | f, m₁⟩
      · simp only [polled] at ended ready ⊢
        have step := fun ended ready => step_longer (m := m₁) ended ready more
        rcases stepped : m₁.step with ⟨_ | f | _, m₂⟩ <;>
          simp only [stepped] at ended ready step ⊢
        · rw [step nofun (alwaysReady_of_runFrom ready)]
          exact ih ended ready
        · rw [step (fun closed => ended (congrArg some closed)) ready]
          rfl
        · rw [step nofun ready]
      · rfl

end Recorded

def supply (m : Machine Buffered) (bytes : List Byte) : Machine Buffered :=
  { m with console := m.console.supply bytes }

/-- A run that is never told that there is no input, neither by a status that is not ready nor by a
read that fails, does not see how much there is. With any further input behind the first it ends
the same, in the same state and with the same output, by the same calls and replies, and leaves what
it left before and all of the further input. -/
theorem run_supply_of_ready {m : Machine Buffered} {fuel : Nat}
    (ended : (m.run fuel).1 ≠ some (.fault .inputClosed))
    (ready : (m.recorded.run fuel).2.console.AlwaysReady) (more : List Byte) :
    (m.supply more).run fuel = ((m.run fuel).1, (m.run fuel).2.supply more) ∧
      ((m.supply more).recorded.run fuel).2.console.exchanges =
        (m.recorded.run fuel).2.console.exchanges := by
  have plain := run_unrecorded m.recorded fuel
  have ended' : (m.recorded.run fuel).1 ≠ some (.fault .inputClosed) := by
    rwa [show m.run fuel = _ from plain] at ended
  have longer : (m.supply more).recorded.run fuel = _ := runFrom_longer ended' ready more
  refine ⟨?_, by rw [longer]; rfl⟩
  rw [show (m.supply more).run fuel = _ from run_unrecorded (m.supply more).recorded fuel, longer,
    show m.run fuel = _ from plain]
  rfl

def getcHalt : Image := ⟨0x3000, [0xF020, 0xF025], by decide⟩

/-- Both are still to come, with one byte waiting. -/
def asking : Machine Buffered := .ofImage .plain getcHalt (.ofInput [0x41])

/-- The byte has been read. -/
def holdingByte : Machine (Recorded Buffered) where
  cpu := asking.cpu.advance.commit (.load 0 0x41)
  console := ⟨.ofInput [], #[⟨.interrupted, .ok false⟩, ⟨.readByte, .ok 0x41⟩]⟩
  style := .plain

theorem after_holdingByte : After asking.recorded.begun 1 holdingByte := by
  have polled : Polled 0 asking.recorded.begun
      ⟨asking.cpu, ⟨asking.console, #[⟨.interrupted, .ok false⟩]⟩, .plain⟩ := .due (by simp) rfl
  have step : (Machine.mk asking.cpu ⟨asking.console, #[⟨.interrupted, .ok false⟩]⟩ .plain).step =
      (.ok (), holdingByte) :=
    step_eq_ok.2 ⟨.load 0 0x41, _, Processor.cycle_eq_ok.2
      ⟨0xF020, _, Processor.read_ofImage getcHalt (a := 0x3000) rfl _, rfl⟩, rfl⟩
  exact .next .start rfl polled step

theorem run_asking : ∃ m, asking.recorded.run 2 = (some (.ok ()), m) ∧ m.cpu.regs.get 0 = 0x41 ∧
    m.console.console.input = [] ∧ m.console.AlwaysReady := by
  obtain ⟨m, step, halted, got, left, ready⟩ : ∃ m, holdingByte.step = (.ok (), m) ∧
      m.cpu.status = .halted ∧ m.cpu.regs.get 0 = 0x41 ∧ m.console.console.input = [] ∧
      m.console.AlwaysReady := by
    refine ⟨_, step_eq_ok.2 ⟨.halt, _, Processor.cycle_eq_ok.2
      ⟨0xF025, _, Processor.read_ofImage getcHalt (a := 0x3001) rfl _, rfl⟩, rfl⟩,
      rfl, rfl, rfl, ?_⟩
    simp [Recorded.AlwaysReady, holdingByte, Console.hear]
  have polled : Polled 1 holdingByte holdingByte := .skipped (by simp)
  exact ⟨m, run_eq_iff.2 ⟨2, m, .next after_holdingByte rfl polled step, .halted halted,
    .inr ⟨rfl, rfl⟩⟩, got, left, ready⟩

theorem run_supply_of_ready_asking : ∃ m, asking.run 2 = (some (.ok ()), m) ∧
    (asking.supply [0x42]).run 2 = (some (.ok ()), m.supply [0x42]) ∧
    (m.supply [0x42]).cpu.regs.get 0 = 0x41 ∧ (m.supply [0x42]).console.input = [0x42] := by
  obtain ⟨m, run, got, left, ready⟩ := run_asking
  have plain : asking.run 2 = (some (.ok ()), m.unrecorded) := by
    rw [show asking.run 2 = _ from run_unrecorded asking.recorded 2, run]
  have ended : (asking.run 2).1 ≠ some (.fault .inputClosed) := by simp [plain]
  have told : (asking.recorded.run 2).2.console.AlwaysReady := by rwa [run]
  obtain ⟨longer, -⟩ := run_supply_of_ready ended told [0x42]
  rw [plain] at longer
  exact ⟨m.unrecorded, plain, longer, got, congrArg (· ++ [0x42]) left⟩

end Machine

end LC3
