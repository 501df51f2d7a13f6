import LC3.Proofs.DeviceCells
import LC3.Proofs.LongerInput
import LC3.Proofs.Routes

/-! What a program takes out of a queue of input over any history of steps, runs and further input.
Nothing that a console is asked loses a byte or hands one over twice, so what it has handed over and
what is left are all that it was given. And what it hands over in an instruction is what the
instruction takes along its route, so the bytes that were handed over can be listed with the ways in
which they were taken. -/

namespace LC3

theorem Buffered.bytes_append_input (q : Call) (c : Buffered) :
    Exchange.bytes ⟨q, (Console.answer q c).1⟩ ++ (Console.answer q c).2.input = c.input := by
  obtain ⟨input, output, interrupted⟩ := c
  cases q with
  | readByte => cases input <;> rfl
  | _ => rfl

/-- What was handed over, and after it what is left. -/
def Recorded.total (r : Recorded Buffered) : List Byte :=
  delivered r.exchanges.toList ++ r.console.input

theorem Recorded.total_answer (q : Call) (r : Recorded Buffered) :
    (Console.answer q r).2.total = r.total := by
  have kept := Buffered.bytes_append_input q r.console
  rcases answered : Console.answer q r with ⟨reply, r'⟩
  obtain ⟨rfl, rfl⟩ := Prod.mk.inj answered
  rw [total, Machine.exchanges_answer answered, delivered_snoc, List.append_assoc]
  exact congrArg _ kept

namespace Dialogue

variable {α : Type} {d : Dialogue α}

theorem Within.delivered_eq_nil {C : Type} [Console C] {ends : Outcome α → Prop}
    (h : d.Within ends (· ≠ .readByte)) (c : C) : delivered (d.exchanges c) = [] := by
  refine List.flatMap_eq_nil_iff.2 fun e asked => ?_
  have other := h.exchanges c e asked
  obtain ⟨q, reply⟩ := e
  cases q with
  | readByte => exact absurd rfl other
  | _ => rfl

/-- A console in memory refuses nothing but a read. -/
theorem AbstainsGiving.gives {gives : α → Prop} (h : d.AbstainsGiving gives) (c : Buffered) :
    (d.run c).1.Gives gives := by
  induction d generalizing c with
  | done a => exact h
  | fault f => exact h
  | endless => exact h
  | ask q next ih =>
    obtain ⟨other, h⟩ := h
    cases q with
    | inputReady => exact ih _ (h _) c
    | readByte => exact absurd rfl other
    | write bytes => exact ih () (h ()) { c with output := c.output ++ bytes }
    | flush => exact ih () (h ()) c
    | interrupted => exact ih _ (h _) c
  | note n next ih => exact ih h c

namespace ReadsOnce

variable {gives : Byte → α → Prop} {c : Buffered}

theorem run_nil (h : d.ReadsOnce gives) (empty : c.input = []) :
    (d.run c).1 = .fault .inputClosed ∧ delivered (d.exchanges c) = [] := by
  induction d generalizing c with
  | done a => exact h.elim
  | fault f => exact h.elim
  | endless => exact h.elim
  | ask q next ih =>
    cases q with
    | inputReady => exact h.elim
    | readByte =>
      have refused : Console.answer .readByte c = (.error .inputClosed, c) := by
        obtain ⟨input, output, interrupted⟩ := c
        obtain rfl : input = [] := empty
        rfl
      rw [run_ask_error refused, exchanges_ask_error refused]
      exact ⟨rfl, rfl⟩
    | write bytes => exact ih () h (c := { c with output := c.output ++ bytes }) empty
    | flush => exact ih () h empty
    | interrupted => exact h.elim
  | note n next ih => exact ih h empty

theorem run_cons (h : d.ReadsOnce gives) {b : Byte} {rest : List Byte}
    (waiting : c.input = b :: rest) :
    (d.run c).1.Gives (gives b) ∧ delivered (d.exchanges c) = [b] := by
  induction d generalizing c with
  | done a => exact h.elim
  | fault f => exact h.elim
  | endless => exact h.elim
  | ask q next ih =>
    cases q with
    | inputReady => exact h.elim
    | readByte =>
      have handed : Console.answer .readByte c = (.ok b, { c with input := rest }) := by
        obtain ⟨input, output, interrupted⟩ := c
        obtain rfl : input = b :: rest := waiting
        rfl
      have later := Within.delivered_eq_nil (h b) { c with input := rest }
      rw [run_ask_ok handed, exchanges_ask_ok handed]
      exact ⟨AbstainsGiving.gives (h b) _, congrArg (b :: ·) later⟩
    | write bytes => exact ih () h (c := { c with output := c.output ++ bytes }) waiting
    | flush => exact ih () h waiting
    | interrupted => exact h.elim
  | note n next ih => exact ih h waiting

end ReadsOnce

/-- Whatever is done, nothing is taken from the queue. -/
def TakesNothing (d : Dialogue α) : Prop := ∀ c : Buffered, (d.run c).2.input = c.input

theorem delivered_append_input (d : Dialogue α) (c : Buffered) :
    delivered (d.exchanges c) ++ (d.run c).2.input = c.input := by
  obtain ⟨-, console, exchanges⟩ := d.run_recorded (.ofConsole c)
  have kept : (d.run (Recorded.ofConsole c)).2.total = c.input :=
    run_keeps (I := fun r : Recorded Buffered => r.total = c.input)
      (fun q r h => (r.total_answer q).trans h) (fun _ _ => id) d rfl
  rw [Recorded.total, console, exchanges] at kept
  exact kept

theorem Within.takesNothing {ends : Outcome α → Prop} (h : d.Within ends (· ≠ .readByte)) :
    d.TakesNothing := by
  intro c
  have kept := d.delivered_append_input c
  rwa [h.delivered_eq_nil c] at kept

end Dialogue

/-- A byte that was taken, and in which way. -/
structure Take where
  route : Route
  byte : Byte

namespace Machine

variable {C : Type} [Console C]

/-- What the next instruction takes from the queue. -/
def takes (m : Machine Buffered) : List Take :=
  match m.cpu.route?, m.console.input with
  | some route, byte :: _ => [⟨route, byte⟩]
  | some _, [] | none, _ => []

theorem delivered_exchanges (m : Machine Buffered) :
    delivered m.exchanges = m.takes.map Take.byte := by
  have follows := m.cpu.cycle_follows m.style
  unfold exchanges takes
  cases route : m.cpu.route? with
  | none =>
    rw [route] at follows
    exact Dialogue.Within.delivered_eq_nil follows m.console
  | some r =>
    rw [route] at follows
    cases waiting : m.console.input with
    | nil => exact (Dialogue.ReadsOnce.run_nil follows waiting).2
    | cons b rest => exact (Dialogue.ReadsOnce.run_cons follows waiting).2

theorem takes_of_route {m : Machine Buffered} {r : Route} {b : Byte} {rest : List Byte}
    (route : m.cpu.route? = some r) (waiting : m.console.input = b :: rest) :
    m.takes = [⟨r, b⟩] := by
  rw [takes, route, waiting]

theorem mem_takes {m : Machine Buffered} {t : Take} :
    t ∈ m.takes ↔ m.cpu.route? = some t.route ∧ ∃ rest, m.console.input = t.byte :: rest := by
  unfold takes
  cases m.cpu.route? with
  | none => simp
  | some r =>
    cases m.console.input with
    | nil => simp
    | cons b rest =>
      rw [List.mem_singleton]
      constructor
      · rintro rfl
        exact ⟨rfl, rest, rfl⟩
      · rintro ⟨⟨⟩, _, ⟨⟩⟩
        rfl

/-- An instruction that takes a byte succeeds, and a byte that is for a register gets there. -/
theorem step_of_mem_takes {m : Machine Buffered} {t : Take} (h : t ∈ m.takes) :
    m.step.1 = .ok () ∧ ∀ dst, t.route.destination? = some dst →
      m.step.2.cpu.regs.get dst = .ofByte t.byte ∧
        m.step.2.cpu.regs.flag = .of (.ofByte t.byte) := by
  obtain ⟨route, rest, waiting⟩ := mem_takes.1 h
  have follows := m.cpu.cycle_follows m.style
  rw [route] at follows
  obtain ⟨⟨e, ended, gives⟩, -⟩ := Dialogue.ReadsOnce.run_cons follows waiting
  have step : m.step = (.ok (), _) := step_eq_ok.2 ⟨e, _, Prod.ext ended rfl, rfl⟩
  rw [step]
  refine ⟨rfl, fun dst known => ?_⟩
  obtain rfl := gives dst known
  exact ⟨(Registers.get_set _ _ _ _).trans (if_pos rfl), rfl⟩

/-- The machines that a run carries its instructions out on, in order. -/
def instructions : (fuel : Nat) → (count : UInt32) → Machine C → List (Machine C)
  | 0, _, _ => []
  | fuel + 1, count, m =>
    match m.cpu.status with
    | .halted => []
    | .running =>
      match m.poll count with
      | (some _, _) => []
      | (none, m) => m ::
        match m.step with
        | (.ok _, next) => instructions fuel (count + 1) next
        | (.fault _, _) | (.endless, _) => []

theorem instructions_halted {m : Machine C} (h : m.cpu.status = .halted) (fuel : Nat)
    (count : UInt32) : m.instructions fuel count = [] := by
  cases fuel with
  | zero => rfl
  | succ fuel => rw [instructions, h]

theorem instructions_succ {m : Machine C} (h : m.cpu.status = .running) (fuel : Nat)
    (count : UInt32) : m.instructions (fuel + 1) count =
      match m.poll count with
      | (some _, _) => []
      | (none, m) => m ::
        match m.step with
        | (.ok _, next) => next.instructions fuel (count + 1)
        | (.fault _, _) | (.endless, _) => [] := by
  rw [instructions, h]

theorem After.of_getElem?_instructions {m₀ m m' : Machine C} {k i fuel : Nat} (h : After m₀ k m)
    (listed : (m.instructions fuel (UInt32.ofNat k))[i]? = some m') :
    i < fuel ∧ ∃ m₁, After m₀ (k + i) m₁ ∧ m₁.cpu.status = .running ∧ Polled (k + i) m₁ m' := by
  induction fuel generalizing k m i with
  | zero => exact absurd listed (by simp [instructions])
  | succ fuel ih =>
    cases status : m.cpu.status with
    | halted =>
      rw [instructions_halted status] at listed
      exact absurd listed (by simp)
    | running =>
      rw [instructions_succ status] at listed
      rcases poll : m.poll (UInt32.ofNat k) with ⟨_ | f, m₁⟩ <;> simp only [poll] at listed
      · have polled := poll_eq_none.1 poll
        cases i with
        | zero =>
          obtain rfl : m₁ = m' := by simpa using listed
          exact ⟨Nat.succ_pos fuel, m, h, status, polled⟩
        | succ i =>
          rw [List.getElem?_cons_succ] at listed
          rcases step : m₁.step with ⟨_ | f | _, m₂⟩ <;> simp only [step] at listed
          · rw [show UInt32.ofNat k + 1 = UInt32.ofNat (k + 1) from (UInt32.ofNat_add k 1).symm]
              at listed
            obtain ⟨before, after⟩ := ih (.next h status polled step) listed
            rw [show k + 1 + i = k + (i + 1) by omega] at after
            exact ⟨Nat.succ_lt_succ before, after⟩
          · exact absurd listed (by simp)
          · exact absurd listed (by simp)
      · exact absurd listed (by simp)

theorem After.instructions {m m' : Machine C} {k : Nat} (h : After m k m') (fuel : Nat) :
    ∃ past : List (Machine C), past.length = k ∧
      m.instructions (k + fuel) 0 = past ++ m'.instructions fuel (UInt32.ofNat k) := by
  induction h generalizing fuel with
  | start => exact ⟨[], rfl, by rw [Nat.zero_add]; rfl⟩
  | @next k m₁ m₂ m₃ _ running polled step ih =>
    obtain ⟨past, rfl, listed⟩ := ih (1 + fuel)
    refine ⟨past ++ [m₂], by simp, ?_⟩
    rw [Nat.add_assoc, listed, Nat.add_comm 1 fuel, instructions_succ running,
      poll_eq_none.2 polled, UInt32.ofNat_add, List.append_assoc]
    simp only [step]
    rfl

/-- Instruction number `k` of a run is carried out on what the first `k` of them leave, and a poll
after them if it is due. -/
theorem getElem?_instructions {m m' : Machine C} {fuel k : Nat} :
    (m.instructions fuel 0)[k]? = some m' ↔
      k < fuel ∧ ∃ m₁, After m k m₁ ∧ m₁.cpu.status = .running ∧ Polled k m₁ m' := by
  constructor
  · intro listed
    have found := After.start.of_getElem?_instructions (k := 0) listed
    rwa [Nat.zero_add] at found
  · rintro ⟨before, m₁, after, running, polled⟩
    obtain ⟨d, rfl⟩ : ∃ d, fuel = k + (d + 1) := ⟨fuel - (k + 1), by omega⟩
    obtain ⟨past, rfl, listed⟩ := after.instructions (d + 1)
    rw [listed, List.getElem?_append_right (Nat.le_refl _), Nat.sub_self,
      instructions_succ running, poll_eq_none.2 polled]
    rfl

/-- What a run takes from the queue. -/
def takesOfRun (fuel : Nat) (m : Machine Buffered) : List Take :=
  (m.begun.instructions fuel 0).flatMap takes

theorem delivered_poll (m : Machine (Recorded C)) (count : UInt32) :
    delivered (m.poll count).2.console.exchanges.toList =
      delivered m.console.exchanges.toList := by
  have nothing (reply : Call.interrupted.Reply) (es : List Exchange) :
      delivered (es ++ [⟨.interrupted, reply⟩]) = delivered es := by
    rw [delivered_snoc]
    exact List.append_nil _
  unfold poll
  split
  · rcases answered : Console.answer .interrupted m.console with ⟨reply, r⟩
    have asked := congrArg delivered (exchanges_answer answered)
    rw [nothing] at asked
    rcases reply with _ | _ | _
    · exact asked
    · exact asked
    · exact asked
  · rfl

theorem delivered_step (m : Machine (Recorded Buffered)) :
    delivered m.step.2.console.exchanges.toList =
      delivered m.console.exchanges.toList ++ m.unrecorded.takes.map Take.byte := by
  rw [step_exchanges, ← delivered_exchanges]
  exact List.flatMap_append

theorem delivered_runFrom (m : Machine (Recorded Buffered)) (fuel : Nat) (count : UInt32) :
    delivered (m.runFrom fuel count).2.console.exchanges.toList =
      delivered m.console.exchanges.toList ++
        ((m.unrecorded.instructions fuel count).flatMap takes).map Take.byte := by
  induction fuel generalizing m count with
  | zero =>
    cases status : m.cpu.status with
    | halted => rw [runFrom_halted status]; simp [instructions]
    | running => rw [runFrom_zero status]; simp [instructions]
  | succ fuel ih =>
    cases status : m.cpu.status with
    | halted =>
      rw [runFrom_halted status, instructions_halted (m := m.unrecorded) status]
      simp
    | running =>
      have polled := delivered_poll m count
      rw [runFrom_succ status, instructions_succ (m := m.unrecorded) status, poll_unrecorded]
      rcases poll : m.poll count with ⟨_ | f, m₁⟩ <;> rw [poll] at polled
      · have stepped := delivered_step m₁
        simp only at polled ⊢
        rw [polled] at stepped
        rw [step_unrecorded, List.flatMap_cons, List.map_append, ← List.append_assoc, ← stepped]
        rcases m₁.step with ⟨_ | f | _, m₂⟩
        · exact ih m₂ (count + 1)
        · exact (List.append_nil _).symm
        · exact (List.append_nil _).symm
      · exact polled.trans (List.append_nil _).symm

theorem delivered_run (m : Machine Buffered) (fuel : Nat) :
    delivered (m.recorded.run fuel).2.console.exchanges.toList =
      (m.takesOfRun fuel).map Take.byte :=
  delivered_runFrom m.recorded.begun fuel 0

theorem takes_append_input (m : Machine Buffered) :
    m.takes.map Take.byte ++ m.step.2.console.input = m.console.input := by
  rw [← delivered_exchanges, step_console]
  exact (m.cpu.cycle m.style).delivered_append_input m.console

theorem takesOfRun_append_input (m : Machine Buffered) (fuel : Nat) :
    (m.takesOfRun fuel).map Take.byte ++ (m.run fuel).2.console.input = m.console.input := by
  have keeps : Keeps fun m' : Machine (Recorded Buffered) => m'.console.total = m.console.input :=
    .of_console (I := fun r : Recorded Buffered => r.total = m.console.input)
      (fun q r h => (r.total_answer q).trans h) (fun _ _ => id)
  have kept : (m.recorded.run fuel).2.console.total = m.console.input := keeps.run rfl fuel
  rw [Recorded.total, delivered_run] at kept
  rwa [show m.run fuel = _ from run_unrecorded m.recorded fuel]

/-- A machine as it was started, stepped, run and given more input, with all that it has taken and
all that it was given since. What goes before it need not have succeeded. -/
inductive Intake (m₀ : Machine Buffered) : List Take → List Byte → Machine Buffered → Prop where
  | start : Intake m₀ [] [] m₀
  | step {taken : List Take} {given : List Byte} {m : Machine Buffered}
      (before : Intake m₀ taken given m) : Intake m₀ (taken ++ m.takes) given m.step.2
  | run {taken : List Take} {given : List Byte} {m : Machine Buffered}
      (before : Intake m₀ taken given m) (fuel : Nat) :
    Intake m₀ (taken ++ m.takesOfRun fuel) given (m.run fuel).2
  | push {taken : List Take} {given : List Byte} {m : Machine Buffered}
      (before : Intake m₀ taken given m) (bytes : List Byte) :
    Intake m₀ taken (given ++ bytes) (m.supply bytes)

theorem Intake.accounts {m₀ m : Machine Buffered} {taken : List Take} {given : List Byte}
    (h : Intake m₀ taken given m) :
    taken.map Take.byte ++ m.console.input = m₀.console.input ++ given := by
  induction h with
  | start => exact (List.append_nil _).symm
  | step before ih => rw [List.map_append, List.append_assoc, takes_append_input, ih]
  | run before fuel ih => rw [List.map_append, List.append_assoc, takesOfRun_append_input, ih]
  | push before bytes ih =>
    rw [← List.append_assoc, ← ih, List.append_assoc]
    rfl

theorem poll_input (m : Machine Buffered) (count : UInt32) :
    (m.poll count).2.console.input = m.console.input := by
  obtain ⟨cpu, ⟨input, output, interrupted⟩, style⟩ := m
  unfold poll
  split
  · cases interrupted <;> rfl
  · rfl

/-- Over any history of steps, runs and further input, whether these succeed or fail, the bytes that
were taken along all routes, in the order in which they were taken, and after them the queue, are
the input at the start and after it all that was given since. The bytes taken are those that the
console handed over. A byte for a register gets there, and the flag is set from it. Where an
instruction has no route it takes nothing: no device but the keyboard's data does when it is read,
none at all when it is written to, nor a poll, nor the printing of a string, wherever it lies. -/
theorem taken_by_route :
    (∀ (m₀ m : Machine Buffered) (taken : List Take) (given : List Byte),
      Intake m₀ taken given m →
        taken.map Take.byte ++ m.console.input = m₀.console.input ++ given) ∧
    (∀ m : Machine Buffered, delivered m.exchanges = m.takes.map Take.byte) ∧
    (∀ (m : Machine Buffered) (fuel : Nat),
      delivered (m.recorded.run fuel).2.console.exchanges.toList =
        (m.takesOfRun fuel).map Take.byte) ∧
    (∀ (m : Machine Buffered) (t : Take), t ∈ m.takes →
      m.step.1 = .ok () ∧ ∀ dst, t.route.destination? = some dst →
        m.step.2.cpu.regs.get dst = .ofByte t.byte ∧
          m.step.2.cpu.regs.flag = .of (.ofByte t.byte)) ∧
    (∀ m : Machine Buffered, m.cpu.route? = none → (m.cpu.cycle m.style).TakesNothing) ∧
    (∀ d : Device, d ≠ .keyboardData → d.read.TakesNothing) ∧
    (∀ a w : Word, (Bus.write a w).TakesNothing) ∧
    (∀ (m : Machine Buffered) (count : UInt32),
      (m.poll count).2.console.input = m.console.input) ∧
    ∀ (mem : Memory) (a : Word) (bytes : Word → List Byte),
      (Routine.printString mem a bytes).TakesNothing := by
  refine ⟨fun m₀ m taken given h => h.accounts, delivered_exchanges, delivered_run,
    fun m t h => step_of_mem_takes h, fun m route => ?_, fun d other => ?_, fun a w => ?_,
    poll_input, fun mem a bytes => ?_⟩
  · have follows := m.cpu.cycle_follows m.style
    rw [route] at follows
    exact Dialogue.Within.takesNothing follows
  · exact Dialogue.Within.takesNothing (Bus.device_abstains other)
  · exact Dialogue.Within.takesNothing (Bus.write_abstains a w)
  · exact Dialogue.Within.takesNothing (Routine.printString_abstains mem a bytes)

/-- `LDI R3, #1`, and behind the next address a pointer to the keyboard's data. -/
def ldiKeyboard : Image := ⟨0x3000, [0xA601, 0, 0xFE02], by decide⟩

def loadsByte : Machine Buffered := .ofImage .plain ldiKeyboard (.ofInput [0x80])

theorem route_loadsByte : loadsByte.cpu.route? = some (.ldi 3) := by
  have read (a : Word) : loadsByte.cpu.mem.get a = ldiKeyboard.cell a :=
    Processor.get_ofImage ldiKeyboard a
  have decoded (cpu : Processor) : cpu.advance.routeOf? 0xA601 =
      Bus.route? cpu.mem (cpu.advance.near 1#9) .ldiPointer fun pointer =>
        Bus.route? cpu.mem pointer (.ldi 3) fun _ => none := rfl
  have pointer : loadsByte.cpu.advance.near 1#9 = 0x3002 := rfl
  calc loadsByte.cpu.route?
    _ = loadsByte.cpu.advance.routeOf? (ldiKeyboard.cell loadsByte.cpu.regs.pc) := by
      rw [Processor.route?, Bus.route?_stored (by decide), read]
    _ = Bus.route? loadsByte.cpu.mem 0x3002 .ldiPointer fun pointer =>
        Bus.route? loadsByte.cpu.mem pointer (.ldi 3) fun _ => none := by
      rw [← pointer]
      exact decoded loadsByte.cpu
    _ = Bus.route? loadsByte.cpu.mem (ldiKeyboard.cell 0x3002) (.ldi 3) fun _ => none := by
      rw [Bus.route?_stored (by decide), read]
    _ = some (.ldi 3) := rfl

/-- The byte is loaded although more input has come since, which waits for its turn. -/
theorem taken_by_route_loadsByte :
    ∃ m, Intake loadsByte [⟨.ldi 3, 0x80⟩] [0x41] m ∧ m.console.input = [0x41] ∧
      m.cpu.regs.get 3 = 0x80 ∧ m.cpu.regs.flag = .positive := by
  obtain ⟨accounts, -, -, lands, -⟩ := taken_by_route
  have supplied : Intake loadsByte [] [0x41] (loadsByte.supply [0x41]) := Intake.start.push [0x41]
  have route : (loadsByte.supply [0x41]).cpu.route? = some (.ldi 3) := by
    rw [show (loadsByte.supply [0x41]).cpu = loadsByte.cpu from rfl, route_loadsByte]
  have waiting : (loadsByte.supply [0x41]).console.input = 0x80 :: [0x41] := rfl
  have takes := takes_of_route route waiting
  have reached := supplied.step
  rw [takes] at reached
  obtain ⟨-, register⟩ := lands (loadsByte.supply [0x41]) ⟨.ldi 3, 0x80⟩ (by simp [takes])
  generalize (loadsByte.supply [0x41]).step.2 = m at reached register
  obtain ⟨loaded, flag⟩ := register 3 rfl
  have left : [0x80] ++ m.console.input = [0x80] ++ [0x41] := accounts _ _ _ _ reached
  exact ⟨m, reached, List.append_cancel_left left, loaded, flag⟩

end Machine

end LC3
