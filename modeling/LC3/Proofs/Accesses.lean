import LC3.Proofs.Faults
import LC3.Proofs.History

/-! What one instruction asks of the devices. Nothing keeps an instruction from going to the bus
three times, but what a device puts on the bus is a byte, zero or the ready bit. Carried out as an
instruction, such a word does nothing or is privileged, and as a pointer it leads to a stored cell.
So behind an access to a device no second one can follow, and no call for input either. -/

namespace LC3

def Note.device? : Note → Option Device
  | .access device => some device
  | _ => none

def Call.asksInput : Call → Bool
  | .inputReady | .readByte => true
  | .write _ | .flush | .interrupted => false

def inputCalls (es : List Exchange) : List Exchange := es.filter (·.call.asksInput)

theorem length_inputCalls_cons (e : Exchange) (es : List Exchange) :
    (inputCalls (e :: es)).length = e.call.asksInput.toNat + (inputCalls es).length := by
  cases asks : e.call.asksInput <;> simp [inputCalls, asks, Nat.add_comm]

/-- Only a call for input delivers a byte, and only one. -/
theorem length_delivered_le (es : List Exchange) :
    (delivered es).length ≤ (inputCalls es).length := by
  induction es with
  | nil => exact Nat.le_refl 0
  | cons e es ih =>
    have one : e.bytes.length ≤ e.call.asksInput.toNat := by
      obtain ⟨q, reply⟩ := e
      cases q with
      | readByte => cases reply <;> simp [Exchange.bytes, received, Call.asksInput]
      | _ => exact Nat.zero_le _
    rw [length_inputCalls_cons, delivered, List.flatMap_cons, List.length_append]
    exact Nat.add_le_add one ih

namespace Dialogue

variable {α β C : Type}

/-- The devices accessed in a run, in order. -/
def accesses [Console C] : Dialogue α → C → List Device
  | done _, _ | fault _, _ | endless, _ => []
  | ask q next, c =>
    match Console.answer q c with
    | (.ok a, c) => (next a).accesses c
    | (.error _, _) => []
  | note n next, c => n.device?.toList ++ next.accesses (Console.hear n c)

/-- However the console answers, no more than so many devices are accessed, no more than so many
calls ask for input, and a value it comes to is as `gives` says. -/
def Spends (gives : α → Prop) : (devices inputs : Nat) → Dialogue α → Prop
  | _, _, done a => gives a
  | _, _, fault _ | _, _, endless => True
  | devices, inputs, ask q next =>
    q.asksInput.toNat ≤ inputs ∧ ∀ a, Spends gives devices (inputs - q.asksInput.toNat) (next a)
  | devices, inputs, note n next =>
    n.device?.toList.length ≤ devices ∧ Spends gives (devices - n.device?.toList.length) inputs next

namespace Spends

variable {d : Dialogue α} {gives gives' : α → Prop} {devices devices' inputs inputs' : Nat}

theorem mono (h : d.Spends gives devices inputs) (hd : devices ≤ devices') (hi : inputs ≤ inputs') :
    d.Spends gives devices' inputs' := by
  induction d generalizing devices devices' inputs inputs' with
  | done a => exact h
  | fault f => trivial
  | endless => trivial
  | ask q next ih =>
    obtain ⟨enough, h⟩ := h
    exact ⟨Nat.le_trans enough hi, fun a => ih a (h a) hd (Nat.sub_le_sub_right hi _)⟩
  | note n next ih =>
    obtain ⟨enough, h⟩ := h
    exact ⟨Nat.le_trans enough hd, ih h (Nat.sub_le_sub_right hd _) hi⟩

theorem bind {g : α → Dialogue β} {givesβ : β → Prop} (h : d.Spends gives devices inputs)
    (hg : ∀ a, gives a → (g a).Spends givesβ devices' inputs') :
    (d >>= g).Spends givesβ (devices + devices') (inputs + inputs') := by
  induction d generalizing devices inputs with
  | done a => exact (hg a h).mono (Nat.le_add_left _ _) (Nat.le_add_left _ _)
  | fault f => trivial
  | endless => trivial
  | ask q next ih =>
    obtain ⟨enough, h⟩ := h
    refine ⟨Nat.le_add_right_of_le enough, fun a => ?_⟩
    rw [Nat.sub_add_comm enough]
    exact ih a (h a)
  | note n next ih =>
    obtain ⟨enough, h⟩ := h
    refine ⟨Nat.le_add_right_of_le enough, ?_⟩
    rw [Nat.sub_add_comm enough]
    exact ih h

theorem run [Console C] (h : d.Spends gives devices inputs) (c : C) :
    (d.accesses c).length ≤ devices ∧ (inputCalls (d.exchanges c)).length ≤ inputs := by
  induction d generalizing devices inputs c with
  | done a => exact ⟨Nat.zero_le _, Nat.zero_le _⟩
  | fault f => exact ⟨Nat.zero_le _, Nat.zero_le _⟩
  | endless => exact ⟨Nat.zero_le _, Nat.zero_le _⟩
  | ask q next ih =>
    obtain ⟨enough, h⟩ := h
    rw [accesses, exchanges]
    rcases Console.answer q c with ⟨f | a, c'⟩
    · refine ⟨Nat.zero_le _, ?_⟩
      rw [length_inputCalls_cons]
      exact enough
    · obtain ⟨fewDevices, fewInputs⟩ := ih a (h a) c'
      refine ⟨fewDevices, ?_⟩
      rw [length_inputCalls_cons, Nat.add_comm]
      exact Nat.add_le_of_le_sub enough fewInputs
  | note n next ih =>
    obtain ⟨enough, h⟩ := h
    obtain ⟨fewDevices, fewInputs⟩ := ih h (Console.hear n c)
    refine ⟨?_, fewInputs⟩
    rw [accesses, List.length_append]
    omega

theorem accesses_eq_nil [Console C] (h : d.Spends gives 0 inputs) (c : C) : d.accesses c = [] :=
  List.eq_nil_of_length_eq_zero (Nat.le_zero.1 (h.run c).1)

end Spends

/-- A dialogue that neither accesses a device nor asks for input. -/
def Frugal (d : Dialogue α) : Prop := d.Spends (fun _ => True) 0 0

theorem frugal_pure (a : α) : (pure a : Dialogue α).Frugal := trivial

theorem frugal_print (bytes : List Byte) : (print bytes).Frugal :=
  ⟨Nat.le_refl 0, fun _ => ⟨Nat.le_refl 0, fun _ => trivial⟩⟩

end Dialogue

open Dialogue

namespace Device

/-- What a device may put on the bus: the ready bit, or a word with nothing in its high byte. -/
def Supplies (w : Word) : Prop := w = ready ∨ w.toNat < 0x100

theorem toNat_ofByte_lt (b : Byte) : (Word.ofByte b).toNat < 0x100 := by
  rw [Word.toNat_ofByte]
  exact b.toBitVec.isLt

theorem ofByte_ne_ready (b : Byte) : Word.ofByte b ≠ ready := by
  intro same
  have small := toNat_ofByte_lt b
  rw [same] at small
  exact absurd small (by decide)

theorem read_spends (d : Device) : d.read.Spends Supplies 0 1 := by
  cases d with
  | keyboardStatus =>
    refine ⟨Nat.le_refl 1, fun available => ?_⟩
    cases available with
    | true => exact .inl rfl
    | false => exact .inr (by decide)
  | keyboardData =>
    exact ⟨Nat.le_refl 1, fun byte => ⟨Nat.le_refl 0, .inr (toNat_ofByte_lt byte)⟩⟩
  | displayStatus => exact .inl rfl
  | displayData => exact .inr (by decide)

theorem write_frugal (d : Device) (w : Word) : (d.write w).Frugal := by
  cases d with
  | displayData => exact frugal_print _
  | _ => trivial

/-- As a pointer such a word leads to a stored cell. -/
theorem at?_of_supplies {w : Word} (h : Supplies w) : at? w = none := by
  cases found : at? w with
  | none => rfl
  | some d =>
    obtain rfl := at?_eq_some_iff.1 found
    obtain ready | small := h
    · cases d <;> exact absurd ready (by decide)
    · cases d <;> exact absurd small (by decide)

end Device

namespace Bus

variable {α C : Type} [Console C]

/-- The words a device supplies must not be used to ask for more; one from a stored cell may. -/
theorem read_bind_spends {mem : Memory} {a : Word} {g : Word → Dialogue α} {gives : α → Prop}
    (stored : (g (mem.get a)).Spends gives 1 1)
    (supplied : ∀ w, Device.Supplies w → (g w).Spends gives 0 0) :
    (read mem a >>= g).Spends gives 1 1 := by
  unfold read
  split
  · exact stored
  next d _ => exact ⟨Nat.le_refl 1, d.read_spends.bind supplied⟩

theorem write_spends (a w : Word) : (write a w).Spends (fun _ => True) 1 1 := by
  unfold write
  split
  · trivial
  next d _ =>
    have frugal := (d.write_frugal w).bind fun _ _ => frugal_pure Effect.nothing
    exact ⟨Nat.le_refl 1, frugal.mono (Nat.le_refl 0) (Nat.zero_le 1)⟩

theorem write_of_supplies {a : Word} (h : Device.Supplies a) (w : Word) :
    write a w = pure (.store a w) := by
  rw [write, Device.at?_of_supplies h]

/-- Going to the bus is an access to the device at the address, and to no other. -/
theorem accesses_read (mem : Memory) (a : Word) (c : C) :
    (read mem a).accesses c = (Device.at? a).toList := by
  unfold read
  cases Device.at? a with
  | none => rfl
  | some d => exact congrArg (d :: ·) (d.read_spends.accesses_eq_nil _)

theorem accesses_write (a w : Word) (c : C) :
    (write a w).accesses c = (Device.at? a).toList := by
  unfold write
  cases Device.at? a with
  | none => rfl
  | some d =>
    have frugal := (d.write_frugal w).bind fun _ _ => frugal_pure Effect.nothing
    exact congrArg (d :: ·) (frugal.accesses_eq_nil _)

end Bus

namespace Routine

theorem printString_frugal (mem : Memory) (a : Word) (bytes : Word → List Byte) :
    (printString mem a bytes).Frugal := by
  unfold printString
  split
  · trivial
  · exact (frugal_print _).bind fun _ _ => frugal_pure _

theorem serve_spends (style : Style) (regs : Registers) (mem : Memory) (pc : Word) (r : Routine) :
    (r.serve style regs mem pc).Spends (fun _ => True) 0 1 := by
  have one (b : Byte) : (pure (.load 0 (.ofByte b)) : Dialogue Effect).Frugal := frugal_pure _
  have read : readByte.Spends (fun _ => True) 0 1 := ⟨Nat.le_refl 1, fun _ => trivial⟩
  cases r with
  | getc => exact read.bind fun b _ => one b
  | out =>
    exact ((frugal_print _).bind fun _ _ => frugal_pure _).mono (Nat.le_refl 0) (Nat.zero_le 1)
  | puts => exact (printString_frugal _ _ _).mono (Nat.le_refl 0) (Nat.zero_le 1)
  | input =>
    have echo (b : Byte) := (frugal_print [b]).bind fun _ _ => one b
    exact (frugal_print _).bind fun _ _ => read.bind fun b _ => echo b
  | putsp => exact (printString_frugal _ _ _).mono (Nat.le_refl 0) (Nat.zero_le 1)
  | halt =>
    have told : (Dialogue.tell (.halted pc)).Frugal := ⟨Nat.le_refl 0, trivial⟩
    have frugal := (frugal_print (haltNotice style)).bind fun _ _ =>
      told.bind fun _ _ => frugal_pure Effect.halt
    exact frugal.mono (Nat.le_refl 0) (Nat.zero_le 1)

end Routine

namespace Processor

/-- As an instruction a word from a device does nothing, or is privileged. -/
theorem execute_of_supplies (style : Style) (cpu : Processor) (pc : Word) {w : Word}
    (h : Device.Supplies w) : cpu.execute style pc w =
      if w = Device.ready then .fault (.privilegedInstruction pc) else pure .nothing := by
  by_cases ready : w = Device.ready
  · rw [if_pos ready, ready]
    exact execute_of_illegal style cpu (.privileged rfl)
  · have small := h.resolve_left ready
    have branch : w.opcode = .br := by
      rw [Word.opcode_eq_iff, Word.field]
      change w.toNat / 2 ^ 12 % 2 ^ 4 = 0
      omega
    have never : w.upper = 0 := by
      apply BitVec.eq_of_toNat_eq
      rw [Word.toNat_upper, Word.field]
      change w.toNat / 2 ^ 9 % 2 ^ 3 = 0
      omega
    have passed : cpu.regs.flag.meets w.upper = false := by
      rw [never]
      cases cpu.regs.flag <;> rfl
    rw [if_neg ready]
    simp only [execute, Instruction.decode, branch, passed]
    rfl

theorem execute_spends (style : Style) (cpu : Processor) (pc w : Word) :
    (cpu.execute style pc w).Spends (fun _ => True) 1 1 := by
  unfold execute
  cases Instruction.decode w with
  | ld dst offset => exact Bus.read_bind_spends trivial fun _ _ => trivial
  | ldi dst offset =>
    refine Bus.read_bind_spends ?_ fun pointer supplied => ?_
    · exact Bus.read_bind_spends trivial fun _ _ => trivial
    · rw [Bus.read_stored (Device.at?_of_supplies supplied)]
      trivial
  | ldr dst base offset => exact Bus.read_bind_spends trivial fun _ _ => trivial
  | st src offset => exact Bus.write_spends _ _
  | sti src offset =>
    refine Bus.read_bind_spends (Bus.write_spends _ _) fun pointer supplied => ?_
    rw [Bus.write_of_supplies supplied]
    trivial
  | str src base offset => exact Bus.write_spends _ _
  | trap vector =>
    simp only
    split
    · exact (Routine.serve_spends _ _ _ _ _).mono (Nat.zero_le 1) (Nat.le_refl 1)
    · trivial
  | _ => trivial

theorem cycle_spends (style : Style) (cpu : Processor) :
    (cpu.cycle style).Spends (fun _ => True) 1 1 := by
  refine Bus.read_bind_spends ⟨Nat.zero_le 1, execute_spends _ _ _ _⟩ fun w supplied => ?_
  refine ⟨Nat.le_refl 0, ?_⟩
  change (cpu.advance.execute style cpu.regs.pc w).Spends (fun _ => True) 0 0
  rw [execute_of_supplies style cpu.advance cpu.regs.pc supplied]
  split
  · trivial
  · trivial

end Processor

namespace Machine

variable {C : Type} [Console C] {m : Machine C}

/-- The devices that the next instruction accesses, in order. -/
def accesses (m : Machine C) : List Device := (m.cpu.cycle m.style).accesses m.console

/-- How an instruction goes that is fetched from a device at address `pc`, with the console at `c`:
what is asked and heard, and how it ends. -/
inductive FetchedFrom (pc : Word) (c : C) : Device → List Exchange → Outcome Unit → Prop where
  | notReady {c' : C} (answer : Console.answer .inputReady c = (.ok false, c')) :
    FetchedFrom pc c .keyboardStatus [⟨.inputReady, .ok false⟩] (.ok ())
  | ready {c' : C} (answer : Console.answer .inputReady c = (.ok true, c')) :
    FetchedFrom pc c .keyboardStatus [⟨.inputReady, .ok true⟩] (.fault (.privilegedInstruction pc))
  | statusFails {f : Fault} {c' : C} (answer : Console.answer .inputReady c = (.error f, c')) :
    FetchedFrom pc c .keyboardStatus [⟨.inputReady, .error f⟩] (.fault f)
  | byte {b : Byte} {c' : C} (answer : Console.answer .readByte c = (.ok b, c')) :
    FetchedFrom pc c .keyboardData [⟨.readByte, .ok b⟩] (.ok ())
  | dataFails {f : Fault} {c' : C} (answer : Console.answer .readByte c = (.error f, c')) :
    FetchedFrom pc c .keyboardData [⟨.readByte, .error f⟩] (.fault f)
  | displayStatus : FetchedFrom pc c .displayStatus [] (.fault (.privilegedInstruction pc))
  | displayData : FetchedFrom pc c .displayData [] (.ok ())

/-- A fetch that brings a word from a device is all that happens. -/
theorem step_of_supplies {w : Word} {c : C} (supplied : Device.Supplies w)
    (fetched : (Bus.read m.cpu.mem m.cpu.regs.pc).run m.console = (.ok w, c)) :
    m.step.2.cpu = m.cpu.advance ∧
      m.step.1 = (if w = Device.ready then .fault (.privilegedInstruction m.cpu.regs.pc)
        else .ok ()) ∧
      (m.cpu.cycle m.style).exchanges m.console =
        (Bus.read m.cpu.mem m.cpu.regs.pc).exchanges m.console := by
  have execute := m.cpu.advance.execute_of_supplies m.style m.cpu.regs.pc supplied
  have exchanges : (m.cpu.cycle m.style).exchanges m.console =
      (Bus.read m.cpu.mem m.cpu.regs.pc).exchanges m.console ++
        (m.cpu.advance.execute m.style m.cpu.regs.pc w).exchanges
          (Console.hear (.step m.cpu.regs.pc w) c) := by
    rw [Processor.cycle, exchanges_bind, fetched]
    rfl
  have cycle : (m.cpu.cycle m.style).run m.console =
      (m.cpu.advance.execute m.style m.cpu.regs.pc w).run
        (Console.hear (.step m.cpu.regs.pc w) c) :=
    Processor.cycle_run fetched
  rw [execute] at exchanges cycle
  by_cases ready : w = Device.ready
  · rw [if_pos ready] at exchanges cycle ⊢
    rw [step, cycle]
    exact ⟨rfl, rfl, exchanges.trans (List.append_nil _)⟩
  · rw [if_neg ready] at exchanges cycle ⊢
    rw [step, cycle]
    exact ⟨rfl, rfl, exchanges.trans (List.append_nil _)⟩

/-- So is a fetch that fails. -/
theorem step_of_fetch_fault {f : Fault} {c : C}
    (failed : (Bus.read m.cpu.mem m.cpu.regs.pc).run m.console = (.fault f, c)) :
    m.step.2.cpu = m.cpu.advance ∧ m.step.1 = .fault f ∧
      (m.cpu.cycle m.style).exchanges m.console =
        (Bus.read m.cpu.mem m.cpu.regs.pc).exchanges m.console := by
  have cycle : (m.cpu.cycle m.style).run m.console = (.fault f, c) := run_bind_fault failed _
  have exchanges : (m.cpu.cycle m.style).exchanges m.console =
      (Bus.read m.cpu.mem m.cpu.regs.pc).exchanges m.console ++ [] := by
    rw [Processor.cycle, exchanges_bind, failed]
  rw [step, cycle]
  exact ⟨rfl, rfl, exchanges.trans (List.append_nil _)⟩

section Asking

variable {d : Device} {q : Call} {next : q.Answer → Dialogue Word} {a : q.Answer} {f : Fault}
  {w : Word} {c c' : C}

theorem step_of_fetch_error
    (fetch : Bus.read m.cpu.mem m.cpu.regs.pc = .note (.access d) (.ask q next))
    (answer : Console.answer q (Console.hear (.access d) m.console) = (.error f, c)) :
    m.step.2.cpu = m.cpu.advance ∧ m.step.1 = .fault f ∧
      (m.cpu.cycle m.style).exchanges m.console = [⟨q, .error f⟩] := by
  have failed : (Bus.read m.cpu.mem m.cpu.regs.pc).run m.console = (.fault f, c) := by
    rw [fetch]
    exact run_ask_error answer
  obtain ⟨cpu, out, asked⟩ := step_of_fetch_fault failed
  rw [fetch] at asked
  exact ⟨cpu, out, asked.trans (exchanges_ask_error answer)⟩

theorem step_of_fetch_ok
    (fetch : Bus.read m.cpu.mem m.cpu.regs.pc = .note (.access d) (.ask q next))
    (answer : Console.answer q (Console.hear (.access d) m.console) = (.ok a, c))
    (supplied : Device.Supplies w) (gives : (next a).run c = (.ok w, c'))
    (quiet : (next a).exchanges c = []) :
    m.step.2.cpu = m.cpu.advance ∧
      m.step.1 = (if w = Device.ready then .fault (.privilegedInstruction m.cpu.regs.pc)
        else .ok ()) ∧
      (m.cpu.cycle m.style).exchanges m.console = [⟨q, .ok a⟩] := by
  have fetched : (Bus.read m.cpu.mem m.cpu.regs.pc).run m.console = (.ok w, c') := by
    rw [fetch]
    exact (run_ask_ok answer).trans gives
  obtain ⟨cpu, out, asked⟩ := step_of_supplies supplied fetched
  rw [fetch] at asked
  refine ⟨cpu, out, asked.trans ((exchanges_ask_ok answer).trans ?_)⟩
  rw [quiet]

end Asking

theorem fetchedFrom_of_address {d : Device} (h : m.cpu.regs.pc = d.address) :
    m.step.2.cpu = m.cpu.advance ∧ FetchedFrom m.cpu.regs.pc (Console.hear (.access d) m.console) d
      ((m.cpu.cycle m.style).exchanges m.console) m.step.1 := by
  have fetch : Bus.read m.cpu.mem m.cpu.regs.pc = .note (.access d) d.read := by
    rw [Bus.read, h, Device.at?_eq_some_iff.2 rfl]
    rfl
  have nothing : Device.Supplies 0 := .inr (by decide)
  cases d with
  | keyboardStatus =>
    rcases answer : Console.answer .inputReady (Console.hear (.access .keyboardStatus) m.console)
      with ⟨f | _ | _, c⟩
    · obtain ⟨cpu, out, asked⟩ := step_of_fetch_error fetch answer
      rw [out, asked]
      exact ⟨cpu, .statusFails answer⟩
    · obtain ⟨cpu, out, asked⟩ := step_of_fetch_ok fetch answer nothing rfl rfl
      rw [out, asked]
      exact ⟨cpu, .notReady answer⟩
    · obtain ⟨cpu, out, asked⟩ := step_of_fetch_ok fetch answer (.inl rfl) rfl rfl
      rw [out, asked]
      exact ⟨cpu, .ready answer⟩
  | keyboardData =>
    rcases answer : Console.answer .readByte (Console.hear (.access .keyboardData) m.console)
      with ⟨f | b, c⟩
    · obtain ⟨cpu, out, asked⟩ := step_of_fetch_error fetch answer
      rw [out, asked]
      exact ⟨cpu, .dataFails answer⟩
    · have small := Device.toNat_ofByte_lt b
      obtain ⟨cpu, out, asked⟩ := step_of_fetch_ok fetch answer (.inr small) rfl rfl
      rw [if_neg (Device.ofByte_ne_ready b)] at out
      rw [out, asked]
      exact ⟨cpu, .byte answer⟩
  | displayStatus =>
    have fetched : (Bus.read m.cpu.mem m.cpu.regs.pc).run m.console =
        (.ok Device.ready, Console.hear (.access .displayStatus) m.console) := by
      rw [fetch]
      rfl
    obtain ⟨cpu, out, asked⟩ := step_of_supplies (.inl rfl) fetched
    rw [fetch] at asked
    rw [out, asked]
    exact ⟨cpu, .displayStatus⟩
  | displayData =>
    have fetched : (Bus.read m.cpu.mem m.cpu.regs.pc).run m.console =
        (.ok 0, Console.hear (.access .displayData) m.console) := by
      rw [fetch]
      rfl
    obtain ⟨cpu, out, asked⟩ := step_of_supplies nothing fetched
    rw [fetch] at asked
    rw [out, asked]
    exact ⟨cpu, .displayData⟩

theorem length_accesses_le (m : Machine C) : m.accesses.length ≤ 1 :=
  ((m.cpu.cycle_spends m.style).run m.console).1

theorem accesses_of_address {d : Device} (h : m.cpu.regs.pc = d.address) : m.accesses = [d] := by
  obtain ⟨rest, first⟩ : ∃ rest, m.accesses = d :: rest := by
    rw [accesses, Processor.cycle, Bus.read, h, Device.at?_eq_some_iff.2 rfl]
    exact ⟨_, rfl⟩
  have one := m.length_accesses_le
  rw [first, List.length_cons] at one
  rw [first, List.eq_nil_of_length_eq_zero (Nat.le_zero.1 (Nat.le_of_succ_le_succ one))]

/-- Going to the bus accesses the device at the address and nothing else. In all that an instruction
does there is at most one such access, and at most one call for input, which delivers one byte at
most. Fetched from a device, an instruction asks no more than the fetch does and changes nothing but
the program counter. -/
theorem oneDevice_of_step :
    (∀ (mem : Memory) (a : Word) (c : C),
      (Bus.read mem a).accesses c = (Device.at? a).toList) ∧
    (∀ (a w : Word) (c : C), (Bus.write a w).accesses c = (Device.at? a).toList) ∧
    ∀ m : Machine (Recorded C), m.accesses.length ≤ 1 ∧ ∃ es,
      m.step.2.console.exchanges.toList = m.console.exchanges.toList ++ es ∧
        (inputCalls es).length ≤ 1 ∧ (delivered es).length ≤ 1 ∧
        ∀ d : Device, m.cpu.regs.pc = d.address →
          m.accesses = [d] ∧ Passed m.cpu m.step.2.cpu ∧
            FetchedFrom m.cpu.regs.pc (Console.hear (.access d) m.console.console) d es
              m.step.1 := by
  refine ⟨Bus.accesses_read, Bus.accesses_write, fun m => ⟨m.length_accesses_le, _,
    step_exchanges m, ?_, ?_, fun d h => ⟨accesses_of_address h, ?_⟩⟩⟩
  · exact ((m.cpu.cycle_spends m.style).run m.console.console).2
  · have spends := (m.cpu.cycle_spends m.style).run m.console.console
    exact Nat.le_trans (length_delivered_le _) spends.2
  · obtain ⟨cpu, fetched⟩ := fetchedFrom_of_address (m := m.unrecorded) h
    rw [step_unrecorded] at cpu fetched
    refine ⟨?_, fetched⟩
    rw [show m.step.2.cpu = m.cpu.advance from cpu]
    exact passed_advance m.cpu

/-- About to fetch from the status of a keyboard that has a byte. -/
def statusFetch : Machine (Recorded Buffered) :=
  ⟨.single 0xFE00 0xF025, .ofConsole (.ofInput [0x61]), .plain⟩

/-- What is stored at the address is not fetched, and the byte is not taken. -/
theorem oneDevice_of_step_statusFetch : statusFetch.accesses = [.keyboardStatus] ∧
    statusFetch.step.1 = .fault (.privilegedInstruction 0xFE00) ∧
    statusFetch.step.2.console.exchanges.toList = [⟨.inputReady, .ok true⟩] ∧
    Passed statusFetch.cpu statusFetch.step.2.cpu := by
  obtain ⟨-, es, asked, -, -, fetches⟩ := oneDevice_of_step.2.2 statusFetch
  obtain ⟨accesses, passed, fetched⟩ := fetches .keyboardStatus rfl
  generalize statusFetch.step.1 = out at fetched
  cases fetched with
  | notReady answer => exact nomatch Except.ok.inj (Prod.mk.inj answer).1
  | ready => exact ⟨accesses, rfl, asked, passed⟩
  | statusFails answer => exact nomatch answer

end Machine

end LC3
