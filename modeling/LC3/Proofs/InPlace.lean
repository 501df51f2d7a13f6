import LC3.Proofs.Step

/-! The same step with its changes made in place, each at the point where the instruction comes to
it. A failure ends the instruction there and undoes nothing, so what is left behind depends on the
order in which an instruction asks and changes. `step_eq_cycle` says that no instruction asks for
anything that can fail once it has changed more than the program counter. -/

namespace LC3

/-- A computation on a machine whose changes stay, however it ends. -/
def Act (C α : Type) : Type := Machine C → Outcome α × Machine C

namespace Act

variable {C α β : Type}

def bind (x : Act C α) (f : α → Act C β) : Act C β := fun m =>
  match x m with
  | (.ok a, m) => f a m
  | (.fault f, m) => (.fault f, m)
  | (.endless, m) => (.endless, m)

instance : Monad (Act C) where
  pure a := fun m => (.ok a, m)
  bind := bind

def processor : Act C Processor := fun m => (.ok m.cpu, m)

theorem processor_bind (g : Processor → Act C β) (m : Machine C) :
    (processor >>= g) m = g m.cpu m := rfl

def change (f : Processor → Processor) : Act C Unit := fun m => (.ok (), { m with cpu := f m.cpu })

def fail (f : Fault) : Act C α := fun m => (.fault f, m)

def setRegisters (f : Registers → Registers) : Act C Unit :=
  change fun cpu => { cpu with regs := f cpu.regs }

/-- Sets a register, then the flag. -/
def load (r : Reg) (w : Word) : Act C Unit := do
  setRegisters (·.set r w)
  setRegisters (·.setFlag w)

def jump (a : Word) : Act C Unit := setRegisters (·.jump a)

variable [Console C]

def talk (d : Dialogue α) : Act C α := fun m =>
  let (out, console) := d.run m.console
  (out, { m with console })

def read (a : Word) : Act C Word := do
  let cpu ← processor
  talk (Bus.read cpu.mem a)

def store (a w : Word) : Act C Unit :=
  match Device.at? a with
  | none => change fun cpu => { cpu with mem := cpu.mem.set a w }
  | some device => do
    talk (Dialogue.tell (.access device))
    talk (device.write w)

def printString (bytes : Word → List Byte) : Act C Unit := do
  let cpu ← processor
  match cpu.mem.string? (cpu.regs.get 0) with
  | none => talk .endless
  | some words => talk (Dialogue.print (words.flatMap bytes))

def serve (style : Style) (pc : Word) : Routine → Act C Unit
  | .getc => do
    let byte ← talk Dialogue.readByte
    load 0 (.ofByte byte)
  | .out => do
    let cpu ← processor
    talk (Dialogue.print [(cpu.regs.get 0).low])
  | .puts => printString fun w => [w.low]
  | .input => do
    talk (Dialogue.print Routine.prompt)
    let byte ← talk Dialogue.readByte
    talk (Dialogue.print [byte])
    load 0 (.ofByte byte)
  | .putsp => printString Routine.unpack
  | .halt => do
    talk (Dialogue.print (Routine.haltNotice style))
    change fun cpu => { cpu with status := .halted }
    talk (Dialogue.tell (.halted pc))

def execute (style : Style) (pc w : Word) : Act C Unit := do
  let cpu ← processor
  match Instruction.decode w with
  | .br condition offset => if cpu.regs.flag.meets condition then jump (cpu.near offset)
  | .add dst src operand => load dst (cpu.regs.get src + cpu.operand operand)
  | .and dst src operand => load dst (cpu.regs.get src &&& cpu.operand operand)
  | .not dst src => load dst (~~~cpu.regs.get src)
  | .lea dst offset => load dst (cpu.near offset)
  | .ld dst offset => do
    let w ← read (cpu.near offset)
    load dst w
  | .ldi dst offset => do
    let pointer ← read (cpu.near offset)
    let w ← read pointer
    load dst w
  | .ldr dst base offset => do
    let w ← read (cpu.based base offset)
    load dst w
  | .st src offset => store (cpu.near offset) (cpu.regs.get src)
  | .sti src offset => do
    let pointer ← read (cpu.near offset)
    store pointer (cpu.regs.get src)
  | .str src base offset => store (cpu.based base offset) (cpu.regs.get src)
  | .jsr target => do
    -- R7 may be the register jumped to, so the target comes from `cpu`, where R7 is not set yet
    setRegisters fun regs => regs.set 7 regs.pc
    jump (cpu.target target)
  | .jmp base => jump (cpu.regs.get base)
  | .trap vector =>
    match Routine.ofVector? vector with
    | some routine => serve style pc routine
    | none => fail (.unknownTrap pc vector)
  | .rti => fail (.privilegedInstruction pc)
  | .reserved => fail (.reservedOpcode pc w)

/-- Fetches and carries out one instruction. -/
def cycle (style : Style) : Act C Unit := do
  let cpu ← processor
  setRegisters (·.advance)
  let w ← read cpu.regs.pc
  talk (Dialogue.tell (.step cpu.regs.pc w))
  execute style cpu.regs.pc w

/-- What a dialogue comes to is committed once the dialogue is over. -/
def commits (d : Dialogue Effect) : Act C Unit := do
  let e ← talk d
  change (·.commit e)

theorem commits_bind (d : Dialogue α) (g : α → Dialogue Effect) :
    (commits (d >>= g) : Act C Unit) = talk d >>= fun a => commits (g a) := by
  funext m
  simp only [commits, Bind.bind, bind, talk, Dialogue.run_bind]
  rcases d.run m.console with ⟨_ | _ | _, c⟩ <;> rfl

theorem commits_nothing (d : Dialogue Unit) :
    (commits (d >>= fun _ => pure .nothing) : Act C Unit) = talk d := by
  rw [commits_bind]
  funext m
  simp only [Bind.bind, bind, talk]
  rcases d.run m.console with ⟨_ | _ | _, c⟩ <;> rfl

/-- Talking leaves the processor alone. -/
theorem talk_bind_congr {d : Dialogue α} {g g' : α → Act C β} {m : Machine C}
    (h : ∀ a c, g a { m with console := c } = g' a { m with console := c }) :
    (talk d >>= g) m = (talk d >>= g') m := by
  simp only [Bind.bind, bind, talk]
  rcases d.run m.console with ⟨a | _ | _, c⟩
  · exact h a c
  · rfl
  · rfl

theorem commits_write (a w : Word) : (commits (Bus.write a w) : Act C Unit) = store a w := by
  unfold Bus.write store
  cases Device.at? a with
  | none => rfl
  | some d =>
    simp only
    rw [commits_bind]
    exact congrArg _ (funext fun _ => commits_nothing _)

theorem commits_printString (bytes : Word → List Byte) (m : Machine C) :
    commits (Routine.printString m.cpu.mem (m.cpu.regs.get 0) bytes) m = printString bytes m := by
  rw [printString, processor_bind]
  unfold Routine.printString
  cases m.cpu.mem.string? (m.cpu.regs.get 0) with
  | none => rfl
  | some words => exact congrFun (commits_nothing _) m

theorem commits_serve (style : Style) (pc : Word) (r : Routine) (m : Machine C) :
    commits (r.serve style m.cpu.regs m.cpu.mem pc) m = serve style pc r m := by
  cases r with
  | getc =>
    rw [Routine.serve, commits_bind]
    rfl
  | out => exact congrFun (commits_nothing _) m
  | puts => exact commits_printString _ m
  | input =>
    rw [Routine.serve]
    simp only [commits_bind]
    rfl
  | putsp => exact commits_printString _ m
  | halt =>
    rw [Routine.serve]
    simp only [commits_bind]
    rfl

theorem commits_execute (style : Style) (pc w : Word) (m : Machine C) :
    commits (m.cpu.execute style pc w) m = execute style pc w m := by
  unfold execute
  rw [processor_bind]
  unfold Processor.execute
  cases Instruction.decode w with
  | br condition offset => cases h : m.cpu.regs.flag.meets condition <;> simp only [h] <;> rfl
  | ld dst offset =>
    simp only [commits_bind]
    rfl
  | ldi dst offset =>
    -- the second read looks at memory after the first, which has left it alone
    simp only [commits_bind]
    exact talk_bind_congr fun _ _ => rfl
  | ldr dst base offset =>
    simp only [commits_bind]
    rfl
  | st src offset => exact congrFun (commits_write _ _) m
  | sti src offset =>
    simp only [commits_bind, commits_write]
    rfl
  | str src base offset => exact congrFun (commits_write _ _) m
  | trap vector =>
    simp only
    cases Routine.ofVector? vector with
    | none => rfl
    | some r => exact commits_serve style pc r m
  | _ => rfl

theorem commits_cycle (style : Style) (m : Machine C) :
    commits (m.cpu.cycle style) { m with cpu := m.cpu.advance } = cycle style m := by
  rw [Processor.cycle, commits_bind]
  refine talk_bind_congr fun w c => ?_
  rw [commits_bind]
  exact talk_bind_congr fun _ c => commits_execute style _ w ⟨m.cpu.advance, c, m.style⟩

end Act

theorem Machine.step_eq_cycle {C : Type} [Console C] (m : Machine C) :
    m.step = Act.cycle m.style m := by
  rw [← Act.commits_cycle]
  unfold step
  simp only [Act.commits, Bind.bind, Act.bind, Act.talk]
  rcases (m.cpu.cycle m.style).run m.console with ⟨_ | _ | _, c⟩ <;> rfl

end LC3
