import LC3.Image
import LC3.Routine

/-! One instruction runs in two phases. `cycle` fetches, decodes and asks its console, and ends in
one `Effect`; only then does `commit` change anything. So an instruction that faults has changed
nothing, except that the program counter already points past it. -/

namespace LC3

inductive Status where
  | running
  | halted
deriving DecidableEq

structure Processor where
  regs : Registers
  mem : Memory
  status : Status

namespace Processor

/-- The image in memory, zero everywhere else, and the program counter at its origin. -/
def ofImage (image : Image) : Processor :=
  ⟨.start image.origin, Memory.blank.load image.origin image.words, .running⟩

def advance (cpu : Processor) : Processor := { cpu with regs := cpu.regs.advance }

/-- The address at a signed distance from the program counter. -/
def near {width : Nat} (cpu : Processor) (offset : BitVec width) : Word :=
  cpu.regs.pc + offset.signExtend 16

def operand (cpu : Processor) : Operand → Word
  | .reg r => cpu.regs.get r
  | .imm value => value.signExtend 16

def target (cpu : Processor) : JumpTarget → Word
  | .offset distance => cpu.near distance
  | .reg r => cpu.regs.get r

def based (cpu : Processor) (base : Reg) (offset : BitVec 6) : Word :=
  cpu.regs.get base + offset.signExtend 16

/-- Carries out the instruction `w` fetched at `pc`, on a processor that has already advanced. -/
def execute (style : Style) (cpu : Processor) (pc w : Word) : Dialogue Effect :=
  match Instruction.decode w with
  | .br condition offset =>
    pure (if cpu.regs.flag.meets condition then .jump (cpu.near offset) else .nothing)
  | .add dst src operand => pure (.load dst (cpu.regs.get src + cpu.operand operand))
  | .and dst src operand => pure (.load dst (cpu.regs.get src &&& cpu.operand operand))
  | .not dst src => pure (.load dst (~~~cpu.regs.get src))
  | .lea dst offset => pure (.load dst (cpu.near offset))
  | .ld dst offset => do
    let w ← Bus.read cpu.mem (cpu.near offset)
    pure (.load dst w)
  | .ldi dst offset => do
    let pointer ← Bus.read cpu.mem (cpu.near offset)
    let w ← Bus.read cpu.mem pointer
    pure (.load dst w)
  | .ldr dst base offset => do
    let w ← Bus.read cpu.mem (cpu.based base offset)
    pure (.load dst w)
  | .st src offset => Bus.write (cpu.near offset) (cpu.regs.get src)
  | .sti src offset => do
    let pointer ← Bus.read cpu.mem (cpu.near offset)
    Bus.write pointer (cpu.regs.get src)
  | .str src base offset => Bus.write (cpu.based base offset) (cpu.regs.get src)
  | .jsr target => pure (.call (cpu.target target))
  | .jmp base => pure (.jump (cpu.regs.get base))
  | .trap vector =>
    match Routine.ofVector? vector with
    | some routine => routine.serve style cpu.regs cpu.mem pc
    | none => .fault (.unknownTrap pc vector)
  | .rti => .fault (.privilegedInstruction pc)
  | .reserved => .fault (.reservedOpcode pc w)

/-- Fetches and carries out the instruction at the program counter. The fetch goes over the bus too,
so fetching from the keyboard's data takes a byte. -/
def cycle (style : Style) (cpu : Processor) : Dialogue Effect := do
  let pc := cpu.regs.pc
  let w ← Bus.read cpu.mem pc
  Dialogue.tell (.step pc w)
  cpu.advance.execute style pc w

end Processor

def Registers.commit (regs : Registers) : Effect → Registers
  | .load r w => regs.load r w
  | .jump a => regs.jump a
  | .call a => (regs.set 7 regs.pc).jump a
  | .nothing | .store .. | .halt => regs

def Memory.commit (mem : Memory) : Effect → Memory
  | .store a w => mem.set a w
  | .nothing | .load .. | .jump _ | .call _ | .halt => mem

def Status.commit (status : Status) : Effect → Status
  | .halt => .halted
  | .nothing | .store .. | .load .. | .jump _ | .call _ => status

def Processor.commit (cpu : Processor) (effect : Effect) : Processor :=
  ⟨cpu.regs.commit effect, cpu.mem.commit effect, cpu.status.commit effect⟩

end LC3
