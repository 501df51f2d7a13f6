import LC3.Word

/-! The sixteen operations of the instruction set, one constructor each, with every field exactly as
wide as the bits it comes from. Offsets and immediates are two's-complement; `Instruction` keeps
them narrow, and `Word` arithmetic widens them where they are used. -/

namespace LC3

inductive Opcode where
  | br | add | ld | st | jsr | and | ldr | str
  | rti | not | ldi | sti | jmp | reserved | lea | trap
deriving DecidableEq

inductive Operand where
  | reg (r : Reg)
  | imm (value : BitVec 5)
deriving DecidableEq

inductive JumpTarget where
  | offset (distance : BitVec 11)
  | reg (r : Reg)
deriving DecidableEq

inductive Instruction where
  | br (condition : BitVec 3) (offset : BitVec 9)
  | add (dst src : Reg) (operand : Operand)
  | ld (dst : Reg) (offset : BitVec 9)
  | st (src : Reg) (offset : BitVec 9)
  | jsr (target : JumpTarget)
  | and (dst src : Reg) (operand : Operand)
  | ldr (dst base : Reg) (offset : BitVec 6)
  | str (src base : Reg) (offset : BitVec 6)
  | rti
  | not (dst src : Reg)
  | ldi (dst : Reg) (offset : BitVec 9)
  | sti (src : Reg) (offset : BitVec 9)
  | jmp (base : Reg)
  | reserved
  | lea (dst : Reg) (offset : BitVec 9)
  | trap (vector : BitVec 8)
deriving DecidableEq

def Instruction.opcode : Instruction → Opcode
  | .br .. => .br
  | .add .. => .add
  | .ld .. => .ld
  | .st .. => .st
  | .jsr .. => .jsr
  | .and .. => .and
  | .ldr .. => .ldr
  | .str .. => .str
  | .rti => .rti
  | .not .. => .not
  | .ldi .. => .ldi
  | .sti .. => .sti
  | .jmp .. => .jmp
  | .reserved => .reserved
  | .lea .. => .lea
  | .trap .. => .trap

end LC3
