import LC3.Instruction

/-! Decoding reads the fields of a word; `encode` puts the fields back, with zeros in the bits that
the format leaves undefined. Every word decodes, and the undefined bits are ignored. -/

namespace LC3

def Opcode.ofNibble (n : BitVec 4) : Opcode :=
  match n with
  | 0x0#4 => .br
  | 0x1#4 => .add
  | 0x2#4 => .ld
  | 0x3#4 => .st
  | 0x4#4 => .jsr
  | 0x5#4 => .and
  | 0x6#4 => .ldr
  | 0x7#4 => .str
  | 0x8#4 => .rti
  | 0x9#4 => .not
  | 0xA#4 => .ldi
  | 0xB#4 => .sti
  | 0xC#4 => .jmp
  | 0xD#4 => .reserved
  | 0xE#4 => .lea
  | _ => .trap

def Opcode.nibble : Opcode → BitVec 4
  | .br => 0x0#4
  | .add => 0x1#4
  | .ld => 0x2#4
  | .st => 0x3#4
  | .jsr => 0x4#4
  | .and => 0x5#4
  | .ldr => 0x6#4
  | .str => 0x7#4
  | .rti => 0x8#4
  | .not => 0x9#4
  | .ldi => 0xA#4
  | .sti => 0xB#4
  | .jmp => 0xC#4
  | .reserved => 0xD#4
  | .lea => 0xE#4
  | .trap => 0xF#4

theorem Opcode.ofNibble_nibble (op : Opcode) : ofNibble op.nibble = op := by
  cases op <;> rfl

theorem Opcode.nibble_ofNibble (n : BitVec 4) : (ofNibble n).nibble = n := by
  revert n; decide

namespace Word

def opcode (w : Word) : Opcode := .ofNibble (w.extractLsb' 12 4)

/-- Bits 11 to 9: a destination, a source to store, or the condition of a branch. -/
def upper (w : Word) : BitVec 3 := w.extractLsb' 9 3

/-- Bits 8 to 6: a first source or a base. -/
def middle (w : Word) : BitVec 3 := w.extractLsb' 6 3

def operand (w : Word) : Operand :=
  if w.getLsbD 5 then .imm (w.setWidth 5) else .reg (w.setWidth 3)

def jumpTarget (w : Word) : JumpTarget :=
  if w.getLsbD 11 then .offset (w.setWidth 11) else .reg w.middle

end Word

namespace Instruction

def decode (w : Word) : Instruction :=
  match w.opcode with
  | .br => .br w.upper (w.setWidth 9)
  | .add => .add w.upper w.middle w.operand
  | .ld => .ld w.upper (w.setWidth 9)
  | .st => .st w.upper (w.setWidth 9)
  | .jsr => .jsr w.jumpTarget
  | .and => .and w.upper w.middle w.operand
  | .ldr => .ldr w.upper w.middle (w.setWidth 6)
  | .str => .str w.upper w.middle (w.setWidth 6)
  | .rti => .rti
  | .not => .not w.upper w.middle
  | .ldi => .ldi w.upper (w.setWidth 9)
  | .sti => .sti w.upper (w.setWidth 9)
  | .jmp => .jmp w.middle
  | .reserved => .reserved
  | .lea => .lea w.upper (w.setWidth 9)
  | .trap => .trap (w.setWidth 8)

theorem opcode_decode (w : Word) : (decode w).opcode = w.opcode := by
  unfold decode; split <;> simp_all [opcode]

def fields : Instruction → BitVec 12
  | .br condition offset => condition ++ offset
  | .add dst src operand | .and dst src operand => dst ++ src ++ operandField operand
  | .ld r offset | .st r offset | .ldi r offset | .sti r offset | .lea r offset => r ++ offset
  | .jsr (.offset distance) => 1#1 ++ distance
  | .jsr (.reg r) => 0#3 ++ r ++ 0#6
  | .ldr r base offset | .str r base offset => r ++ base ++ offset
  | .rti | .reserved => 0#12
  | .not dst src => dst ++ src ++ 0#6
  | .jmp base => 0#3 ++ base ++ 0#6
  | .trap vector => 0#4 ++ vector
where
  operandField : Operand → BitVec 6
    | .reg r => 0#3 ++ r
    | .imm value => 1#1 ++ value

def encode (i : Instruction) : Word := i.opcode.nibble ++ i.fields

end Instruction

end LC3
