import LC3.Instruction

/-! The form of an instruction in the log: its name, then its fields with their values, offsets and
immediates widened to 16 bits and shown unsigned. -/

namespace LC3

/-- The name and its fields in braces, or the name alone if there is no field. -/
def fieldList (name : String) (fields : List (String × String)) : String :=
  match fields with
  | [] => name
  | _ =>
    name ++ " \x7b " ++ ", ".intercalate (fields.map fun (field, value) => field ++ ": " ++ value)
      ++ " \x7d"

namespace Instruction

def number {width : Nat} (v : BitVec width) : String := toString v.toNat

def widened {width : Nat} (v : BitVec width) : String := number (v.signExtend 16)

def operandText : Operand → String
  | .reg r => "Reg(" ++ number r ++ ")"
  | .imm value => "Imm(" ++ widened value ++ ")"

def targetText : JumpTarget → String
  | .offset distance => "Offset(" ++ widened distance ++ ")"
  | .reg r => "Reg(" ++ number r ++ ")"

def toText : Instruction → String
  | .br condition offset => fieldList "Br" [("nzp", number condition), ("offset", widened offset)]
  | .add dst src operand =>
    fieldList "Add" [("dr", number dst), ("sr1", number src), ("operand", operandText operand)]
  | .ld dst offset => fieldList "Ld" [("dr", number dst), ("offset", widened offset)]
  | .st src offset => fieldList "St" [("sr", number src), ("offset", widened offset)]
  | .jsr target => fieldList "Jsr" [("target", targetText target)]
  | .and dst src operand =>
    fieldList "And" [("dr", number dst), ("sr1", number src), ("operand", operandText operand)]
  | .ldr dst base offset =>
    fieldList "Ldr" [("dr", number dst), ("base", number base), ("offset", widened offset)]
  | .str src base offset =>
    fieldList "Str" [("sr", number src), ("base", number base), ("offset", widened offset)]
  | .rti => "Rti"
  | .not dst src => fieldList "Not" [("dr", number dst), ("sr", number src)]
  | .ldi dst offset => fieldList "Ldi" [("dr", number dst), ("offset", widened offset)]
  | .sti src offset => fieldList "Sti" [("sr", number src), ("offset", widened offset)]
  | .jmp base => fieldList "Jmp" [("base", number base)]
  | .reserved => "Res"
  | .lea dst offset => fieldList "Lea" [("dr", number dst), ("offset", widened offset)]
  | .trap vector => fieldList "Trap" [("vect", number vector)]

end Instruction

end LC3
