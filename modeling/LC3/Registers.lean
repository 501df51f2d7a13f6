import LC3.Word

/-! Eight general purpose registers, the program counter and the condition flag. The flag always
classifies some word, so exactly one of its three values holds. -/

namespace LC3

inductive Flag where
  | negative
  | zero
  | positive
deriving DecidableEq

namespace Flag

/-- The sign of `w` as a two's-complement number. -/
def of (w : Word) : Flag :=
  if w = 0 then .zero else if w.msb then .negative else .positive

/-- The bit of a branch condition that asks for this flag. -/
def mask : Flag → BitVec 3
  | .negative => 0b100#3
  | .zero => 0b010#3
  | .positive => 0b001#3

def meets (flag : Flag) (condition : BitVec 3) : Bool := flag.mask &&& condition != 0#3

end Flag

structure Registers where
  gpr : Vector Word 8
  pc : Word
  flag : Flag

namespace Registers

def start (pc : Word) : Registers := ⟨Vector.replicate _ 0, pc, .zero⟩

def get (regs : Registers) (r : Reg) : Word := regs.gpr[r.toNat]

/-- Changes one register and leaves the flag alone. -/
def set (regs : Registers) (r : Reg) (w : Word) : Registers :=
  { regs with gpr := regs.gpr.set r.toNat w r.isLt }

def setFlag (regs : Registers) (w : Word) : Registers := { regs with flag := .of w }

/-- Changes one register and sets the flag from the word it now holds. -/
def load (regs : Registers) (r : Reg) (w : Word) : Registers := (regs.set r w).setFlag w

def jump (regs : Registers) (a : Word) : Registers := { regs with pc := a }

/-- Past the last address the program counter goes on at 0. -/
def advance (regs : Registers) : Registers := regs.jump (regs.pc + 1)

def toList (regs : Registers) : List Word := regs.gpr.toList

theorem get_set (regs : Registers) (r s : Reg) (w : Word) :
    (regs.set r w).get s = if r = s then w else regs.get s := by
  simp [get, set, Vector.getElem_set, BitVec.toNat_inj]

@[simp] theorem pc_set (regs : Registers) (r : Reg) (w : Word) : (regs.set r w).pc = regs.pc := rfl

@[simp] theorem flag_set (regs : Registers) (r : Reg) (w : Word) :
    (regs.set r w).flag = regs.flag := rfl

@[simp] theorem get_advance (regs : Registers) (r : Reg) : regs.advance.get r = regs.get r := rfl

end Registers

end LC3
