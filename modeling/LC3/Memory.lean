import LC3.Word

/-! Memory is a ring of 2^16 stored cells. Nothing here knows of devices: the cells under device
addresses are cells like any other, which only loading an image can fill. -/

namespace LC3

structure Memory where
  cells : Vector Word 0x10000

namespace Memory

def size : Nat := 0x10000

def blank : Memory := ⟨Vector.replicate _ 0⟩

def get (mem : Memory) (a : Word) : Word := mem.cells[a.toNat]

def set (mem : Memory) (a w : Word) : Memory := ⟨mem.cells.set a.toNat w a.isLt⟩

/-- Stores words one after another from `a` on. -/
def load (mem : Memory) (a : Word) : List Word → Memory
  | [] => mem
  | w :: ws => (mem.set a w).load (a + 1) ws

/-- The `n` cells from `a` on. -/
def slice (mem : Memory) (a : Word) (n : Nat) : List Word :=
  (List.range n).map fun i => mem.get (a + BitVec.ofNat 16 i)

/-- Looks for the first zero cell at distance `n` from `a` or further, `fuel` cells at most. -/
def scan (mem : Memory) (a : Word) : (fuel n : Nat) → Option Nat
  | 0, _ => none
  | fuel + 1, n => if mem.get (a + BitVec.ofNat 16 n) = 0 then some n else mem.scan a fuel (n + 1)

/-- The words from `a` up to the first zero cell; none if there is no zero cell on the ring. -/
def string? (mem : Memory) (a : Word) : Option (List Word) :=
  (mem.scan a size 0).map (mem.slice a)

@[simp] theorem get_blank (a : Word) : blank.get a = 0 := by simp [get, blank]

theorem get_set (mem : Memory) (a b w : Word) :
    (mem.set a w).get b = if a = b then w else mem.get b := by
  simp [get, set, Vector.getElem_set, BitVec.toNat_inj]

end Memory

end LC3
