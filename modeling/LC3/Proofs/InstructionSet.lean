import LC3.Console.Buffered
import LC3.Proofs.Step
import Mathlib.Logic.Function.Basic

/-! The instruction set as a table. A `Row` says what one instruction word does to a processor, with
every address, operand and result an integer read off the raw bits of the word. No row mentions
decoding, effects or word arithmetic, so the table is a second account of an instruction, and the
main theorem is that every step that succeeds follows it. -/

namespace LC3.Isa

open Word Function

/-- A processor in integers: the numbers in its eight registers and 2^16 cells, 0 past them. -/
@[ext]
structure State where
  pc : Nat
  reg : Nat → Nat
  cell : Nat → Nat
  flag : Flag
  status : Status

def view (cpu : Processor) : State where
  pc := cpu.regs.pc.toNat
  reg i := (cpu.regs.gpr[i]?.getD 0).toNat
  cell i := (cpu.mem.cells[i]?.getD 0).toNat
  flag := cpu.regs.flag
  status := cpu.status

/-- The sign of the number that the sixteen bits of `n` stand for in two's complement. -/
def sign (n : Nat) : Flag := if n = 0 then .zero else if n < 2 ^ 15 then .positive else .negative

def devices : List Nat := [0xFE00, 0xFE02, 0xFE04, 0xFE06]

namespace State

def goto (s : State) (n : Int) : State := { s with pc := wrap n }

def next (s : State) : State := s.goto (s.pc + 1)

def load (s : State) (r n : Nat) : State := { s.next with reg := update s.reg r n, flag := sign n }

def store (s : State) (a n : Nat) : State :=
  if a ∈ devices then s.next else { s.next with cell := update s.cell a n }

def call (s : State) (a : Nat) : State := { s.goto a with reg := update s.reg 7 (wrap (s.pc + 1)) }

def halt (s : State) : State := { s.next with status := .halted }

/-- The address at the distance that the low `width` bits of `w` give from the next address. -/
def near (s : State) (w : Word) (width : Nat) : Nat := wrap (s.pc + 1 + w.signed width)

def based (s : State) (w : Word) : Nat := wrap (s.reg (w.field 6 3) + w.signed 6)

/-- The second operand of an addition or conjunction. -/
def second (s : State) (w : Word) : Int :=
  if w.field 5 1 = 1 then w.signed 5 else s.reg (w.field 0 3)

/-- Whether a branch asks for the flag as it is. -/
def takes (s : State) (w : Word) : Prop :=
  w.field 11 1 = 1 ∧ s.flag = .negative ∨ w.field 10 1 = 1 ∧ s.flag = .zero ∨
    w.field 9 1 = 1 ∧ s.flag = .positive

end State

variable {C : Type} [Console C]

/-- Reading address `a` of `mem` over the bus gives `n` and leaves the console at `c'`. -/
def Reads (mem : Memory) (c : C) (a n : Nat) (c' : C) : Prop :=
  ∃ v : Word, (Bus.read mem (BitVec.ofNat 16 a)).run c = (.ok v, c') ∧ n = v.toNat

/-- `Row mem w s c s'`: the word `w`, fetched in state `s` and carried out with the console at `c`
and the cells in `mem`, leaves the state `s'`. -/
inductive Row (mem : Memory) (w : Word) (s : State) (c : C) : State → Prop where
  | branch (op : w.field 12 4 = 0x0) (taken : s.takes w) :
    Row mem w s c (s.goto (s.near w 9))
  | fallThrough (op : w.field 12 4 = 0x0) (passed : ¬ s.takes w) : Row mem w s c s.next
  | add (op : w.field 12 4 = 0x1) :
    Row mem w s c (s.load (w.field 9 3) (wrap (s.reg (w.field 6 3) + s.second w)))
  | ld {n : Nat} {c' : C} (op : w.field 12 4 = 0x2) (data : Reads mem c (s.near w 9) n c') :
    Row mem w s c (s.load (w.field 9 3) n)
  | st (op : w.field 12 4 = 0x3) : Row mem w s c (s.store (s.near w 9) (s.reg (w.field 9 3)))
  | jsr (op : w.field 12 4 = 0x4) (long : w.field 11 1 = 1) : Row mem w s c (s.call (s.near w 11))
  | jsrr (op : w.field 12 4 = 0x4) (short : w.field 11 1 ≠ 1) :
    Row mem w s c (s.call (s.reg (w.field 6 3)))
  | and (op : w.field 12 4 = 0x5) :
    Row mem w s c (s.load (w.field 9 3) (s.reg (w.field 6 3) &&& wrap (s.second w)))
  | ldr {n : Nat} {c' : C} (op : w.field 12 4 = 0x6) (data : Reads mem c (s.based w) n c') :
    Row mem w s c (s.load (w.field 9 3) n)
  | str (op : w.field 12 4 = 0x7) : Row mem w s c (s.store (s.based w) (s.reg (w.field 9 3)))
  | not (op : w.field 12 4 = 0x9) :
    Row mem w s c (s.load (w.field 9 3) (2 ^ 16 - 1 - s.reg (w.field 6 3)))
  | ldi {a n : Nat} {c₁ c' : C} (op : w.field 12 4 = 0xA) (pointer : Reads mem c (s.near w 9) a c₁)
      (data : Reads mem c₁ a n c') : Row mem w s c (s.load (w.field 9 3) n)
  | sti {a : Nat} {c' : C} (op : w.field 12 4 = 0xB) (pointer : Reads mem c (s.near w 9) a c') :
    Row mem w s c (s.store a (s.reg (w.field 9 3)))
  | jmp (op : w.field 12 4 = 0xC) : Row mem w s c (s.goto (s.reg (w.field 6 3)))
  | lea (op : w.field 12 4 = 0xE) : Row mem w s c (s.load (w.field 9 3) (s.near w 9))
  | getc {b : Byte} {c' : C} (op : w.field 12 4 = 0xF) (vector : w.field 0 8 = 0x20)
      (byte : Console.answer .readByte c = (.ok b, c')) : Row mem w s c (s.load 0 b.toNat)
  /-- OUT, PUTS and PUTSP only print. -/
  | print (op : w.field 12 4 = 0xF) (vector : w.field 0 8 = 0x21 ∨ w.field 0 8 = 0x22 ∨
      w.field 0 8 = 0x24) : Row mem w s c s.next
  | input {b : Byte} {c₁ c' : C} (op : w.field 12 4 = 0xF) (vector : w.field 0 8 = 0x23)
      (prompt : (Dialogue.print Routine.prompt).run c = (.ok (), c₁))
      (byte : Console.answer .readByte c₁ = (.ok b, c')) : Row mem w s c (s.load 0 b.toNat)
  | halt (op : w.field 12 4 = 0xF) (vector : w.field 0 8 = 0x25) : Row mem w s c s.halt

variable (cpu : Processor)

theorem view_reg (r : Reg) : (view cpu).reg r.toNat = (cpu.regs.get r).toNat := by
  simp [view, Registers.get, Vector.getElem?_eq_getElem r.isLt]

theorem sign_toNat (v : Word) : sign v.toNat = .of v := by
  have := v.isLt
  simp only [sign, Flag.of, BitVec.msb_eq_decide, ← BitVec.toNat_inj]
  grind

theorem mem_devices {a : Word} : a.toNat ∈ devices ↔ Device.at? a ≠ none := by
  have address (d : Device) : a.toNat = d.address.toNat ↔ a = d.address := BitVec.toNat_inj
  rw [show devices = [Device.keyboardStatus, .keyboardData, .displayStatus, .displayData].map
    fun d => d.address.toNat from rfl]
  simp only [List.map_cons, List.map_nil, List.mem_cons, List.not_mem_nil, or_false, address]
  unfold Device.at?
  grind

theorem view_commit_nothing : view (cpu.advance.commit .nothing) = (view cpu).next := by
  ext1 <;> simp [view, Processor.commit, Processor.advance, Registers.commit, Registers.advance,
    Registers.jump, Memory.commit, Status.commit, State.next, State.goto, ← toNat_add_one]

theorem view_commit_jump (a : Word) :
    view (cpu.advance.commit (.jump a)) = (view cpu).goto a.toNat := by
  ext1 <;> simp [view, Processor.commit, Processor.advance, Registers.commit, Registers.advance,
    Registers.jump, Memory.commit, Status.commit, State.goto, wrap_toNat]

theorem view_commit_halt : view (cpu.advance.commit .halt) = (view cpu).halt := by
  ext1 <;> simp [view, Processor.commit, Processor.advance, Registers.commit, Registers.advance,
    Registers.jump, Memory.commit, Status.commit, State.halt, State.next, State.goto,
    ← toNat_add_one]

/-- The numbers in a vector of words after one of them is set. -/
theorem getD_set {n : Nat} (v : Vector Word n) (i : Nat) (hi : i < n) (x : Word) :
    (fun j => ((v.set i x hi)[j]?.getD 0).toNat) =
      update (fun j => (v[j]?.getD 0).toNat) i x.toNat := by
  funext j
  rw [Vector.getElem?_set, update_apply]
  by_cases h : i = j
  · simp [h]
  · simp [h, Ne.symm h]

theorem view_commit_load (r : Reg) (v : Word) :
    view (cpu.advance.commit (.load r v)) = (view cpu).load r.toNat v.toNat := by
  ext1
  · exact toNat_add_one cpu.regs.pc
  · exact getD_set cpu.regs.gpr r.toNat r.isLt v
  · rfl
  · exact (sign_toNat v).symm
  · rfl

theorem view_commit_call (a : Word) :
    view (cpu.advance.commit (.call a)) = (view cpu).call a.toNat := by
  ext1
  · exact (wrap_toNat a).symm
  · rw [State.call, show (view cpu).pc = cpu.regs.pc.toNat from rfl, ← toNat_add_one]
    exact getD_set cpu.regs.gpr 7 (by decide) (cpu.regs.pc + 1)
  · rfl
  · rfl
  · rfl

theorem view_commit_store {a : Word} (h : Device.at? a = none) (v : Word) :
    view (cpu.advance.commit (.store a v)) = (view cpu).store a.toNat v.toNat := by
  rw [State.store, if_neg (by simp [mem_devices, h])]
  ext1
  · exact toNat_add_one cpu.regs.pc
  · rfl
  · exact getD_set cpu.mem.cells a.toNat a.isLt v
  · rfl
  · rfl

theorem store_device {a : Word} (h : Device.at? a ≠ none) (n : Nat) :
    (view cpu).store a.toNat n = (view cpu).next := by
  rw [State.store, if_pos (mem_devices.2 h)]

theorem near_toNat (w : Word) (width : Nat) (h : 0 < width) :
    (cpu.advance.near (w.setWidth width)).toNat = (view cpu).near w width := by
  calc
    _ = wrap ((cpu.regs.pc + 1).toNat + w.signed width) := toNat_add_signExtend _ w h
    _ = wrap (wrap (cpu.regs.pc.toNat + 1) + w.signed width) := by rw [toNat_add_one]
    _ = (view cpu).near w width := wrap_wrap_add _ _

theorem based_toNat (w : Word) :
    (cpu.advance.based w.middle (w.setWidth 6)).toNat = (view cpu).based w := by
  rw [Processor.based, toNat_add_signExtend _ _ (by decide), State.based, ← toNat_middle, view_reg]
  rfl

theorem operand_toNat (w : Word) :
    (cpu.advance.operand w.operand).toNat = wrap ((view cpu).second w) := by
  rw [Word.operand, State.second]
  by_cases h : w.field 5 1 = 1
  · rw [if_pos h, if_pos ((field_one w 5).1 h), Processor.operand,
      signExtend_setWidth _ (by decide)]
    simp [wrap]
  · rw [if_neg h, if_neg (mt (field_one w 5).2 h), Processor.operand, ← toNat_setWidth, view_reg,
      wrap_toNat]
    rfl

theorem get_upper (w : Word) :
    (cpu.advance.regs.get w.upper).toNat = (view cpu).reg (w.field 9 3) := by
  rw [← toNat_upper, view_reg]
  rfl

theorem get_middle (w : Word) :
    (cpu.advance.regs.get w.middle).toNat = (view cpu).reg (w.field 6 3) := by
  rw [← toNat_middle, view_reg]
  rfl

theorem meets_upper (w : Word) : cpu.regs.flag.meets w.upper = true ↔ (view cpu).takes w := by
  have bit (i : Nat) (hi : i < 3) : w.upper.getLsbD i = w.getLsbD (9 + i) := by
    simp [upper, hi]
  have meets (flag : Flag) (c : BitVec 3) : flag.meets c = (c.getLsbD 2 && flag = .negative ||
      c.getLsbD 1 && flag = .zero || c.getLsbD 0 && flag = .positive) := by
    revert c
    cases flag <;> decide
  rw [meets, bit 2 (by decide), bit 1 (by decide), bit 0 (by decide)]
  simp [State.takes, field_one, view, or_assoc]

theorem reads_of_run {mem : Memory} {a v : Word} {c c' : C}
    (h : (Bus.read mem a).run c = (.ok v, c')) : Reads mem c a.toNat v.toNat c' :=
  ⟨v, by simpa using h, rfl⟩

theorem view_commit_write {a v : Word} {c c' : C} {e : Effect}
    (h : (Bus.write a v).run c = (.ok e, c')) :
    view (cpu.advance.commit e) = (view cpu).store a.toNat v.toNat := by
  unfold Bus.write at h
  split at h
  next hd =>
    obtain ⟨rfl, -⟩ : Effect.store a v = e ∧ c = c' := by simpa using h
    exact view_commit_store cpu hd v
  next d hd =>
    rw [Dialogue.run_tell_bind, Dialogue.run_bind_eq_ok] at h
    obtain ⟨_, c₁, -, h⟩ := h
    obtain ⟨rfl, -⟩ : Effect.nothing = e ∧ c₁ = c' := by simpa using h
    rw [store_device cpu (by simp [hd]), view_commit_nothing]

theorem printString_eq_ok {mem : Memory} {a : Word} {bytes : Word → List Byte} {c c' : C}
    {e : Effect} (h : (Routine.printString mem a bytes).run c = (.ok e, c')) : e = .nothing := by
  unfold Routine.printString at h
  split at h
  · exact absurd h (by simp [Dialogue.run])
  · obtain ⟨_, _, -, h⟩ := Dialogue.run_bind_eq_ok.1 h
    exact (Dialogue.run_pure_eq_ok.1 h).1.symm

theorem serve_row {style : Style} {w : Word} {r : Routine} {c c' : C} {e : Effect}
    (op : w.field 12 4 = 0xF) (vector : w.field 0 8 = r.vector.toNat)
    (h : (r.serve style cpu.advance.regs cpu.advance.mem cpu.regs.pc).run c = (.ok e, c')) :
    Row cpu.mem w (view cpu) c (view (cpu.advance.commit e)) := by
  cases r with
  | getc =>
    obtain ⟨b, c₁, byte, h⟩ := Dialogue.run_bind_eq_ok.1 h
    obtain ⟨rfl, -⟩ := Dialogue.run_pure_eq_ok.1 h
    rw [view_commit_load, toNat_ofByte]
    exact .getc op vector (Dialogue.run_readByte_eq_ok.1 byte)
  | out =>
    obtain ⟨_, c₁, -, h⟩ := Dialogue.run_bind_eq_ok.1 h
    obtain ⟨rfl, -⟩ := Dialogue.run_pure_eq_ok.1 h
    rw [view_commit_nothing]
    exact .print op (by simp [vector, Routine.vector])
  | puts =>
    obtain rfl := printString_eq_ok h
    rw [view_commit_nothing]
    exact .print op (by simp [vector, Routine.vector])
  | input =>
    obtain ⟨_, c₁, prompt, h⟩ := Dialogue.run_bind_eq_ok.1 h
    obtain ⟨b, c₂, byte, h⟩ := Dialogue.run_bind_eq_ok.1 h
    obtain ⟨_, c₃, -, h⟩ := Dialogue.run_bind_eq_ok.1 h
    obtain ⟨rfl, -⟩ := Dialogue.run_pure_eq_ok.1 h
    rw [view_commit_load, toNat_ofByte]
    exact .input op vector prompt (Dialogue.run_readByte_eq_ok.1 byte)
  | putsp =>
    obtain rfl := printString_eq_ok h
    rw [view_commit_nothing]
    exact .print op (by simp [vector, Routine.vector])
  | halt =>
    obtain ⟨_, c₁, -, h⟩ := Dialogue.run_bind_eq_ok.1 h
    rw [Dialogue.run_tell_bind] at h
    obtain ⟨rfl, -⟩ := Dialogue.run_pure_eq_ok.1 h
    rw [view_commit_halt]
    exact .halt op vector

/-- An instruction that is carried out follows a row of the table. -/
theorem execute_row {style : Style} {w : Word} {c c' : C} {e : Effect}
    (h : (cpu.advance.execute style cpu.regs.pc w).run c = (.ok e, c')) :
    Row cpu.mem w (view cpu) c (view (cpu.advance.commit e)) := by
  have op := w.field_opcode
  unfold Processor.execute Instruction.decode at h
  cases hop : w.opcode with
  | br =>
    rw [hop] at op h
    obtain ⟨rfl, -⟩ := Dialogue.run_pure_eq_ok.1 h
    by_cases taken : cpu.regs.flag.meets w.upper = true
    · rw [show cpu.advance.regs.flag = cpu.regs.flag from rfl, if_pos taken, view_commit_jump,
        near_toNat cpu w 9 (by decide)]
      exact .branch op ((meets_upper cpu w).1 taken)
    · rw [show cpu.advance.regs.flag = cpu.regs.flag from rfl, if_neg taken, view_commit_nothing]
      exact .fallThrough op (mt (meets_upper cpu w).2 taken)
  | add =>
    rw [hop] at op h
    obtain ⟨rfl, -⟩ := Dialogue.run_pure_eq_ok.1 h
    rw [view_commit_load, toNat_add, get_middle, operand_toNat, wrap_add_wrap, toNat_upper]
    exact .add op
  | ld =>
    rw [hop] at op h
    obtain ⟨v, c₁, data, h⟩ := Dialogue.run_bind_eq_ok.1 h
    obtain ⟨rfl, -⟩ := Dialogue.run_pure_eq_ok.1 h
    rw [view_commit_load, toNat_upper]
    exact .ld op (near_toNat cpu w 9 (by decide) ▸ reads_of_run data)
  | st =>
    rw [hop] at op h
    rw [view_commit_write cpu h, near_toNat cpu w 9 (by decide), get_upper]
    exact .st op
  | jsr =>
    rw [hop] at op h
    obtain ⟨rfl, -⟩ := Dialogue.run_pure_eq_ok.1 h
    rw [view_commit_call, jumpTarget]
    by_cases long : w.field 11 1 = 1
    · rw [if_pos ((field_one w 11).1 long), Processor.target, near_toNat cpu w 11 (by decide)]
      exact .jsr op long
    · rw [if_neg (mt (field_one w 11).2 long), Processor.target, get_middle]
      exact .jsrr op long
  | and =>
    rw [hop] at op h
    obtain ⟨rfl, -⟩ := Dialogue.run_pure_eq_ok.1 h
    rw [view_commit_load, BitVec.toNat_and, get_middle, operand_toNat, toNat_upper]
    exact .and op
  | ldr =>
    rw [hop] at op h
    obtain ⟨v, c₁, data, h⟩ := Dialogue.run_bind_eq_ok.1 h
    obtain ⟨rfl, -⟩ := Dialogue.run_pure_eq_ok.1 h
    rw [view_commit_load, toNat_upper]
    exact .ldr op (based_toNat cpu w ▸ reads_of_run data)
  | str =>
    rw [hop] at op h
    rw [view_commit_write cpu h, based_toNat, get_upper]
    exact .str op
  | rti =>
    rw [hop] at h
    exact absurd h (by simp)
  | not =>
    rw [hop] at op h
    obtain ⟨rfl, -⟩ := Dialogue.run_pure_eq_ok.1 h
    rw [view_commit_load, BitVec.toNat_not, get_middle, toNat_upper]
    exact .not op
  | ldi =>
    rw [hop] at op h
    obtain ⟨a, c₁, pointer, h⟩ := Dialogue.run_bind_eq_ok.1 h
    obtain ⟨v, c₂, data, h⟩ := Dialogue.run_bind_eq_ok.1 h
    obtain ⟨rfl, -⟩ := Dialogue.run_pure_eq_ok.1 h
    rw [view_commit_load, toNat_upper]
    exact .ldi op (near_toNat cpu w 9 (by decide) ▸ reads_of_run pointer) (reads_of_run data)
  | sti =>
    rw [hop] at op h
    obtain ⟨a, c₁, pointer, h⟩ := Dialogue.run_bind_eq_ok.1 h
    rw [view_commit_write cpu h, get_upper]
    exact .sti op (near_toNat cpu w 9 (by decide) ▸ reads_of_run pointer)
  | jmp =>
    rw [hop] at op h
    obtain ⟨rfl, -⟩ := Dialogue.run_pure_eq_ok.1 h
    rw [view_commit_jump, get_middle]
    exact .jmp op
  | reserved =>
    rw [hop] at h
    exact absurd h (by simp)
  | lea =>
    rw [hop] at op h
    obtain ⟨rfl, -⟩ := Dialogue.run_pure_eq_ok.1 h
    rw [view_commit_load, near_toNat cpu w 9 (by decide), toNat_upper]
    exact .lea op
  | trap =>
    rw [hop] at op h
    simp only at h
    split at h
    next r hr =>
      refine serve_row cpu op ?_ h
      rw [← toNat_setWidth, Routine.ofVector?_eq_some_iff.1 hr]
    next => exact absurd h (by simp)

theorem Reads.unique {mem : Memory} {c c₁ c₂ : C} {a n₁ n₂ : Nat} (h₁ : Reads mem c a n₁ c₁)
    (h₂ : Reads mem c a n₂ c₂) : n₁ = n₂ ∧ c₁ = c₂ := by
  obtain ⟨v₁, h₁, rfl⟩ := h₁
  obtain ⟨v₂, h₂, rfl⟩ := h₂
  simpa [BitVec.toNat_inj] using h₁.symm.trans h₂

/-- The table leaves no choice. -/
theorem Row.unique {mem : Memory} {w : Word} {s s₁ s₂ : State} {c : C} (h₁ : Row mem w s c s₁)
    (h₂ : Row mem w s c s₂) : s₁ = s₂ := by
  cases h₁ <;> cases h₂
  -- words of different rows exclude each other, and a row that takes nothing in has one outcome
  all_goals try first | rfl | contradiction | omega
  case ld.ld d₁ _ _ _ d₂ => rw [(d₁.unique d₂).1]
  case ldr.ldr d₁ _ _ _ d₂ => rw [(d₁.unique d₂).1]
  case ldi.ldi p₁ d₁ _ _ _ _ _ p₂ d₂ =>
    obtain ⟨rfl, rfl⟩ := p₁.unique p₂
    rw [(d₁.unique d₂).1]
  case sti.sti p₁ _ _ _ p₂ => rw [(p₁.unique p₂).1]
  case getc.getc b₁ _ _ _ _ b₂ =>
    obtain ⟨h, -⟩ := Prod.mk.inj (b₁.symm.trans b₂)
    rw [Except.ok.inj h]
  case input.input p₁ b₁ _ _ _ _ _ p₂ b₂ =>
    obtain ⟨-, rfl⟩ := Prod.mk.inj (p₁.symm.trans p₂)
    obtain ⟨h, -⟩ := Prod.mk.inj (b₁.symm.trans b₂)
    rw [Except.ok.inj h]

theorem getD_injective {n : Nat} :
    Injective fun (v : Vector Word n) (i : Nat) => (v[i]?.getD 0).toNat := by
  intro v v' h
  ext1 i hi
  have hi' : (v[i]?.getD 0).toNat = (v'[i]?.getD 0).toNat := congrFun h i
  simpa [Vector.getElem?_eq_getElem hi, BitVec.toNat_inj] using hi'

theorem view_injective : Injective view := by
  rintro ⟨⟨gpr, pc, flag⟩, ⟨cells⟩, status⟩ ⟨⟨gpr', pc', flag'⟩, ⟨cells'⟩, status'⟩ h
  obtain ⟨hpc, hreg, hcell, rfl, rfl⟩ := State.mk.inj h
  obtain rfl := BitVec.eq_of_toNat_eq hpc
  obtain rfl := getD_injective hreg
  obtain rfl := getD_injective hcell
  rfl

theorem step_row {m m' : Machine C} (h : m.step = (.ok (), m')) :
    ∃ w c, (Bus.read m.cpu.mem m.cpu.regs.pc).run m.console = (.ok w, c) ∧
      Row m.cpu.mem w (view m.cpu) (Console.hear (.step m.cpu.regs.pc w) c) (view m'.cpu) := by
  obtain ⟨e, c, hc, rfl⟩ := Machine.step_eq_ok.1 h
  obtain ⟨w, c₁, fetched, he⟩ := Processor.cycle_eq_ok.1 hc
  exact ⟨w, c₁, fetched, execute_row m.cpu he⟩

theorem row_of_fetched {m m' : Machine C} {w : Word} {c : C}
    (fetched : (Bus.read m.cpu.mem m.cpu.regs.pc).run m.console = (.ok w, c))
    (step : m.step = (.ok (), m')) :
    Row m.cpu.mem w (view m.cpu) (Console.hear (.step m.cpu.regs.pc w) c) (view m'.cpu) := by
  obtain ⟨w', c', fetched', row⟩ := step_row step
  obtain ⟨rfl, rfl⟩ : w = w' ∧ c = c' := by simpa using fetched.symm.trans fetched'
  exact row

/-- A step that succeeds leaves the one processor that the table prescribes. -/
theorem row_iff_of_step {m m' : Machine C} (h : m.step = (.ok (), m')) :
    ∃ w c, (Bus.read m.cpu.mem m.cpu.regs.pc).run m.console = (.ok w, c) ∧
      ∀ cpu, Row m.cpu.mem w (view m.cpu) (Console.hear (.step m.cpu.regs.pc w) c) (view cpu) ↔
        cpu = m'.cpu := by
  obtain ⟨w, c, fetched, row⟩ := step_row h
  refine ⟨w, c, fetched, fun cpu => ⟨fun other => view_injective (other.unique row), ?_⟩⟩
  rintro rfl
  exact row

/-- `JSRR R7` at the last address, with R7 at 0x4000. -/
def callThroughLink : Machine Buffered where
  cpu := { Processor.single 0xFFFF 0x41C0 with regs := (Registers.start 0xFFFF).set 7 0x4000 }
  console := .ofInput []
  style := .plain

def calledThroughLink : Machine Buffered :=
  { callThroughLink with cpu.regs := (callThroughLink.cpu.regs.set 7 0).jump 0x4000 }

theorem step_callThroughLink : callThroughLink.step = (.ok (), calledThroughLink) := by
  refine Machine.step_eq_ok.2 ⟨.call 0x4000, _, Processor.cycle_eq_ok.2 ⟨0x41C0, _, ?_, rfl⟩, rfl⟩
  exact congrArg (Dialogue.run · _) (Processor.read_single rfl 0x41C0)

theorem row_iff_of_step_callThroughLink : callThroughLink.step = (.ok (), calledThroughLink) ∧
    ∃ w c, (Bus.read callThroughLink.cpu.mem 0xFFFF).run callThroughLink.console = (.ok w, c) ∧
      ∀ cpu, Row callThroughLink.cpu.mem w (view callThroughLink.cpu)
        (Console.hear (.step 0xFFFF w) c) (view cpu) ↔ cpu = calledThroughLink.cpu :=
  ⟨step_callThroughLink, row_iff_of_step step_callThroughLink⟩

end LC3.Isa
