import LC3.Console.Buffered
import LC3.Proofs.DeviceCells

/-! The cells under the device addresses from the point of view of a program. Fetches, loads, stores
and pointers go over the bus, which never comes to these cells, so machines that differ in nothing
else do the same, say the same and go on differing in nothing else. Only the print routines read past
the devices: what they print may depend on such a cell, unless the string ends before it. -/

namespace LC3

namespace Memory

variable {mem mem' : Memory} {a : Word}

/-- The same in all cells but those under the devices. -/
def Alike (mem mem' : Memory) : Prop := ∀ a, Device.at? a = none → mem'.get a = mem.get a

/-- A reader who starts at `a` meets a zero cell before any cell under a device. -/
def StopsShort (mem : Memory) (a : Word) : Prop :=
  ∃ n : Nat, mem.get (a + BitVec.ofNat 16 n) = 0 ∧
    ∀ k ≤ n, Device.at? (a + BitVec.ofNat 16 k) = none

theorem Alike.set (h : mem.Alike mem') (a w : Word) : (mem.set a w).Alike (mem'.set a w) := by
  intro b stored
  rw [get_set, get_set, h b stored]

theorem Alike.spells (h : mem.Alike mem') (short : mem.StopsShort a) :
    ∃ ws, mem.Spells a ws ∧ mem'.Spells a ws := by
  obtain ⟨n, zero, stored⟩ := short
  induction n generalizing a with
  | zero =>
    have here := stored 0 (Nat.le_refl 0)
    rw [BitVec.add_zero] at zero here
    exact ⟨[], .stop zero, .stop ((h a here).trans zero)⟩
  | succ n ih =>
    have here : Device.at? a = none := by
      have := stored 0 (Nat.zero_le _)
      rwa [BitVec.add_zero] at this
    by_cases stop : mem.get a = 0
    · exact ⟨[], .stop stop, .stop ((h a here).trans stop)⟩
    · obtain ⟨ws, spelled, spelled'⟩ := ih (a := a + 1) (by rwa [← a.add_ofNat_succ]) fun k hk => by
        rw [← a.add_ofNat_succ]
        exact stored (k + 1) (Nat.succ_le_succ hk)
      refine ⟨mem.get a :: ws, .pass stop spelled, ?_⟩
      have passed : mem'.Spells a (mem'.get a :: ws) := .pass (by rwa [h a here]) spelled'
      rwa [h a here] at passed

end Memory

theorem Bus.read_alike {mem mem' : Memory} (h : mem.Alike mem') (a : Word) :
    read mem' a = read mem a := by
  unfold read
  cases found : Device.at? a with
  | none => exact congrArg pure (h a found)
  | some d => rfl

theorem Routine.printString_alike {mem mem' : Memory} (h : mem.Alike mem') {a : Word}
    (short : mem.StopsShort a) (bytes : Word → List Byte) :
    printString mem' a bytes = printString mem a bytes := by
  obtain ⟨ws, spelled, spelled'⟩ := h.spells short
  rw [printString_of_spells spelled, printString_of_spells spelled']

theorem Dialogue.bind_congr_of_run {C α β : Type} [Console C] {d : Dialogue α}
    {g g' : α → Dialogue β} {c : C} (h : ∀ a c', d.run c = (.ok a, c') → g' a = g a) :
    (d >>= g').run c = (d >>= g).run c ∧ (d >>= g').exchanges c = (d >>= g).exchanges c := by
  rw [exchanges_bind, exchanges_bind, show d >>= g' = d.bind g' from rfl,
    show d >>= g = d.bind g from rfl, run_bind, run_bind]
  rcases ran : d.run c with ⟨a | _ | _, c'⟩
  · simp only [h a c' ran, and_self]
  · exact ⟨rfl, rfl⟩
  · exact ⟨rfl, rfl⟩

namespace Processor

variable {cpu cpu' : Processor}

/-- The same in all but the cells under the devices. -/
structure Alike (cpu cpu' : Processor) : Prop where
  regs : cpu'.regs = cpu.regs
  mem : cpu.mem.Alike cpu'.mem
  status : cpu'.status = cpu.status

/-- If `w` is one of the two routines that print a string, its string ends before the devices. -/
def PrintsShort (cpu : Processor) (w : Word) : Prop :=
  w.field 12 4 = 0xF → w.field 0 8 = 0x22 ∨ w.field 0 8 = 0x24 →
    cpu.mem.StopsShort (cpu.regs.get 0)

theorem Alike.advance (h : cpu.Alike cpu') : cpu.advance.Alike cpu'.advance :=
  ⟨congrArg Registers.advance h.regs, h.mem, h.status⟩

theorem Alike.commit (h : cpu.Alike cpu') (e : Effect) : (cpu.commit e).Alike (cpu'.commit e) where
  regs := congrArg (Registers.commit · e) h.regs
  mem := by
    cases e with
    | store a w => exact h.mem.set a w
    | _ => exact h.mem
  status := congrArg (Status.commit · e) h.status

theorem serve_alike {mem mem' : Memory} (h : mem.Alike mem') (style : Style) (regs : Registers)
    (pc : Word) {r : Routine}
    (short : r = .puts ∨ r = .putsp → mem.StopsShort (regs.get 0)) :
    r.serve style regs mem' pc = r.serve style regs mem pc := by
  cases r with
  | puts => exact Routine.printString_alike h (short (.inl rfl)) _
  | putsp => exact Routine.printString_alike h (short (.inr rfl)) _
  | _ => rfl

theorem execute_alike (h : cpu.Alike cpu') (style : Style) (pc : Word) {w : Word}
    (short : cpu.PrintsShort w) : cpu'.execute style pc w = cpu.execute style pc w := by
  obtain ⟨regs, mem, status⟩ := cpu
  obtain ⟨regs', mem', status'⟩ := cpu'
  obtain ⟨rfl, alike, rfl⟩ := h
  have op := w.field_opcode
  unfold execute Instruction.decode
  cases hop : w.opcode <;> rw [hop] at op <;> simp only [Bus.read_alike alike]
  case trap =>
    split
    next r known =>
      refine serve_alike alike style regs' pc fun prints => short op ?_
      have vector : w.field 0 8 = r.vector.toNat := by
        rw [← w.toNat_setWidth, Routine.ofVector?_eq_some_iff.1 known]
      obtain rfl | rfl := prints
      · exact .inl vector
      · exact .inr vector
    next => rfl
  all_goals rfl

theorem cycle_alike {C : Type} [Console C] (h : cpu.Alike cpu') (style : Style) {c : C}
    (short : ∀ w c', (Bus.read cpu.mem cpu.regs.pc).run c = (.ok w, c') → cpu.PrintsShort w) :
    (cpu'.cycle style).run c = (cpu.cycle style).run c ∧
      (cpu'.cycle style).exchanges c = (cpu.cycle style).exchanges c := by
  simp only [cycle, h.regs, Bus.read_alike h.mem]
  apply Dialogue.bind_congr_of_run
  intro w c' fetched
  rw [execute_alike h.advance style cpu.regs.pc (short w c' fetched)]

end Processor

namespace Machine

variable {C : Type} {m m' : Machine C}

/-- The same in all but the cells under the devices. -/
structure Alike (m m' : Machine C) : Prop where
  cpu : m.cpu.Alike m'.cpu
  console : m'.console = m.console
  style : m'.style = m.style

theorem Alike.setReg (h : m.Alike m') (r : Reg) (w : Word) :
    (m.setReg r w).Alike (m'.setReg r w) where
  cpu := ⟨congrArg (Registers.set · r w) h.cpu.regs, h.cpu.mem, h.cpu.status⟩
  console := h.console
  style := h.style

variable [Console C]

/-- If the next instruction is one of the two that print a string, its string ends before the
devices. -/
def PrintsShort (m : Machine C) : Prop :=
  ∀ w c, (Bus.read m.cpu.mem m.cpu.regs.pc).run m.console = (.ok w, c) → m.cpu.PrintsShort w

/-- After `n` steps, each of them made whether or not those before it succeeded. -/
def stepped (m : Machine C) : Nat → Machine C
  | 0 => m
  | n + 1 => (m.stepped n).step.2

theorem stepped_zero (m : Machine C) : m.stepped 0 = m := rfl

theorem stepped_one (m : Machine C) : m.stepped 1 = m.step.2 := rfl

theorem step_alike (h : m.Alike m') (short : m.PrintsShort) :
    m'.step.1 = m.step.1 ∧ m'.exchanges = m.exchanges ∧ m.step.2.Alike m'.step.2 := by
  obtain ⟨cpu, console, style⟩ := m
  obtain ⟨cpu', console', style'⟩ := m'
  obtain ⟨alike, rfl, rfl⟩ := h
  obtain ⟨run, asked⟩ := Processor.cycle_alike alike style' short
  unfold step
  simp only [run]
  rcases (cpu.cycle style').run console' with ⟨e | f | _, c⟩
  · exact ⟨rfl, asked, alike.advance.commit e, rfl, rfl⟩
  · exact ⟨rfl, asked, alike.advance, rfl, rfl⟩
  · exact ⟨rfl, asked, alike.advance, rfl, rfl⟩

theorem stepped_alike (h : m.Alike m') {n : Nat} (short : ∀ k < n, (m.stepped k).PrintsShort) :
    (m.stepped n).Alike (m'.stepped n) := by
  induction n with
  | zero => exact h
  | succ n ih =>
    have before := ih fun k hk => short k (Nat.lt_succ_of_lt hk)
    exact (step_alike before (short n (Nat.lt_succ_self n))).2.2

theorem deviceCell_stepped (m : Machine C) (n : Nat) (d : Device) :
    (m.stepped n).cpu.mem.get d.address = m.cpu.mem.get d.address := by
  induction n with
  | zero => rfl
  | succ n ih => exact (deviceCell_step _ d).trans ih

/-- Images that differ only under the devices make machines that differ only there. -/
theorem ofImage_alike (style : Style) (console : C) {image image' : Image}
    (origin : image'.origin = image.origin) (length : image'.words.length = image.words.length)
    (cells : ∀ a, Device.at? a = none → image'.cell a = image.cell a) :
    (ofImage style image console).Alike (ofImage style image' console) := by
  refine ⟨⟨congrArg Registers.start origin, ?_, rfl⟩, ?_, rfl⟩
  · intro a stored
    exact ((Processor.get_ofImage image' a).trans (cells a stored)).trans
      (Processor.get_ofImage image a).symm
  · unfold ofImage hear
    rw [origin, length]

/-- Two machines that are equal but for the cells under the devices: through any number of steps,
whether these succeed or fail, they give the same results, make the same calls and hear the same
replies, stay equal but for these cells, and each keeps its own there, as long as each string that
is printed ends before its reader comes to one of them. Such are two machines made from images that
differ only in words under the devices. -/
theorem hidden_of_stepped :
    (∀ (m m' : Machine C) (n : Nat), m.Alike m' → (∀ k < n, (m.stepped k).PrintsShort) →
      (∀ k < n, (m'.stepped k).step.1 = (m.stepped k).step.1 ∧
        (m'.stepped k).exchanges = (m.stepped k).exchanges) ∧
      ∀ k ≤ n, (m.stepped k).Alike (m'.stepped k) ∧
        ∀ d : Device, (m.stepped k).cpu.mem.get d.address = m.cpu.mem.get d.address ∧
          (m'.stepped k).cpu.mem.get d.address = m'.cpu.mem.get d.address) ∧
    ∀ (style : Style) (console : C) (image image' : Image), image'.origin = image.origin →
      image'.words.length = image.words.length →
      (∀ a, Device.at? a = none → image'.cell a = image.cell a) →
      (ofImage style image console).Alike (ofImage style image' console) := by
  refine ⟨fun m m' n alike short => ⟨fun k hk => ?_, fun k hk => ⟨?_, fun d => ?_⟩⟩,
    fun style console image image' => ofImage_alike style console⟩
  · have before := stepped_alike alike fun i hi => short i (Nat.lt_trans hi hk)
    obtain ⟨out, asked, -⟩ := step_alike before (short k hk)
    exact ⟨out, asked⟩
  · exact stepped_alike alike fun i hi => short i (Nat.lt_of_lt_of_le hi hk)
  · exact ⟨deviceCell_stepped m k d, deviceCell_stepped m' k d⟩

/-- `TRAP PUTS`, a zero word, and `hidden` under the status of the keyboard. -/
def putsBefore (hidden : Word) : Image :=
  ⟨0xFDFE, [0xF022, 0, hidden], by change 0xFDFE + 3 ≤ 0x10000; decide⟩

/-- About to print the instruction itself, which is all there is before the zero. -/
def printsBefore (hidden : Word) : Machine Buffered :=
  (ofImage .plain (putsBefore hidden) (.ofInput [])).setReg 0 0xFDFE

theorem cell_putsBefore {a : Word} (stored : Device.at? a = none) (hidden hidden' : Word) :
    (putsBefore hidden').cell a = (putsBefore hidden).cell a := by
  have elsewhere : a.toNat - 0xFDFE ≠ 2 := by
    intro h
    obtain rfl : a = 0xFE00 := by bv_omega
    exact absurd stored (by decide)
  change (if 0xFDFE ≤ a.toNat then [0xF022, 0, hidden'].getD (a.toNat - 0xFDFE) 0 else 0) =
    if 0xFDFE ≤ a.toNat then [0xF022, 0, hidden].getD (a.toNat - 0xFDFE) 0 else 0
  rcases h : a.toNat - 0xFDFE with _ | _ | _ | n
  · rfl
  · rfl
  · exact absurd h elsewhere
  · rfl

/-- What is hidden behind the zero is not noticed and stays where it is. -/
theorem hidden_of_stepped_printsBefore :
    (printsBefore 0x42).step.1 = (printsBefore 0).step.1 ∧
      (printsBefore 0x42).exchanges = (printsBefore 0).exchanges ∧
      (printsBefore 0).step.2.Alike (printsBefore 0x42).step.2 ∧
      (printsBefore 0x42).step.2.cpu.mem.get Device.keyboardStatus.address = 0x42 := by
  obtain ⟨steps, images⟩ := hidden_of_stepped (C := Buffered)
  have made := images .plain (.ofInput []) (putsBefore 0) (putsBefore 0x42) rfl rfl
    fun a stored => cell_putsBefore stored 0 0x42
  have alike : (printsBefore 0).Alike (printsBefore 0x42) := made.setReg 0 0xFDFE
  have zero : (printsBefore 0).cpu.mem.get 0xFDFF = 0 :=
    Processor.get_ofImage (putsBefore 0) 0xFDFF
  have short : ∀ k < 1, ((printsBefore 0).stepped k).PrintsShort := by
    intro k hk w c fetched op vector
    obtain rfl : k = 0 := Nat.lt_one_iff.1 hk
    refine ⟨1, zero, fun i hi => ?_⟩
    obtain rfl | rfl : i = 0 ∨ i = 1 := by omega
    · rfl
    · rfl
  obtain ⟨same, after⟩ := steps _ _ 1 alike short
  obtain ⟨out, asked⟩ := same 0 Nat.one_pos
  obtain ⟨still, kept⟩ := after 1 (Nat.le_refl 1)
  have kept := (kept .keyboardStatus).2
  rw [stepped_zero, stepped_zero] at out asked
  rw [stepped_one, stepped_one] at still
  rw [stepped_one] at kept
  have stored : (printsBefore 0x42).cpu.mem.get Device.keyboardStatus.address = 0x42 :=
    Processor.get_ofImage (putsBefore 0x42) _
  exact ⟨out, asked, still, kept.trans stored⟩

end Machine

end LC3
