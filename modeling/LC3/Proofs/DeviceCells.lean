import LC3.Proofs.Invariant
import LC3.Proofs.Strings

/-! The cells under the four device addresses. Loading an image may fill them, but no store reaches
them afterwards: they are as the image left them in every state of every history. The print routines
do read them. So an image that leaves one of them zero has put a stop there, which ends every string
for good, whatever the program does to the rest of memory. -/

namespace LC3

theorem Memory.get_load (mem : Memory) (a : Word) (ws : List Word) (b : Word)
    (fits : a.toNat + ws.length ≤ size) : (mem.load a ws).get b =
      if a.toNat ≤ b.toNat then ws.getD (b.toNat - a.toNat) (mem.get b) else mem.get b := by
  induction ws generalizing mem a with
  | nil => simp [load]
  | cons w ws ih =>
    rw [List.length_cons, size] at fits
    by_cases last : a.toNat = 0xFFFF
    · -- no word follows, so it does not matter that the next address is 0
      obtain rfl : ws = [] := List.eq_nil_of_length_eq_zero (by omega)
      have := b.isLt
      rw [load, load, get_set]
      by_cases same : a = b
      · subst same
        simp
      · have : ¬ a.toNat ≤ b.toNat := fun h => same (BitVec.eq_of_toNat_eq (by omega))
        rw [if_neg same, if_neg this]
    · have next : (a + 1).toNat = a.toNat + 1 := by bv_omega
      rw [load, ih (mem.set a w) (a + 1) (by rw [size]; omega), next, get_set]
      by_cases same : a = b
      · subst same
        rw [if_neg (by omega), if_pos rfl, if_pos (Nat.le_refl _), Nat.sub_self,
          List.getD_cons_zero]
      · rw [if_neg same]
        by_cases before : a.toNat ≤ b.toNat
        · have distance : b.toNat - a.toNat = b.toNat - (a.toNat + 1) + 1 := by bv_omega
          rw [if_pos (by bv_omega), if_pos before, distance, List.getD_cons_succ]
        · rw [if_neg (by omega), if_neg before]

/-- What loading an image leaves at `a`: its word there, or zero if it has none. -/
def Image.cell (image : Image) (a : Word) : Word :=
  if image.origin.toNat ≤ a.toNat then image.words.getD (a.toNat - image.origin.toNat) 0 else 0

theorem Processor.get_ofImage (image : Image) (a : Word) :
    (ofImage image).mem.get a = image.cell a := by
  rw [ofImage, Memory.get_load _ _ _ _ image.fits, Memory.get_blank, Image.cell]

theorem Processor.read_ofImage {C : Type} [Console C] (image : Image) {a : Word}
    (stored : Device.at? a = none) (c : C) :
    (Bus.read (ofImage image).mem a).run c = (.ok (image.cell a), c) := by
  rw [Bus.read_stored stored, get_ofImage]
  rfl

theorem Image.cell_device {image : Image}
    (below : image.origin.toNat + image.words.length ≤ 0xFE00) (d : Device) :
    image.cell d.address = 0 := by
  have devices : 0xFE00 ≤ d.address.toNat := by cases d <;> decide
  rw [cell]
  split
  · rw [List.getD_eq_getElem?_getD, List.getElem?_eq_none (by omega), Option.getD_none]
  · rfl

theorem Isa.view_cell (cpu : Processor) (a : Word) :
    (view cpu).cell a.toNat = (cpu.mem.get a).toNat := by
  simp [view, Memory.get, Vector.getElem?_eq_getElem a.isLt]

/-- No row of the table changes a cell under a device address. -/
theorem Isa.cell_of_row {C : Type} [Console C] {mem : Memory} {w : Word} {c : C} {s s' : State}
    (row : Row mem w s c s') {n : Nat} (device : n ∈ devices) : s'.cell n = s.cell n := by
  have store (a v : Nat) : (s.store a v).cell n = s.cell n := by
    unfold State.store
    split
    · rfl
    next free =>
      have other : n ≠ a := by
        rintro rfl
        exact free device
      exact Function.update_of_ne other _ _
  cases row with
  | st => exact store _ _
  | sti => exact store _ _
  | str => exact store _ _
  | _ => rfl

namespace Machine

variable {C : Type} [Console C] {m m₀ : Machine C}

theorem deviceCell_step (m : Machine C) (d : Device) :
    m.step.2.cpu.mem.get d.address = m.cpu.mem.get d.address := by
  rcases h : m.step with ⟨out, m'⟩
  by_cases succeeded : out = .ok ()
  · subst succeeded
    obtain ⟨w, c, -, row⟩ := Isa.step_row h
    have device : d.address.toNat ∈ Isa.devices := by cases d <;> decide
    have kept := Isa.cell_of_row row device
    rw [Isa.view_cell, Isa.view_cell] at kept
    exact BitVec.eq_of_toNat_eq kept
  · rw [step_cpu h succeeded]
    rfl

/-- What can become of a machine that is stepped, run and has its registers set, whether these
succeed or fail. -/
inductive Reached (m₀ : Machine C) : Machine C → Prop where
  | start : Reached m₀ m₀
  | step {m : Machine C} (before : Reached m₀ m) : Reached m₀ m.step.2
  | run {m : Machine C} (before : Reached m₀ m) (fuel : Nat) : Reached m₀ (m.run fuel).2
  | setReg {m : Machine C} (before : Reached m₀ m) (r : Reg) (w : Word) : Reached m₀ (m.setReg r w)

theorem keeps_deviceCell (d : Device) (w : Word) :
    Keeps fun m : Machine C => m.cpu.mem.get d.address = w :=
  .of_processor (I := fun cpu => cpu.mem.get d.address = w) fun m h => (deviceCell_step m d).trans h

theorem Reached.deviceCell (h : Reached m₀ m) (d : Device) :
    m.cpu.mem.get d.address = m₀.cpu.mem.get d.address := by
  induction h with
  | start => rfl
  | step _ ih => exact (deviceCell_step _ d).trans ih
  | run _ fuel ih => exact (keeps_deviceCell d _).run ih fuel
  | setReg _ _ _ ih => exact ih

theorem Polled.cpu {k : Nat} (h : Polled k m₀ m) : m.cpu = m₀.cpu := by
  cases h <;> rfl

/-- A zero under a device address is there for good, so no run comes upon a string without end. -/
theorem run_ne_endless {d : Device} (zero : m.cpu.mem.get d.address = 0) (fuel : Nat) :
    (m.run fuel).1 ≠ some .endless := by
  intro endless
  have ended : m.run fuel = (some .endless, (m.run fuel).2) := Prod.ext endless rfl
  obtain ⟨k, mk, after, stops, -⟩ := run_eq_iff.1 ended
  obtain ⟨⟩ | ⟨⟩ | ⟨⟩ | ⟨⟩ | @⟨m₁, _, running, polled, step⟩ := stops
  have reached : m.run k = (none, mk) := run_eq_iff.2 ⟨after, running⟩
  have kept := (keeps_deviceCell d 0).run zero k
  rw [reached] at kept
  have zero₁ : m₁.cpu.mem.get d.address = 0 := by rwa [polled.cpu]
  exact step_ne_endless zero₁ (by rw [step])

/-- The string that starts at R0 ends, and printing it is all that is left of the step once the
console stands at `c`. -/
def PrintsString (m : Machine C) (c : C) (bytes : Word → List Byte) : Prop :=
  ∃ words, m.cpu.mem.Spells (m.cpu.regs.get 0) words ∧ words.length ≤ 65535 ∧
    m.step.1 = ((Dialogue.print (words.flatMap bytes)).run c).1

theorem printsString {w z : Word} {r : Routine} {c : C} {bytes : Word → List Byte}
    (zero : m.cpu.mem.get z = 0)
    (fetched : (Bus.read m.cpu.mem m.cpu.regs.pc).run m.console = (.ok w, c))
    (op : w.field 12 4 = 0xF) (vector : w.field 0 8 = r.vector.toNat)
    (serve : r.serve m.style m.cpu.advance.regs m.cpu.mem m.cpu.regs.pc =
      Routine.printString m.cpu.mem (m.cpu.regs.get 0) bytes) :
    m.PrintsString (Console.hear (.step m.cpu.regs.pc w) c) bytes := by
  obtain ⟨words, spelled, -⟩ := Memory.exists_spells zero (m.cpu.regs.get 0)
  refine ⟨words, spelled, Nat.le_of_lt_succ spelled.length_lt, ?_⟩
  have prints : (m.cpu.cycle m.style).run m.console =
      ((Dialogue.print (words.flatMap bytes)).bind fun _ => pure .nothing).run
        (Console.hear (.step m.cpu.regs.pc w) c) := by
    rw [Processor.cycle_run fetched, Processor.execute_routine _ _ _ op vector]
    exact congrArg (Dialogue.run · _) (serve.trans (Routine.printString_of_spells spelled bytes))
  rw [Dialogue.run_bind] at prints
  unfold step
  rw [prints]
  rcases (Dialogue.print (words.flatMap bytes)).run (Console.hear (.step m.cpu.regs.pc w) c) with
    ⟨_ | _ | _, c'⟩ <;> rfl

/-- The cells under the devices stay as they were loaded. If one of them is zero, every string ends
in every state ever reached, on every console, and so does every instruction of every run. -/
theorem strings_end_of_reached (style : Style) (image : Image) (console : C) :
    (∀ m, Reached (.ofImage style image console) m →
      ∀ d : Device, m.cpu.mem.get d.address = image.cell d.address) ∧
    (image.origin.toNat + image.words.length ≤ 0xFE00 →
      ∀ d : Device, image.cell d.address = 0) ∧
    ((∃ d : Device, image.cell d.address = 0) →
      ∀ m, Reached (.ofImage style image console) m → ∀ c : C,
        (∀ (w : Word) (c' : C), (Bus.read m.cpu.mem m.cpu.regs.pc).run c = (.ok w, c') →
          w.field 12 4 = 0xF →
          (w.field 0 8 = 0x22 → PrintsString { m with console := c }
            (Console.hear (.step m.cpu.regs.pc w) c') fun w => [w.low]) ∧
          (w.field 0 8 = 0x24 → PrintsString { m with console := c }
            (Console.hear (.step m.cpu.regs.pc w) c') Routine.unpack)) ∧
        ({ m with console := c }).step.1 ≠ .endless ∧
        ∀ fuel, (({ m with console := c }).run fuel).1 ≠ some .endless) := by
  have cells (m : Machine C) (h : Reached (.ofImage style image console) m) (d : Device) :
      m.cpu.mem.get d.address = image.cell d.address :=
    (h.deviceCell d).trans (Processor.get_ofImage image d.address)
  refine ⟨cells, fun below => Image.cell_device below, ?_⟩
  rintro ⟨d, zero⟩ m h c
  have stop : m.cpu.mem.get d.address = 0 := (cells m h d).trans zero
  refine ⟨fun w c' fetched op => ⟨fun vector => ?_, fun vector => ?_⟩, step_ne_endless stop,
    run_ne_endless stop⟩
  · exact printsString (m := { m with console := c }) (r := .puts) stop fetched op vector rfl
  · exact printsString (m := { m with console := c }) (r := .putsp) stop fetched op vector rfl

/-- `TRAP PUTSP` at the last address. -/
def putspLast : Image := ⟨0xFFFF, [0xF024], by decide⟩

/-- It prints itself and ends at address 0, which no word was loaded to. -/
theorem strings_end_of_reached_putspLast :
    ∃ m, Reached (.ofImage .plain putspLast (Buffered.ofInput [])) m ∧ m.cpu.regs.get 0 = 0xFFFF ∧
      m.PrintsString m.console Routine.unpack ∧ m.step.1 ≠ .endless := by
  obtain ⟨-, -, ends⟩ := strings_end_of_reached .plain putspLast (Buffered.ofInput [])
  have zero : putspLast.cell Device.displayData.address = 0 := rfl
  have reached : Reached (.ofImage .plain putspLast (Buffered.ofInput [])) _ :=
    Reached.start.setReg 0 0xFFFF
  have fetched : (Bus.read (Processor.ofImage putspLast).mem 0xFFFF).run (Buffered.ofInput []) =
      (.ok 0xF024, .ofInput []) :=
    congrArg (Dialogue.run · _) (Processor.read_single rfl 0xF024)
  obtain ⟨strings, ended, -⟩ := ends ⟨.displayData, zero⟩ _ reached (.ofInput [])
  exact ⟨_, reached, rfl, (strings 0xF024 _ fetched rfl).2 rfl, ended⟩

end Machine

end LC3
