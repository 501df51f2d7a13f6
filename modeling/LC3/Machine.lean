import LC3.Processor

/-! A machine is a processor with the console it talks to. `step` runs one instruction; `run` goes
on until the program halts and asks the console before every 4096th instruction whether to stop. -/

namespace LC3

structure Machine (C : Type) where
  cpu : Processor
  console : C
  style : Style

namespace Machine

variable {C : Type} [Console C]

def hear (m : Machine C) (n : Note) : Machine C := { m with console := Console.hear n m.console }

def ofImage (style : Style) (image : Image) (console : C) : Machine C :=
  hear ⟨.ofImage image, console, style⟩ (.imageLoaded image.origin image.words.length)

/-- Changes one register, as a debugger may between two steps. -/
def setReg (m : Machine C) (r : Reg) (w : Word) : Machine C :=
  { m with cpu.regs := m.cpu.regs.set r w }

def step (m : Machine C) : Outcome Unit × Machine C :=
  match (m.cpu.cycle m.style).run m.console with
  | (.ok effect, console) => (.ok (), { m with cpu := m.cpu.advance.commit effect, console })
  | (.fault f, console) => (.fault f, { m with cpu := m.cpu.advance, console })
  | (.endless, console) => (.endless, { m with cpu := m.cpu.advance, console })

def pollInterval : UInt32 := 0x1000

/-- Asks whether to stop, if a poll is due before instruction number `count`. -/
def poll (count : UInt32) (m : Machine C) : Option Fault × Machine C :=
  if count % pollInterval = 0 then
    match Console.answer .interrupted m.console with
    | (.ok true, console) => (some .interrupted, { m with console }.hear .interrupted)
    | (.ok false, console) => (none, { m with console })
    | (.error f, console) => (some f, { m with console })
  else (none, m)

/-- Runs on from instruction number `count`; none if `fuel` instructions do not end the run. -/
def runFrom : (fuel : Nat) → (count : UInt32) → Machine C → Option (Outcome Unit) × Machine C
  | fuel, count, m =>
    match m.cpu.status, fuel with
    | .halted, _ => (some (.ok ()), m)
    | .running, 0 => (none, m)
    | .running, fuel + 1 =>
      match m.poll count with
      | (some f, m) => (some (.fault f), m)
      | (none, m) =>
        match m.step with
        | (.ok _, m) => runFrom fuel (count + 1) m
        | (.fault f, m) => (some (.fault f), m.hear (.stopped f))
        | (.endless, m) => (some .endless, m)

def run (fuel : Nat) (m : Machine C) : Option (Outcome Unit) × Machine C :=
  (m.hear (.running m.cpu.regs.pc)).runFrom fuel 0

end Machine

end LC3
