import LC3.Dialogue
import LC3.Memory

/-! Loads, stores and instruction fetches reach memory through the bus, which passes the four device
addresses on to their devices. Only there does an address make a console call. -/

namespace LC3

/-- What a completed instruction changes besides moving on to the next address. -/
inductive Effect where
  | nothing
  | store (a w : Word)
  /-- Changes a register and sets the flag. -/
  | load (r : Reg) (w : Word)
  | jump (a : Word)
  /-- Jumps and leaves the address to return to in R7. -/
  | call (a : Word)
  | halt
deriving DecidableEq

namespace Device

/-- Reading the keyboard's data waits for a byte and takes it. -/
def read : Device → Dialogue Word
  | .keyboardStatus => do
    let available ← Dialogue.inputReady
    pure (if available then ready else 0)
  | .keyboardData => do
    let byte ← Dialogue.readByte
    Dialogue.tell (.keyboardData byte)
    pure (.ofByte byte)
  | .displayStatus => pure ready
  | .displayData => pure 0

def write : Device → Word → Dialogue Unit
  | .displayData, w => Dialogue.print [w.low]
  | .keyboardStatus, _ | .keyboardData, _ | .displayStatus, _ => pure ()

end Device

namespace Bus

def read (mem : Memory) (a : Word) : Dialogue Word :=
  match Device.at? a with
  | none => pure (mem.get a)
  | some device => do
    Dialogue.tell (.access device)
    device.read

def write (a w : Word) : Dialogue Effect :=
  match Device.at? a with
  | none => pure (.store a w)
  | some device => do
    Dialogue.tell (.access device)
    device.write w
    pure .nothing

end Bus

end LC3
