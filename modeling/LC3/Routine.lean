import LC3.Bus
import LC3.Registers
import LC3.Style
import LC3.Text.Utf8

/-! The six service routines behind `TRAP`. They read strings from the stored cells, past any
device, and whatever they print they also flush before they ask for more. -/

namespace LC3

inductive Routine where
  /-- Reads a character without echo. -/
  | getc
  | out
  /-- Prints a string of one character per word. -/
  | puts
  /-- Prompts for a character and echoes it. -/
  | input
  /-- Prints a string of two characters per word, low byte first. -/
  | putsp
  | halt
deriving DecidableEq

namespace Routine

def vector : Routine → BitVec 8
  | .getc => 0x20#8
  | .out => 0x21#8
  | .puts => 0x22#8
  | .input => 0x23#8
  | .putsp => 0x24#8
  | .halt => 0x25#8

def ofVector? (v : BitVec 8) : Option Routine :=
  match v with
  | 0x20#8 => some .getc
  | 0x21#8 => some .out
  | 0x22#8 => some .puts
  | 0x23#8 => some .input
  | 0x24#8 => some .putsp
  | 0x25#8 => some .halt
  | _ => none

/-- The bytes of a packed word; a zero high byte is padding and not printed. -/
def unpack (w : Word) : List Byte := if w.high = 0 then [w.low] else [w.low, w.high]

def prompt : List Byte := Utf8.encode "Enter a character: "

def haltNotice (style : Style) : List Byte :=
  Utf8.encode ("\n" ++ style.label .cyan "Halted" ++ "\n")

/-- Prints the string that starts at `a`, each word of it as `bytes` says. -/
def printString (mem : Memory) (a : Word) (bytes : Word → List Byte) : Dialogue Effect :=
  match mem.string? a with
  | none => .endless
  | some words => do
    Dialogue.print (words.flatMap bytes)
    pure .nothing

/-- Runs a routine for the `TRAP` at `pc`. -/
def serve (style : Style) (regs : Registers) (mem : Memory) (pc : Word) :
    Routine → Dialogue Effect
  | .getc => do
    let byte ← Dialogue.readByte
    pure (.load 0 (.ofByte byte))
  | .out => do
    Dialogue.print [(regs.get 0).low]
    pure .nothing
  | .puts => printString mem (regs.get 0) fun w => [w.low]
  | .input => do
    Dialogue.print prompt
    let byte ← Dialogue.readByte
    Dialogue.print [byte]
    pure (.load 0 (.ofByte byte))
  | .putsp => printString mem (regs.get 0) unpack
  | .halt => do
    Dialogue.print (haltNotice style)
    Dialogue.tell (.halted pc)
    pure .halt

end Routine

end LC3
