import LC3.Device
import LC3.Fault
import LC3.Instruction.Decode
import LC3.Instruction.Text

/-! Notes are what a run tells about itself while it goes on. They carry values, not text: the text
of a log line is decided here alone, and a note without a level is never shown. -/

namespace LC3

inductive Level where
  | error
  | warn
  | info
  | debug
  | trace
deriving DecidableEq

namespace Level

def rank : Level → Nat
  | .error => 1
  | .warn => 2
  | .info => 3
  | .debug => 4
  | .trace => 5

def name : Level → String
  | .error => "ERROR"
  | .warn => " WARN"
  | .info => " INFO"
  | .debug => "DEBUG"
  | .trace => "TRACE"

end Level

inductive Note where
  /-- A read or write that a device answers; instruction fetches count. -/
  | access (device : Device)
  | keyboardData (byte : Byte)
  | step (pc instruction : Word)
  | halted (pc : Word)
  | imageRead (path : String) (bytes : Nat)
  | imageLoaded (origin : Word) (words : Nat)
  | running (pc : Word)
  | interrupted
  | stopped (fault : Fault)
  | rawEnabled
  | restored
  | restoreFailed (error : HostError)
deriving DecidableEq

namespace Note

def level? : Note → Option Level
  | .access _ => none
  | .keyboardData _ | .step .. => some .trace
  | .restoreFailed _ => some .warn
  | _ => some .debug

def text : Note → String
  | .access _ => "device access"
  | .keyboardData byte => "keyboard data read byte=" ++ toString byte.toNat
  | .step pc instruction =>
    "step pc=" ++ pc.hex ++ " instr=" ++ instruction.hex ++ " decoded="
      ++ (Instruction.decode instruction).toText
  | .halted pc => "halted pc=" ++ pc.hex
  | .imageRead path bytes => "read image path=" ++ path ++ " bytes=" ++ toString bytes
  | .imageLoaded origin words => "loaded image origin=" ++ origin.hex ++ " len=" ++ toString words
  | .running pc => "running pc=" ++ pc.hex
  | .interrupted => "interrupted"
  | .stopped fault => "execution stopped err=" ++ fault.diagnosis.message
  | .rawEnabled => "enabled raw terminal"
  | .restored => "restored terminal"
  | .restoreFailed error => "failed to restore terminal err=" ++ error.message

/-- The log line of a note. -/
def line (note : Note) : String := note.level?.elim "" Level.name ++ " " ++ note.text

/-- The part of the program that tells it. -/
def target : Note → String
  | .imageRead .. => "lc3_vm::image"
  | .access _ | .keyboardData _ => "lc3_vm::runtime::memory"
  | .halted _ => "lc3_vm::runtime::trap"
  | .step .. | .imageLoaded .. | .running _ | .interrupted | .stopped _ => "lc3_vm::runtime"
  | .rawEnabled | .restored | .restoreFailed _ => "lc3_vm::term"

/-- The names of the values it carries, of which the text is one. -/
def fields : Note → List String
  | .access _ | .interrupted | .rawEnabled | .restored => ["message"]
  | .keyboardData _ => ["message", "byte"]
  | .step .. => ["message", "pc", "instr", "decoded"]
  | .halted _ | .running _ => ["message", "pc"]
  | .imageRead .. => ["message", "path", "bytes"]
  | .imageLoaded .. => ["message", "origin", "len"]
  | .stopped _ | .restoreFailed _ => ["message", "err"]

end Note

end LC3
