import LC3.HostError
import LC3.Text.Hex

/-! Why an image is refused and why a run ends before the program halts, each cause with what a
report says of it. Addresses are those of the instruction at fault, not of the one after it. -/

namespace LC3

/-- What is said of a failure: a stable code, a sentence, and perhaps advice and an inner cause. -/
structure Diagnosis where
  code : String
  message : String
  help : Option String
  cause : Option String
deriving DecidableEq

inductive LoadError where
  | unreadable (path : String) (error : HostError)
  | empty
  /-- The image has an odd number of bytes. -/
  | unaligned (bytes : Nat)
  /-- So many words after the origin reach past the last address. -/
  | tooLong (origin : Word) (words : Nat)
deriving DecidableEq

def LoadError.diagnosis : LoadError → Diagnosis
  | .unreadable path error =>
    ⟨"load::read", "Could not read program image `" ++ path ++ "`",
      some "check that the path exists and points to an assembled `.obj` file",
      some error.message⟩
  | .empty =>
    ⟨"load::empty", "Program image is empty.",
      some "an image must start with a 16-bit origin address", none⟩
  | .unaligned bytes =>
    ⟨"load::unaligned", "Program image is not aligned to 16 bits (" ++ toString bytes ++ " bytes).",
      some "images are made of big-endian 16-bit words; the file may be truncated", none⟩
  | .tooLong origin words =>
    ⟨"load::too_long",
      "Program of " ++ toString words ++ " words at origin " ++ origin.hex
        ++ " does not fit in memory.",
      some "the last word must be placed at or below address 0xffff", none⟩

inductive Fault where
  | reservedOpcode (pc instruction : Word)
  | privilegedInstruction (pc : Word)
  | unknownTrap (pc : Word) (vector : BitVec 8)
  /-- The user asked for the run to stop. -/
  | interrupted
  /-- The program waits for a byte that can never come. -/
  | inputClosed
  | host (error : HostError)
deriving DecidableEq

def Fault.diagnosis : Fault → Diagnosis
  | .reservedOpcode pc instruction =>
    ⟨"runtime::reserved_opcode",
      "Encountered reserved opcode in " ++ instruction.hex ++ " at " ++ pc.hex ++ ".",
      some "opcode 0b1101 is reserved; the image may be corrupted or built for another machine",
      none⟩
  | .privilegedInstruction pc =>
    ⟨"runtime::privileged", "Attempted RTI at " ++ pc.hex ++ " while in user mode.",
      some "returning from interrupts is not supported by this machine", none⟩
  | .unknownTrap pc vector =>
    ⟨"runtime::unknown_trap",
      "Called a trap with an unknown vector of " ++ hexadecimal 2 vector.toNat ++ " at " ++ pc.hex
        ++ ".",
      some "supported vectors are 0x20 to 0x25 (GETC, OUT, PUTS, IN, PUTSP, HALT)", none⟩
  | .interrupted => ⟨"runtime::interrupted", "Execution was interrupted.", none, none⟩
  | .inputClosed =>
    ⟨"runtime::input_closed", "Input closed while the program was waiting for a character.",
      some "provide more input, or run the program in an interactive terminal", none⟩
  | .host error =>
    ⟨"runtime::io", "Console failure: " ++ error.message, none, some error.message⟩

end LC3
