import LC3.Cli.Arguments
import LC3.Style

/-! The texts about the command line itself: help, version, and what is wrong with a command line.
They are written with inks, which a plain style leaves out again. -/

namespace LC3

def programName : String := "lc3-vm"

def versionText : String := programName ++ " 0.1.0\n"

namespace Switch

/-- The ellipsis says that a switch may be repeated. -/
def ellipsis (s : Switch) : String := if s = .verbose then "..." else ""

def usage (s : Switch) : String := "--" ++ s.name ++ s.ellipsis

def literal (s : Switch) : String := inked [.bold] ("--" ++ s.name)

end Switch

def heading (text : String) : String := inked [.bold, .underlined] (text ++ ":")

namespace Synopsis

def listing (switches : List Switch) : String :=
  " ".intercalate (inked [.bold] programName :: switches.map fun s => s.literal ++ s.ellipsis)

def text : Synopsis → String
  | .full => listing [] ++ " [OPTIONS] <PATH>"
  | .listed switches => listing switches ++ " <PATH>"
  | .grouped switches =>
    listing switches ++ " <PATH|" ++ Switch.minimal.usage ++ "|" ++ Switch.verbose.usage ++ ">"

def line (s : Synopsis) : String := heading "Usage" ++ " " ++ s.text

end Synopsis

def helpLine (s : Switch) (about : String) : String :=
  let padding := String.ofList (List.replicate (12 - (s.name ++ s.ellipsis).length) ' ')
  "  " ++ inked [.bold] ("-" ++ s.letter.toString) ++ ", " ++ s.literal ++ s.ellipsis ++ padding
    ++ about ++ "\n"

def helpText : String :=
  "Run an assembled LC3 program image\n\n"
    ++ Synopsis.full.line ++ "\n\n"
    ++ heading "Arguments" ++ "\n"
    ++ "  <PATH>  `.obj` image to run: big-endian words, origin first\n\n"
    ++ heading "Options" ++ "\n"
    ++ helpLine .minimal "Produce minimal output, suited for blackbox tests"
    ++ helpLine .verbose "Increase the level of verbosity. Can be used multiple times"
    ++ helpLine .help "Print help"
    ++ helpLine .version "Print version"

def invalid (text : String) : String := inked [.yellow] text

def valid (text : String) : String := inked [.green] text

def Tip.text (argument : String) : Tip → String
  | .none => ""
  | .asValue =>
    "\n\n  " ++ valid "tip:" ++ " to pass '" ++ invalid argument ++ "' as a value, use '"
      ++ valid ("-- " ++ argument) ++ "'"
  | .similar s =>
    "\n\n  " ++ valid "tip:" ++ " a similar argument exists: '" ++ valid ("--" ++ s.name) ++ "'"

namespace UsageError

def what : UsageError → String
  | .missingPath _ => "the following required arguments were not provided:\n  " ++ valid "<PATH>"
  | .emptyPath => "a value is required for '" ++ invalid "<PATH>" ++ "' but none was supplied"
  | .repeatedMinimal =>
    "the argument '" ++ invalid Switch.minimal.usage ++ "' cannot be used multiple times"
  | .unexpectedArgument argument tip _ =>
    "unexpected argument '" ++ invalid argument ++ "' found" ++ tip.text argument
  | .unexpectedValue value s _ =>
    "unexpected value '" ++ invalid value ++ "' for '" ++ inked [.bold] s.usage
      ++ "' found; no more were expected"

def synopsis? : UsageError → Option Synopsis
  | .missingPath given => some (.listed given)
  | .emptyPath => none
  | .repeatedMinimal => some .full
  | .unexpectedArgument _ _ synopsis | .unexpectedValue _ _ synopsis => some synopsis

def text (e : UsageError) : String :=
  inked [.bold, .red] "error:" ++ " " ++ e.what
    ++ (e.synopsis?.elim "" fun s => "\n\n" ++ s.line)
    ++ "\n\nFor more information, try '" ++ inked [.bold] "--help" ++ "'.\n"

end UsageError

end LC3
