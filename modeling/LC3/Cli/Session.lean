import LC3.Cli.LogFilter
import LC3.Cli.Usage
import LC3.Console.Logged
import LC3.Console.Piped
import LC3.Machine
import LC3.Report
import LC3.Terminal

/-! One call of the program: from its arguments and its host to what it writes and how it exits. The
terminal is out of raw mode again before anything is written after the run, whatever the outcome. -/

namespace LC3

inductive Stdin where
  | pipe (chunks : List Chunk)
  | terminal (tty : Tty)

structure Host where
  readFile : String → Except HostError (List Byte)
  stdin : Stdin
  logSetting : Option String
  style : Style

/-- What a run leaves behind. -/
structure Execution where
  /-- None if the run did not end in the steps it was given. -/
  result : Option (Outcome Unit)
  output : List Byte
  log : List String
  stdin : Stdin

namespace Execution

def overPipe (fuel : Nat) (style : Style) (filter : LogFilter) (image : Image)
    (chunks : List Chunk) : Execution :=
  let console := Logged.ofConsole filter.shows (Piped.ofChunks chunks)
  let (result, m) := (Machine.ofImage style image console).run fuel
  let console := m.console.console
  ⟨result, console.output.toList, m.console.lines.toList, .pipe console.source⟩

def restoredNote : Option HostError → Note
  | none => .restored
  | some error => .restoreFailed error

def overTerminal (fuel : Nat) (style : Style) (filter : LogFilter) (image : Image) (tty : Tty) :
    Execution :=
  match Terminal.start tty with
  | .error error => ⟨some (.fault (.host error)), [], [], .terminal tty⟩
  | .ok terminal =>
    let console := (Logged.ofConsole filter.shows terminal).log .rawEnabled
    let (result, m) := (Machine.ofImage style image console).run fuel
    let (refusal, tty) := m.console.console.stop
    let log := (m.console.log (restoredNote refusal)).lines
    ⟨result, m.console.console.output.toList, log.toList, .terminal tty⟩

def ofImage (fuel : Nat) (host : Host) (filter : LogFilter) (image : Image) : Execution :=
  match host.stdin with
  | .pipe chunks => overPipe fuel host.style filter image chunks
  | .terminal tty => overTerminal fuel host.style filter image tty

end Execution

/-- What the program writes, its exit status (none if the run did not end) and the input it left. -/
structure Invocation where
  status : Option UInt32
  stdout : List Byte
  stderr : String
  stdin : Stdin

namespace Session

def loadFailure : UInt32 := 1

def faulted : UInt32 := 2

def interrupted : UInt32 := 254

def load (readFile : String → Except HostError (List Byte)) (path : String) :
    List Note × Except LoadError Image :=
  match readFile path with
  | .error error => ([], .error (.unreadable path error))
  | .ok bytes => ([.imageRead path bytes.length], Image.ofBytes bytes)

def status (host : Host) (options : Options) (ink : Ink) (word rest : String) : List Byte :=
  if options.minimal then [] else Utf8.encode (host.style.label ink word ++ " " ++ rest ++ "\n")

def logText (lines : List String) : String := String.join (lines.map (· ++ "\n"))

def run (fuel : Nat) (host : Host) (options : Options) : Invocation :=
  let filter := LogFilter.of host.logSetting options.verbosity
  let status := status host options
  let target := "target " ++ options.path
  let loading := status .green "Loading" target
  let (notes, loaded) := load host.readFile options.path
  let readLog := logText ((notes.filter filter.shows).map Note.line)
  match loaded with
  | .error error =>
    let report := "Error: " ++ error.diagnosis.report host.style
    ⟨some loadFailure, loading, readLog ++ report, host.stdin⟩
  | .ok image =>
    let execution := Execution.ofImage fuel host filter image
    let stdout := loading ++ status .green "Running" "program image" ++ execution.output
    let stderr := readLog ++ logText execution.log
    match execution.result with
    | some (.ok _) =>
      ⟨some 0, stdout ++ status .green "Completed" target, stderr, execution.stdin⟩
    | some (.fault .interrupted) =>
      let stdout := stdout ++ [lineFeed] ++ status .red "Interrupted" "by user"
      ⟨some interrupted, stdout, stderr, execution.stdin⟩
    | some (.fault f) =>
      ⟨some faulted, stdout ++ [lineFeed], stderr ++ f.diagnosis.report host.style, execution.stdin⟩
    | some .endless | none => ⟨none, stdout, stderr, execution.stdin⟩

end Session

/-- Runs the program; `fuel` bounds the instructions of a run. -/
def invoke (fuel : Nat) (host : Host) (arguments : List String) : Invocation :=
  match Request.ofArguments arguments with
  | .run options => Session.run fuel host options
  | .help => ⟨some 0, Utf8.encode (host.style.present helpText), "", host.stdin⟩
  | .version => ⟨some 0, Utf8.encode versionText, "", host.stdin⟩
  | .invalid error => ⟨some Session.faulted, [], host.style.present error.text, host.stdin⟩

end LC3
