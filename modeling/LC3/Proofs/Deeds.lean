import LC3.Proofs.CommandLine
import LC3.Proofs.Execution

/-! What a session does, one deed after another, each with what it writes and with standard input as
it leaves it. The deeds of a session are all that it writes and all that becomes of its input. They
show what a final account cannot: that a refused image is refused before there is a console, and
that a terminal is out of raw mode before the outcome is told. -/

namespace LC3

/-- The image in a file, if the file can be read and is one. -/
def Host.imageAt (host : Host) (path : String) : Except LoadError Image :=
  (host.readFile path).mapError (.unreadable path) >>= Image.ofBytes

namespace Session

/-- What a status line tells of. -/
inductive Milestone where
  | loading
  | running
  | completed
  | interrupted
deriving DecidableEq

inductive Act where
  | status (m : Milestone)
  | readImage
  | refuseImage
  /-- Makes the console. At a terminal, this turns raw mode on. -/
  | openConsole
  | refuseConsole
  | execute
  | closeConsole
  | newline
  | report
deriving DecidableEq

structure Deed where
  act : Act
  stdout : List Byte
  stderr : String
  stdin : Stdin

/-- The word of a status line as it is shown, in twelve columns. -/
def Milestone.word (style : Style) (m : Milestone) : String :=
  match style, m with
  | .plain, .loading => "     Loading"
  | .plain, .running => "     Running"
  | .plain, .completed => "   Completed"
  | .plain, .interrupted => " Interrupted"
  | .colored, .loading => "\x1b[32m     Loading\x1b[0m"
  | .colored, .running => "\x1b[32m     Running\x1b[0m"
  | .colored, .completed => "\x1b[32m   Completed\x1b[0m"
  | .colored, .interrupted => "\x1b[31m Interrupted\x1b[0m"

def Milestone.rest (path : String) : Milestone → String
  | .loading | .completed => "target " ++ path
  | .running => "program image"
  | .interrupted => "by user"

def Milestone.line (style : Style) (path : String) (m : Milestone) : List Byte :=
  (m.word style ++ " " ++ m.rest path ++ "\n").toList.flatMap String.utf8EncodeChar

/-- What a session writes of a milestone. -/
def Milestone.told (host : Host) (options : Options) (m : Milestone) : List Byte :=
  if options.minimal then [] else m.line host.style options.path

def mark (host : Host) (options : Options) (m : Milestone) (stdin : Stdin) : List Deed :=
  if options.minimal then [] else [⟨.status m, m.line host.style options.path, "", stdin⟩]

/-- Makes the console, runs on it and lets it go. -/
def conduct (fuel : Nat) (host : Host) (filter : LogFilter) (image : Image) : List Deed :=
  match host.stdin with
  | .pipe chunks =>
    let opened := Logged.ofConsole filter.shows (Piped.ofChunks chunks)
    let ran := ((Machine.ofImage host.style image opened).run fuel).2.console
    [⟨.openConsole, [], "", .pipe opened.console.source⟩,
      ⟨.execute, ran.console.output.toList, logText ran.lines.toList, .pipe ran.console.source⟩]
  | .terminal tty =>
    match Terminal.start tty with
    | .error _ => [⟨.refuseConsole, [], "", .terminal tty⟩]
    | .ok terminal =>
      let opened := (Logged.ofConsole filter.shows terminal).log .rawEnabled
      let ran := ((Machine.ofImage host.style image opened).run fuel).2.console
      let (refusal, tty) := ran.console.stop
      let restored := [Execution.restoredNote refusal].filter ran.shows
      [⟨.openConsole, [], logText opened.lines.toList, .terminal terminal.tty⟩,
        ⟨.execute, ran.console.output.toList,
          logText (ran.lines.toList.drop opened.lines.toList.length), .terminal ran.console.tty⟩,
        ⟨.closeConsole, [], logText (restored.map Note.line), .terminal tty⟩]

def farewell (host : Host) (options : Options) (execution : Execution) : List Deed :=
  match execution.result with
  | some (.ok _) => mark host options .completed execution.stdin
  | some (.fault .interrupted) =>
    ⟨.newline, [lineFeed], "", execution.stdin⟩ ::
      mark host options .interrupted execution.stdin
  | some (.fault f) =>
    [⟨.newline, [lineFeed], "", execution.stdin⟩,
      ⟨.report, [], f.diagnosis.report host.style, execution.stdin⟩]
  | some .endless | none => []

def reading (host : Host) (options : Options) : Deed :=
  let shown := (load host.readFile options.path).1.filter
    (LogFilter.of host.logSetting options.verbosity).shows
  ⟨.readImage, [], logText (shown.map Note.line), host.stdin⟩

def deeds (fuel : Nat) (host : Host) (options : Options) : List Deed :=
  let filter := LogFilter.of host.logSetting options.verbosity
  mark host options .loading host.stdin ++ reading host options ::
    match host.imageAt options.path with
    | .error error =>
      [⟨.refuseImage, [], "Error: " ++ error.diagnosis.report host.style, host.stdin⟩]
    | .ok image =>
      mark host options .running host.stdin ++ conduct fuel host filter image ++
        farewell host options (Execution.ofImage fuel host filter image)

/-- These deeds write so much, and bring standard input from `s` to `s'`. -/
structure Makes (s : Stdin) (deeds : List Deed) (stdout : List Byte) (stderr : String)
    (s' : Stdin) : Prop where
  stdout : deeds.flatMap Deed.stdout = stdout
  stderr : String.join (deeds.map Deed.stderr) = stderr
  stdin : deeds.foldl (fun _ d => d.stdin) s = s'

namespace Makes

variable {s s' s'' : Stdin} {deeds deeds' : List Deed} {out out' : List Byte} {err err' : String}

theorem nil : Makes s [] [] "" s := ⟨rfl, rfl, rfl⟩

theorem cons {d : Deed} (h : Makes d.stdin deeds out err s') :
    Makes s (d :: deeds) (d.stdout ++ out) (d.stderr ++ err) s' where
  stdout := by rw [List.flatMap_cons, h.stdout]
  stderr := by rw [List.map_cons, String.join_cons, h.stderr]
  stdin := h.stdin

theorem trans (h : Makes s deeds out err s') (h' : Makes s' deeds' out' err' s'') :
    Makes s (deeds ++ deeds') (out ++ out') (err ++ err') s'' where
  stdout := by rw [List.flatMap_append, h.stdout, h'.stdout]
  stderr := by rw [List.map_append, String.join_append, h.stderr, h'.stderr]
  stdin := by rw [List.foldl_append, h.stdin, h'.stdin]

theorem mark (host : Host) (options : Options) (m : Milestone) (s : Stdin) :
    Makes s (mark host options m s) (m.told host options) "" s := by
  unfold Session.mark Milestone.told
  split
  next => exact nil
  next => exact ⟨List.append_nil _, rfl, rfl⟩

end Makes

variable (fuel : Nat) (host : Host) (filter : LogFilter) (image : Image)

/-- How a session exits, from what the run gave. -/
def exit : Option (Outcome Unit) → Option UInt32
  | some (.ok _) => some 0
  | some (.fault .interrupted) => some interrupted
  | some (.fault _) => some faulted
  | some .endless | none => none

variable {fuel host filter image} {options : Options} {d : Deed}

section Minimal

variable {options' : Options}

variable (path : options'.path = options.path) (verbosity : options'.verbosity = options.verbosity)

include path verbosity

end Minimal

end Session

end LC3
