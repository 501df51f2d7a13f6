import LC3.Text.Similarity

/-! The command line takes one path and four switches, in any order. Arguments are read from left to
right; the first that asks for help, for the version or for something impossible decides at once. -/

namespace LC3

inductive Switch where
  | minimal
  | verbose
  | help
  | version
deriving DecidableEq

namespace Switch

def name : Switch → String
  | .minimal => "minimal"
  | .verbose => "verbose"
  | .help => "help"
  | .version => "version"

def letter : Switch → Char
  | .minimal => 'm'
  | .verbose => 'v'
  | .help => 'h'
  | .version => 'V'

def all : List Switch := [.minimal, .verbose, .help, .version]

def ofName? (name : String) : Option Switch := all.find? (·.name = name)

def ofLetter? (c : Char) : Option Switch := all.find? (·.letter = c)

/-- The switch most like a misspelt name, the later of two that are equally alike. Words of less
than seven tenths are not alike. -/
def similar? (name : String) : Option Switch :=
  let scored := all.map fun s => (s, similarity name s.name)
  let near := scored.filter fun (_, score) => (Rounded.ofRatio 7 10).less score
  (near.foldl better none).map (·.1)
where
  better (best : Option (Switch × Rounded)) (next : Switch × Rounded) : Option (Switch × Rounded) :=
    match best with
    | some best => if next.2.less best.2 then some best else some next
    | none => some next

end Switch

structure Options where
  path : String
  minimal : Bool
  verbosity : Nat
deriving DecidableEq

inductive Tip where
  | none
  /-- The argument may be meant as a path. -/
  | asValue
  | similar (switch : Switch)
deriving DecidableEq

/-- Which short form of the command line an error shows. -/
inductive Synopsis where
  | full
  /-- Some switches and the path. -/
  | listed (switches : List Switch)
  /-- The arguments of a run as one group, with any other switch before them. -/
  | grouped (switches : List Switch)
deriving DecidableEq

inductive UsageError where
  | missingPath (given : List Switch)
  | emptyPath
  | repeatedMinimal
  | unexpectedArgument (argument : String) (tip : Tip) (synopsis : Synopsis)
  | unexpectedValue (value : String) (switch : Switch) (synopsis : Synopsis)
deriving DecidableEq

/-- What a command line asks for. -/
inductive Request where
  | run (options : Options)
  | help
  | version
  | invalid (error : UsageError)
deriving DecidableEq

/-- What the arguments read so far amount to. -/
structure Progress where
  path : Option String
  verbosity : Nat
  /-- `minimal` and `verbose` as last given, in order. -/
  given : List Switch
deriving DecidableEq

namespace Progress

def start : Progress := ⟨none, 0, []⟩

def give (p : Progress) (s : Switch) : Progress :=
  { p with given := p.given.filter (· ≠ s) ++ [s] }

/-- Shown for an unknown name: what is given so far, with the switch that may be meant. -/
def listing (p : Progress) (meant : Option Switch) : Synopsis :=
  if p.path.isNone && p.given.isEmpty && meant.isNone then .full
  else .listed (p.given ++ meant.toList.filter (· ∉ p.given))

/-- Shown for a switch with a value. -/
def grouping (p : Progress) (s : Switch) : Synopsis :=
  if p.given.isEmpty then .listed [s]
  else .grouped (if s = .minimal ∨ s = .verbose then [] else [s])

/-- Reads one switch. An empty path comes to light only here or at the end. -/
def press (p : Progress) (s : Switch) : Except Request Progress :=
  if p.path = some "" then .error (.invalid .emptyPath)
  else
    match s with
    | .help => .error .help
    | .version => .error .version
    | .verbose => .ok { p.give .verbose with verbosity := p.verbosity + 1 }
    | .minimal =>
      if .minimal ∈ p.given then .error (.invalid .repeatedMinimal) else .ok (p.give .minimal)

/-- Reads the switches behind a single dash, one letter each. -/
def pressAll (p : Progress) : List Char → Except Request Progress
  | [] => .ok p
  | c :: cs =>
    match Switch.ofLetter? c with
    | some s => (p.press s).bind fun p => p.pressAll cs
    | none => .error (.invalid (.unexpectedArgument ("-" ++ c.toString) .asValue .full))

def takePath (p : Progress) (argument : String) : Except Request Progress :=
  match p.path with
  | none => .ok { p with path := some argument }
  | some _ => .error (.invalid (.unexpectedArgument argument .none .full))

/-- Reads what stands behind two dashes. -/
def takeLong (p : Progress) (text : List Char) : Except Request Progress :=
  let name := String.ofList (text.takeWhile (· ≠ '='))
  match Switch.ofName? name, text.dropWhile (· ≠ '=') with
  | some s, [] => p.press s
  | some s, _ :: value =>
    .error (.invalid (.unexpectedValue (String.ofList value) s (p.grouping s)))
  | none, _ =>
    let meant := Switch.similar? name
    .error (.invalid (.unexpectedArgument ("--" ++ name) (meant.elim .asValue .similar)
      (p.listing meant)))

/-- Reads one argument before any `--`. A lone dash is a path. -/
def take (p : Progress) (argument : String) : Except Request Progress :=
  match argument.toList with
  | '-' :: '-' :: text => p.takeLong text
  | '-' :: c :: cs => p.pressAll (c :: cs)
  | _ => p.takePath argument

def finish (p : Progress) : Request :=
  match p.path with
  | none => .invalid (.missingPath p.given)
  | some "" => .invalid .emptyPath
  | some path => .run ⟨path, .minimal ∈ p.given, p.verbosity⟩

def readPaths (p : Progress) : List String → Request
  | [] => p.finish
  | argument :: rest =>
    match p.takePath argument with
    | .ok p => p.readPaths rest
    | .error request => request

def read (p : Progress) : List String → Request
  | [] => p.finish
  | argument :: rest =>
    if argument = "--" then p.readPaths rest
    else
      match p.take argument with
      | .ok p => p.read rest
      | .error request => request

end Progress

def Request.ofArguments (arguments : List String) : Request := Progress.start.read arguments

end LC3
