import LC3.Note
import LC3.Text.Alphanumeric
import LC3.Text.Blank
import LC3.Text.Numeral
import LC3.Text.Pattern

/-! How much of the log is shown. A setting lists directives, each a level for the notes of some
part of the program, or for those that carry some field; of the directives that apply to a note the
most specific decides. A setting that cannot be read counts as absent, and then the number of
`--verbose` switches decides. -/

namespace LC3

/-- Levels up to `limit` are shown to those it applies to; none if nothing is. -/
structure Directive where
  target : Option String
  field : Option String
  limit : Option Level
  /-- A directive for what happens within a span applies to no note: this program has none. -/
  inSpan : Bool
deriving DecidableEq

namespace Directive

/-- A number up to 5, perhaps with a plus before it and zeros. -/
def number? (text : List Char) : Option Nat :=
  let digits := match text with
    | '+' :: digits => digits
    | digits => digits
  if digits.isEmpty || !digits.all Char.isDigit then none
  else
    match digits.dropWhile (· = '0') with
    | [] => some 0
    | [c] => if c ≤ '5' then some (c.toNat - '0'.toNat) else none
    | _ => none

def level? (text : List Char) : Option (Option Level) :=
  match number? text with
  | some n => [none, some .error, some .warn, some .info, some .debug, some .trace][n]?
  | none =>
    match (String.ofList text).toLower with
    | "off" => some none
    | "error" => some (some .error)
    | "warn" => some (some .warn)
    | "info" => some (some .info)
    | "debug" => some (some .debug)
    | "trace" => some (some .trace)
    | _ => none

def trim (text : List Char) : List Char :=
  ((text.dropWhile isBlank).reverse.dropWhile isBlank).reverse

/-- What a directive is read from. Signs are looked for in the text without the blank space around
it, but parts are cut by place from the whole text, so that a target or level keeps such space.
Places count bytes, and blank space before the signs shifts what is cut. -/
structure Source where
  whole : List Char
  signs : List (Nat × Char)

namespace Source

/-- The characters of a text that begins at some place, each with its own place. -/
def placed (place : Nat) : List Char → List (Nat × Char)
  | [] => []
  | c :: cs => (place, c) :: placed (place + c.utf8Size) cs

def ofText (text : List Char) : Source := ⟨text, placed 0 (trim text)⟩

/-- The text up to a place and from there on; none if a character stands across it. -/
def split? (place : Nat) : List Char → Option (List Char × List Char)
  | [] => some ([], [])
  | c :: cs =>
    if place = 0 then some ([], c :: cs)
    else if place < c.utf8Size then none
    else (split? (place - c.utf8Size) cs).map fun (before, after) => (c :: before, after)

def rest? (s : Source) (first : Nat) : Option (List Char) := (split? first s.whole).map (·.2)

def part? (s : Source) (first next : Nat) : Option (List Char) := do
  let (before, _) ← split? next s.whole
  let (_, part) ← split? first before
  some part

def signAt? (s : Source) (place : Nat) : Option Char := (s.signs.find? (·.1 = place)).map (·.2)

/-- The first sign from place `first` on that is one of `ends`. -/
def find? (s : Source) (first : Nat) (ends : List Char) : Option (Nat × Char) :=
  s.signs.find? fun (place, c) => first ≤ place && c ∈ ends

end Source

/-- Reads the level behind a target; nothing behind `=` shows everything. -/
def readLevel? (d : Directive) (s : Source) (place : Nat) : Option Directive := do
  let level ← s.rest? place
  if level.isEmpty then some d else (level? level).map fun limit => { d with limit }

def readEnd? (d : Directive) (s : Source) (place : Nat) : Option Directive :=
  match s.signAt? place with
  | none => some d
  | some '=' => d.readLevel? s (place + 1)
  | some _ => none

/-- The value of a field stands behind an equals sign, up to a further one. It is a number or a
pattern for the values of spans. -/
def hasSoundValue (field : List Char) : Bool :=
  match field.dropWhile (· ≠ '=') with
  | [] => true
  | _ :: rest =>
    let value := rest.takeWhile (· ≠ '=')
    isNumeral value || isPattern value

def readField? (d : Directive) (s : Source) (place : Nat) : Option Directive := do
  let (close, _) ← s.find? place ['}']
  let field ← s.part? place close
  if field.isEmpty || s.signAt? (close + 1) ≠ some ']' || !hasSoundValue field then none
  else
    let named := { d with field := String.ofList field, inSpan := d.inSpan || '=' ∈ field }
    named.readEnd? s (close + 2)

def readSpan? (d : Directive) (s : Source) (place : Nat) : Option Directive := do
  let (stop, sign) ← s.find? place [']', '{']
  let _name ← s.part? place stop
  if sign = ']' then readEnd? { d with inSpan := true } s (stop + 1)
  else readField? { d with inSpan := stop ≠ place } s (stop + 1)

def startsTarget (c : Char) : Bool := isAlphanumeric c || c = '-' || c = ':' || c = '_'

def everything : Directive := ⟨none, none, some .trace, false⟩

/-- Reads a level, or a target and then perhaps a span and a level. -/
def ofText? (text : List Char) : Option Directive := do
  let s := Source.ofText text
  match s.signs with
  | [] => none
  | (_, '[') :: _ => everything.readSpan? s 1
  | (_, c) :: _ =>
    if !startsTarget c then none
    else
      match s.find? 0 ['=', '['] with
      | none =>
        match level? s.whole with
        | some limit => some { everything with limit }
        | none => some { everything with target := String.ofList s.whole }
      | some (stop, sign) =>
        let target ← s.part? 0 stop
        let d := { everything with target := String.ofList target }
        if sign = '=' then d.readLevel? s (stop + 1) else d.readSpan? s (stop + 1)

def applies (d : Directive) (n : Note) : Bool :=
  !d.inSpan && d.target.all (fun t => t.toList.isPrefixOf n.target.toList)
    && d.field.all (· ∈ n.fields)

/-- Whether `d` decides before `e`, both applying to one note: a longer target goes first, then a
field, then the field later in the alphabet. -/
def precedes (d e : Directive) : Bool :=
  let length (d : Directive) := d.target.elim 0 (·.length + 1)
  if length d ≠ length e then length e < length d
  else
    match d.field, e.field with
    | some f, some g => g < f
    | f, g => f.isSome && g.isNone

end Directive

abbrev LogFilter := List Directive

namespace LogFilter

/-- The last of several equals counts. -/
def choose (best : Option Directive) (next : Directive) : Option Directive :=
  match best with
  | some d => if d.precedes next then some d else some next
  | none => some next

def limit? (filter : LogFilter) (n : Note) : Option Level :=
  ((filter.filter (·.applies n)).foldl choose none).bind (·.limit)

def shows (filter : LogFilter) (n : Note) : Bool :=
  n.level?.any fun level => (filter.limit? n).any fun limit => level.rank ≤ limit.rank

def ofLevel (level : Level) : LogFilter := [{ Directive.everything with limit := level }]

/-- Without a directive only errors are shown. -/
def ofDirectives : List Directive → LogFilter
  | [] => ofLevel .error
  | directives => directives

def ofSetting? (setting : String) : Option LogFilter :=
  let parts := (setting.splitOn ",").filter (· ≠ "")
  (parts.mapM fun part => Directive.ofText? part.toList).map ofDirectives

def ofVerbosity : Nat → LogFilter
  | 0 => ofLevel .warn
  | 1 => ofLevel .debug
  | _ => ofLevel .trace

def of (setting : Option String) (verbosity : Nat) : LogFilter :=
  (setting.bind ofSetting?).getD (ofVerbosity verbosity)

end LogFilter

end LC3
