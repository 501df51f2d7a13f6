import LC3.Text.Escape

/-! What a terminal shows of a text: control sequences and strings for the terminal are left out,
and of the control characters only those that move like blank space stay. -/

namespace LC3

namespace Printable

inductive Mode where
  | text
  | escaped
  /-- Behind an escape character and intermediate characters. -/
  | intermediate
  | control
  /-- A string for the terminal that ends at a bell. -/
  | command
  /-- A string for a device: numbers, intermediate characters, then what a final one begins. -/
  | device
  | deviceNumbers
  | deviceIntermediate
  /-- Any other string for the terminal. -/
  | string
deriving DecidableEq

def isBlank (c : Char) : Bool := c = ' ' || c = '\t' || c = '\n' || c = '\x0c' || c = '\r'

def isShown (c : Char) : Bool := ' ' ≤ c && c ≠ '\x7f' || isBlank c

def isBetween (low high c : Char) : Bool := low ≤ c && c ≤ high

/-- The byte 9C ends a string also as a part of a longer character, which is left out then. -/
def endsString (c : Char) : Bool := (String.utf8EncodeChar c).contains 0x9C

def Mode.next (mode : Mode) (c : Char) : Mode :=
  if c = escape then .escaped
  else if c = '\x18' || c = '\x1a' then .text
  else
    match mode with
    | .text => .text
    | .escaped =>
      if isBetween ' ' '/' c then .intermediate
      else if c = '[' then .control
      else if c = ']' then .command
      else if c = 'P' then .device
      else if c = 'X' || c = '^' || c = '_' then .string
      else if isBetween '0' '~' c then .text
      else .escaped
    | .intermediate => if isBetween '0' '~' c then .text else .intermediate
    | .control => if isBetween '@' '~' c then .text else .control
    | .command => if c = bell then .text else .command
    | .device =>
      if isBetween ' ' '/' c then .deviceIntermediate
      else if c = ':' || isBetween '@' '~' c then .string
      else if isBetween '0' '?' c then .deviceNumbers
      else .device
    | .deviceNumbers =>
      if isBetween ' ' '/' c then .deviceIntermediate
      else if c.isDigit || c = ';' then .deviceNumbers
      else if isBetween ':' '~' c then .string
      else .deviceNumbers
    | .deviceIntermediate => if isBetween '0' '~' c then .string else .deviceIntermediate
    | .string => if endsString c then .text else .string

/-- Outside of strings blank space counts wherever it stands. -/
def Mode.shows (mode : Mode) (c : Char) : Bool :=
  match mode with
  | .text => isShown c
  | .escaped | .intermediate | .control => isBlank c && c ≠ ' '
  | _ => false

def Mode.keep (mode : Mode) (c : Char) : Mode := if c.toNat < 0x80 then mode else .text

/-- What follows a character shown is text up to the next one that is not, also within a sequence:
then the sequence goes on. -/
def ofChars (afterShown : Bool) (mode : Mode) : List Char → List Char
  | [] => []
  | c :: cs =>
    if if afterShown then isShown c else mode.shows c then c :: ofChars true (mode.keep c) cs
    else ofChars false (mode.next c) cs

end Printable

def printable (text : String) : String := String.ofList (Printable.ofChars false .text text.toList)

end LC3
