import LC3.Text.Blank

/-! The smallest parts of a pattern: characters, most of which stand for themselves, the classes
that have a letter of their own, and places in a text. What such a class holds and which letters
differ in case only is known for ASCII, so that either stands only where a pattern is of bytes. -/

namespace LC3.Pattern

/-- What a pattern can change about how the rest of a group is read. -/
structure Flags where
  /-- Blank space and comments stand for nothing. -/
  spaced : Bool
  ignoresCase : Bool
  /-- Classes hold characters; else they hold bytes, which must all be ASCII. -/
  unicode : Bool

def skipBlank (comment : Bool) : List Char → List Char
  | [] => []
  | c :: cs =>
    if comment then skipBlank (c ≠ '\n') cs
    else if isBlank c then skipBlank false cs
    else if c = '#' then skipBlank true cs
    else c :: cs

/-- Whether it is known which letters are the same where case is ignored. -/
def Flags.knowsCase (f : Flags) : Bool := !(f.unicode && f.ignoresCase)

def Flags.skip (f : Flags) (text : List Char) : List Char :=
  if f.spaced then skipBlank false text else text

inductive Primitive where
  /-- One character; `byte` if it is given by the value of a byte. -/
  | character (c : Char) (byte : Bool)
  | any
  /-- A class of digits, blank space or letters, or all that is not in it. -/
  | shorthand (negated : Bool)
  | lineEdge
  | wordEdge

namespace Primitive

/-- Outside of classes. Bytes beyond ASCII are no text. -/
def isSound (f : Flags) : Primitive → Bool
  | .character c byte => f.knowsCase && (f.unicode || !byte || c.toNat < 0x80)
  | .any => f.unicode
  | .shorthand negated => !f.unicode && !negated
  | .lineEdge => true
  | .wordEdge => !f.unicode

def isMember (f : Flags) : Primitive → Bool
  | .character c _ => f.knowsCase && (f.unicode || c.toNat < 0x80)
  | .shorthand negated => !f.unicode && !negated
  | _ => false

def character? : Primitive → Option Char
  | .character c _ => some c
  | _ => none

def hexDigit? (c : Char) : Option Nat :=
  if c.isDigit then some (c.toNat - '0'.toNat)
  else if 'a' ≤ c ∧ c ≤ 'f' then some (c.toNat - 'a'.toNat + 10)
  else if 'A' ≤ c ∧ c ≤ 'F' then some (c.toNat - 'A'.toNat + 10)
  else none

def readDigits? (f : Flags) : (digits n : Nat) → List Char → Option (Nat × List Char)
  | 0, n, text => some (n, text)
  | _ + 1, _, [] => none
  | digits + 1, n, c :: text =>
    (hexDigit? c).bind fun d => readDigits? f digits (16 * n + d) (f.skip text)

/-- Reads a character by its number, which has so many digits. -/
def readNumber? (f : Flags) (digits : Nat) (text : List Char) : Option (Primitive × List Char) :=
  (readDigits? f digits 0 (f.skip text)).bind fun (n, rest) =>
    if n.isValidChar then some (.character (.ofNat n) (digits = 2), rest) else none

def readEscape? (f : Flags) : List Char → Option (Primitive × List Char)
  | [] => none
  | c :: text =>
    match c with
    | 'x' => readNumber? f 2 text
    | 'u' => readNumber? f 4 text
    | 'U' => readNumber? f 8 text
    | 'd' | 's' | 'w' => some (.shorthand false, text)
    | 'D' | 'S' | 'W' => some (.shorthand true, text)
    | 'a' => some (.character '\x07' false, text)
    | 'f' => some (.character '\x0c' false, text)
    | 't' => some (.character '\t' false, text)
    | 'n' => some (.character '\n' false, text)
    | 'r' => some (.character '\r' false, text)
    | 'v' => some (.character '\x0b' false, text)
    | 'A' | 'z' => some (.lineEdge, text)
    | 'b' | 'B' | '<' | '>' => some (.wordEdge, text)
    | c => if c.toNat < 0x80 && !c.isAlphanum then some (.character c false, text) else none

end Primitive

end LC3.Pattern
