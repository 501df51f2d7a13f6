import LC3.Text.Columns

/-! Escape sequences within a text take no columns and are never broken. One begins with the escape
character; if a `[` follows it goes on to the first character from `@` to `~`, if a `]` follows to
the bell or to an escape character with a backslash, and otherwise it has two characters. -/

namespace LC3

def escape : Char := '\x1b'

def bell : Char := '\x07'

namespace Escape

inductive Mode where
  | text
  | escaped
  | control
  /-- Within a string for the terminal, after the character `last`. -/
  | command (last : Char)
deriving DecidableEq

def Mode.next : Mode → Char → Mode
  | .text, c => if c = escape then .escaped else .text
  | .escaped, c => if c = '[' then .control else if c = ']' then .command c else .text
  | .control, c => if '@' ≤ c ∧ c ≤ '~' then .text else .control
  | .command last, c => if c = bell ∨ (c = '\\' ∧ last = escape) then .text else .command c

end Escape

/-- A character of a text, and whether it is shown or belongs to an escape sequence. -/
structure Mark where
  char : Char
  shown : Bool

namespace Mark

def columns (m : Mark) : Nat := if m.shown then LC3.columns m.char else 0

def ofCharsFrom (mode : Escape.Mode) : List Char → List Mark
  | [] => []
  | c :: cs => ⟨c, mode = .text && c ≠ escape⟩ :: ofCharsFrom (mode.next c) cs

def ofChars (chars : List Char) : List Mark := ofCharsFrom .text chars

end Mark

def displayColumns (chars : List Char) : Nat :=
  (Mark.ofChars chars).foldl (fun n mark => n + mark.columns) 0

end LC3
