import LC3.Text.Alphanumeric
import LC3.Text.Escape
import LC3.Text.LineBreak

/-! Long paragraphs are broken into lines, each with an indent before it: a word goes on the current
line as long as there is room. Spaces at the end of a line are dropped, and a word that is too long
for a line of its own is cut. -/

namespace LC3

/-- What stays on one line, and the spaces behind it, which the end of a line swallows. -/
structure Fragment where
  text : List Char
  gap : List Char
deriving DecidableEq

def prepend (c : Char) : List (List Char) → List (List Char)
  | [] => [[c]]
  | piece :: pieces => (c :: piece) :: pieces

namespace Fragment

def columns (f : Fragment) : Nat := displayColumns f.text

def empty : Fragment := ⟨[], []⟩

/-- Cuts behind the characters shown whose flag is set. Escape sequences go with what follows. -/
def cutWords : List Mark → List Bool → List (List Char)
  | [], _ => []
  | m :: marks, flags =>
    match m.shown, flags with
    | true, true :: flags => [m.char] :: cutWords marks flags
    | true, _ :: flags => prepend m.char (cutWords marks flags)
    | _, flags => prepend m.char (cutWords marks flags)

def clearLast : List Bool → List Bool
  | [] => []
  | true :: flags => if flags.any id then true :: clearLast flags else false :: flags
  | false :: flags => false :: clearLast flags

def shownChars (line : List Char) : List Char :=
  ((Mark.ofChars line).filter (·.shown)).map (·.char)

def softHyphen : Char := '\u00ad'

/-- Hyphens are left to `cutHyphens`. The end of the text needs no break. -/
def words (line : List Char) : List (List Char) :=
  let shown := shownChars line
  let flags := (shown.zip (LineBreak.opportunities shown)).map fun (c, allowed) =>
    allowed && c ≠ '-' && c ≠ softHyphen
  cutWords (Mark.ofChars line) (clearLast flags)

def ofWord (word : List Char) : Fragment :=
  let text := (word.reverse.dropWhile (· = ' ')).reverse
  ⟨text, word.drop text.length⟩

/-- Cuts behind each hyphen between letters or numbers. -/
def cutHyphens (before : Option Char) : List Char → List (List Char)
  | [] => [[]]
  | c :: cs =>
    let pieces := cutHyphens (some c) cs
    if c = '-' && before.any isAlphanumeric && cs.head?.any isAlphanumeric then [c] :: pieces
    else prepend c pieces

/-- Cuts before each character that does not fit into `room` columns any more, `used` columns being
taken already. -/
def cutColumns (room used : Nat) : List Mark → List (List Char)
  | [] => [[]]
  | m :: marks =>
    if 0 < used ∧ room < used + m.columns then
      [] :: prepend m.char (cutColumns room m.columns marks)
    else prepend m.char (cutColumns room (used + m.columns) marks)

/-- Hands the gap of a fragment to the last of its pieces. -/
def withGap (gap : List Char) : List (List Char) → List Fragment
  | [] => []
  | [piece] => [⟨piece, gap⟩]
  | piece :: pieces => ⟨piece, []⟩ :: withGap gap pieces

def splitHyphens (f : Fragment) : List Fragment := withGap f.gap (cutHyphens none f.text)

def splitColumns (room : Nat) (f : Fragment) : List Fragment :=
  if room < f.columns then withGap f.gap (cutColumns room 0 (Mark.ofChars f.text)) else [f]

/-- The empty fragment lets the first line stay empty if the first word needs a line of its own. -/
def ofLine (room : Nat) (line : List Char) : List Fragment :=
  empty :: (((words line).map ofWord).flatMap splitHyphens).flatMap (splitColumns room)

end Fragment

/-- Deals fragments out to lines: each goes on the current one, whose fragments stand in reverse
and take `used` columns with their gaps, unless it would reach past `room`. No line stays without
one. -/
def dealLines (room used : Nat) (line : List Fragment) : List Fragment → List (List Fragment)
  | [] => [line.reverse]
  | f :: fragments =>
    if room < used + f.columns ∧ line ≠ [] then
      line.reverse :: dealLines room (f.columns + f.gap.length) [f] fragments
    else dealLines room (used + f.columns + f.gap.length) (f :: line) fragments

def lineText : List Fragment → List Char
  | [] => []
  | [f] => f.text
  | f :: fragments => f.text ++ f.gap ++ lineText fragments

def wrapLine (room : Nat) (line : List Char) : List String :=
  (dealLines room 0 [] (Fragment.ofLine room line)).map (String.ofList ∘ lineText)

/-- What stands before the first line and before the others has the same columns. -/
structure Paragraph where
  width : Nat
  first : String
  rest : String

def Paragraph.fill (p : Paragraph) (text : String) : String :=
  let room := p.width - displayColumns p.rest.toList
  match (text.splitOn "\n").flatMap fun line => wrapLine room line.toList with
  | [] => p.first
  | line :: lines => "\n".intercalate ((p.first ++ line) :: lines.map (p.rest ++ ·))

def unsegmentedParts (text : String) : List UnspacedScript :=
  (text.splitOn "\n").flatMap fun line =>
    LineBreak.unsegmented (Fragment.shownChars line.toList)

end LC3
