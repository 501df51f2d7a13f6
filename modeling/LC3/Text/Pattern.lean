import LC3.Text.Alphanumeric
import LC3.Text.Pattern.Bracket

/-! Which texts are patterns: regular expressions without a look around and without references back
to a group. A text of a field of a log directive holds no comma, no equals sign and no closing
brace, so counted repetitions and whatever else needs a brace never end. -/

namespace LC3

namespace Pattern

/-- What is read of a group: how deep its alternatives and parts nest. -/
structure Group where
  /-- The deepest of the alternatives before the last bar, if there is one. -/
  others : Option Nat
  count : Nat
  /-- The deepest of the parts before the last one. -/
  earlier : Nat
  last : Nat
  /-- The last part may be repeated. -/
  repeats : Bool

namespace Group

def empty : Group := ⟨none, 0, 0, 0, false⟩

def add (g : Group) (height : Nat) (repeats : Bool) : Group :=
  { g with count := g.count + 1, earlier := max g.earlier g.last, last := height, repeats }

def repeated? (g : Group) : Option Group :=
  if g.repeats then some { g with last := g.last + 1 } else none

/-- Several parts in a row are a level of their own. -/
def sequence (g : Group) : Nat := if g.count ≤ 1 then g.last else max g.earlier g.last + 1

def alternate (g : Group) : Group :=
  { empty with others := some (max (g.others.getD 0) g.sequence) }

def height (g : Group) : Nat :=
  match g.others with
  | some others => max others g.sequence + 1
  | none => g.sequence

end Group

/-- What stands behind an opening parenthesis: flags for the rest of the group around it, or those
of a group of its own, and the names of groups up to there. -/
inductive Opened where
  | flags (f : Flags)
  | group (f : Flags) (names : List (List Char))

def isNameChar (c : Char) : Bool := c = '_' || c = '.' || c = '[' || c = ']' || isAlphanumeric c

/-- Reads a name that is none of `names` up to the angle behind it. -/
def readName? (names : List (List Char)) (text : List Char) : Option (List Char × List Char) :=
  let name := text.takeWhile (· ≠ '>')
  match name, text.drop name.length with
  | c :: cs, '>' :: rest =>
    if (c = '_' || isAlphabetic c) && cs.all isNameChar && name ∉ names then some (name, rest)
    else none
  | _, _ => none

def Flags.set? (f : Flags) (on : Bool) (flag : Char) : Option Flags :=
  match flag with
  | 'x' => some { f with spaced := on }
  | 'u' => some { f with unicode := on }
  | 'i' => some { f with ignoresCase := on }
  | 'm' | 's' | 'U' | 'R' => some f
  | _ => none

/-- Reads flags up to the sign behind them, those behind a minus sign as switched off. None stands
twice, and one stands behind a minus sign. -/
def readFlags? (f : Flags) (seen : List Char) : List Char → Option (Flags × List Char × List Char)
  | [] => none
  | c :: text =>
    if c = ':' ∨ c = ')' then
      if seen.head? = some '-' then none else some (f, seen, c :: text)
    else if c ∈ seen then none
    else if c = '-' then readFlags? f (c :: seen) text
    else
      match f.set? ('-' ∉ seen) c with
      | some f => readFlags? f (c :: seen) text
      | none => none

/-- Reads what stands behind an opening parenthesis and belongs to it. -/
def readOpening? (f : Flags) (names : List (List Char)) (text : List Char) :
    Option (Opened × List Char) :=
  let named (text : List Char) :=
    (readName? names text).map fun (name, rest) => (Opened.group f (name :: names), rest)
  match f.skip text with
  | '?' :: 'P' :: '<' :: rest | '?' :: '<' :: rest => named rest
  | '?' :: rest =>
    match readFlags? f [] rest with
    | some (f, _, ':' :: rest) => some (.group f names, rest)
    | some (f, seen, _ :: rest) => if seen.isEmpty then none else some (.flags f, rest)
    | _ => none
  | rest => some (.group f names, rest)

def readPrimitive? (f : Flags) (c : Char) (rest : List Char) : Option (Primitive × List Char) :=
  match c with
  | '\\' => Primitive.readEscape? f rest
  | '.' => some (.any, rest)
  | '^' | '$' => some (.lineEdge, rest)
  | '\x7b' => none
  | c => some (.character c false, rest)

/-- A repetition may be marked to take as little as it can. -/
def dropMark : List Char → List Char
  | '?' :: rest => rest
  | rest => rest

/-- Reads a group up to its end and tells how deep it nests, and the names of groups up to there. -/
def readGroup? (inner : Bool) : (fuel : Nat) → Flags → List (List Char) → Group → List Char →
    Option (Nat × List (List Char) × List Char)
  | 0, _, _, _, _ => none
  | fuel + 1, f, names, g, text =>
    match f.skip text with
    | [] => if inner then none else some (g.height, names, [])
    | c :: rest =>
      if c = ')' then if inner then some (g.height, names, rest) else none
      else if c = '|' then readGroup? inner fuel f names g.alternate rest
      else if c = '*' ∨ c = '+' ∨ c = '?' then
        match g.repeated? with
        | some g => readGroup? inner fuel f names g (dropMark rest)
        | none => none
      else if c = '[' then
        match Bracket.read? f (2 * rest.length + 2) rest with
        | some (height, rest) => readGroup? inner fuel f names (g.add height true) rest
        | none => none
      else if c = '(' then
        match readOpening? f names rest with
        | some (.flags f, rest) => readGroup? inner fuel f names (g.add 0 false) rest
        | some (.group inside names, rest) =>
          match readGroup? true fuel inside names .empty rest with
          | some (height, names, rest) =>
            readGroup? inner fuel f names (g.add (height + 1) true) rest
          | none => none
        | none => none
      else
        match readPrimitive? f c rest with
        | some (p, rest) =>
          if p.isSound f then readGroup? inner fuel f names (g.add 0 true) rest else none
        | none => none

def heightLimit : Nat := 250

end Pattern

def isPattern (text : List Char) : Bool :=
  match Pattern.readGroup? false (text.length + 1) ⟨false, false, true⟩ [] .empty text with
  | some (height, _, _) => height ≤ Pattern.heightLimit
  | none => false

end LC3
