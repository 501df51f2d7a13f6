import LC3.Text.Pattern.Primitive

/-! Classes of characters in brackets. They nest and are combined by signs; what matters of one is
how deep it nests. -/

namespace LC3.Pattern

/-- What stands side by side in a class: how many members, and how deep they nest. -/
structure Union where
  count : Nat
  height : Nat

namespace Union

def empty : Union := ⟨0, 0⟩

def add (u : Union) (height : Nat) : Union := ⟨u.count + 1, max u.height height⟩

/-- Several members are a level of their own. -/
def nesting (u : Union) : Nat := if u.count ≤ 1 then u.height else u.height + 1

end Union

/-- What is read of a class: how deep the part before the last sign between two parts nests, if
there is one, and the members behind it. -/
structure Bracket where
  left : Option Nat
  union : Union
  /-- Nothing or only minus signs were read: they stand for themselves there. -/
  atStart : Bool

namespace Bracket

def start : Bracket := ⟨none, .empty, true⟩

def add (b : Bracket) (height : Nat) : Bracket :=
  { b with union := b.union.add height, atStart := false }

def addMinus (b : Bracket) : Bracket := { b.add 0 with atStart := true }

def isEmpty (b : Bracket) : Bool := b.atStart && b.union.count = 0

def height (b : Bracket) : Nat :=
  match b.left with
  | some left => max left b.union.nesting + 1
  | none => b.union.nesting

/-- Both parts, one without the other, or what is in one of them only: all are of two parts. -/
def combine (b : Bracket) : Bracket := ⟨some b.height, .empty, false⟩

/-- Behind a minus sign: whether no range follows, but the end of the class or another sign. -/
def endsRange (f : Flags) (text : List Char) : Bool :=
  let text := if f.spaced then text.dropWhile isBlank else text
  let text := match text with
    | '#' :: rest => if f.spaced then rest.dropWhile isBlank else text
    | _ => text
  match text with
  | ']' :: _ | '-' :: _ => true
  | _ => false

def readMember? (f : Flags) : List Char → Option (Primitive × List Char)
  | [] => none
  | '\\' :: text => Primitive.readEscape? f text
  | c :: text => some (.character c false, text)

/-- Reads a character, a range from one character to another or a class with a letter. -/
def readRange? (f : Flags) (text : List Char) : Option (List Char) :=
  match readMember? f text with
  | none => none
  | some (first, rest) =>
    if !first.isMember f then none
    else
      match f.skip rest with
      | '-' :: after =>
        if endsRange f after then some ('-' :: after)
        else
          match readMember? f (f.skip after) with
          | some (last, rest) =>
            match first.character?, last.character? with
            | some c, some d => if last.isMember f && c ≤ d then some rest else none
            | _, _ => none
          | none => none
      | rest => some rest

def names : List String :=
  ["alnum", "alpha", "ascii", "blank", "cntrl", "digit", "graph", "lower", "print", "punct",
    "space", "upper", "word", "xdigit"]

def readNamed? : List Char → Option (Bool × List Char)
  | ':' :: text =>
    let (negated, text) := match text with
      | '^' :: rest => (true, rest)
      | text => (false, text)
    let name := text.takeWhile (· ≠ ':')
    match text.drop name.length with
    | ':' :: ']' :: rest => if String.ofList name ∈ names then some (negated, rest) else none
    | _ => none
  | _ => none

/-- All that is not in a class of bytes is not ASCII. -/
def mayNegate (f : Flags) (negated : Bool) : Bool := !negated || f.unicode

mutual

/-- Reads a class behind its opening bracket and tells how deep it nests. -/
def read? (f : Flags) : (fuel : Nat) → List Char → Option (Nat × List Char)
  | 0, _ => none
  | fuel + 1, text =>
    let (negated, text) := match f.skip text with
      | '^' :: rest => (true, rest)
      | text => (false, text)
    if mayNegate f negated then
      (readRest? f fuel .start text).map fun (height, rest) => (height + 1, rest)
    else none

def readRest? (f : Flags) : (fuel : Nat) → Bracket → List Char → Option (Nat × List Char)
  | 0, _, _ => none
  | fuel + 1, b, text =>
    match f.skip text with
    | [] => none
    | ']' :: rest =>
      if b.isEmpty then
        if f.knowsCase then readRest? f fuel (b.add 0) rest else none
      else some (b.height, rest)
    | '[' :: rest =>
      match readNamed? rest with
      | some (negated, rest) =>
        if mayNegate f negated && f.knowsCase then readRest? f fuel (b.add 0) rest else none
      | none =>
        match read? f fuel rest with
        | some (height, rest) => readRest? f fuel (b.add height) rest
        | none => none
    | '&' :: '&' :: rest | '~' :: '~' :: rest => readRest? f fuel b.combine rest
    | c :: rest =>
      if c = '-' && b.atStart then
        if f.knowsCase then readRest? f fuel b.addMinus rest else none
      else
        match c, rest with
        | '-', '-' :: rest => readRest? f fuel b.combine rest
        | _, _ =>
          match readRange? f (c :: rest) with
          | some rest => readRest? f fuel (b.add 0) rest
          | none => none

end

end Bracket

end LC3.Pattern
