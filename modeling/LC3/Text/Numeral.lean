/-! Numbers as they are written: digits, perhaps with a point and an exponent, or the names of what
is no number and of infinity, with or without a sign. -/

namespace LC3

namespace Numeral

def withoutSign : List Char → List Char
  | '+' :: text | '-' :: text => text
  | text => text

def isDigits (text : List Char) : Bool := !text.isEmpty && text.all Char.isDigit

def isExponent : List Char → Bool
  | [] => true
  | c :: text => (c = 'e' || c = 'E') && isDigits (withoutSign text)

/-- There are digits before the point or behind it. -/
def isDecimal (text : List Char) : Bool :=
  let whole := text.takeWhile Char.isDigit
  match text.drop whole.length with
  | '.' :: rest =>
    let fraction := rest.takeWhile Char.isDigit
    !(whole.isEmpty && fraction.isEmpty) && isExponent (rest.drop fraction.length)
  | rest => !whole.isEmpty && isExponent rest

def isName (text : List Char) : Bool :=
  (String.ofList text).toLower ∈ ["nan", "inf", "infinity"]

end Numeral

def isNumeral (text : List Char) : Bool :=
  let text := Numeral.withoutSign text
  Numeral.isDecimal text || Numeral.isName text

end LC3
