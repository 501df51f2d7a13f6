/-! Fractions cut to 53 binary digits: what arithmetic gives when every result is rounded to the
nearest number of so many digits, of two equally near ones to the even one. -/

namespace LC3

/-- The whole number nearest `num / den`, the even one of two. -/
def roundDiv (num den : Nat) : Nat :=
  let q := num / den
  if den < 2 * (num % den) ∨ (den = 2 * (num % den) ∧ q % 2 = 1) then q + 1 else q

structure Rounded where
  num : Nat
  den : Nat
deriving DecidableEq

namespace Rounded

def digits : Nat := 53

def zero : Rounded := ⟨0, 1⟩

def one : Rounded := ⟨1, 1⟩

/-- Rounds `num / den`, which is not far above 1. Shifted by so many places it has as many digits
before the point as are kept, or one more. -/
def ofRatio (num den : Nat) : Rounded :=
  let shift := digits + den.log2 - num.log2
  let shift := if (num <<< shift) / den < 1 <<< digits then shift else shift - 1
  ⟨roundDiv (num <<< shift) den, 1 <<< shift⟩

def add (x y : Rounded) : Rounded := ofRatio (x.num * y.den + y.num * x.den) (x.den * y.den)

def third (x : Rounded) : Rounded := ofRatio x.num (3 * x.den)

def less (x y : Rounded) : Bool := x.num * y.den < y.num * x.den

end Rounded

end LC3
