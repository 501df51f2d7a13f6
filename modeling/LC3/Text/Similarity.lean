import LC3.Rounded

/-! How alike two words are, by the characters they share at nearby places: the mean of the shares
of characters matched in either word and of the share of matches that are in order. It is 1 for
equal words and 0 for words with nothing in common. Every step is rounded, and the last digit can
decide between two words. -/

namespace LC3

/-- Takes the first `c` out of `chars` that stands at a place from `low` up to `high`. The matched
places hold none afterwards. -/
def takeMatch (c : Char) (low high : Nat) (chars : List (Option Char)) :
    Option (List (Option Char)) :=
  let before := chars.take low
  let window := (chars.take high).drop low
  if some c ∈ window then
    let skipped := window.takeWhile (· ≠ some c)
    let place := before.length + skipped.length
    some (chars.set place none)
  else none

/-- The characters of `a` that find a partner in `b`, and what is left of `b`. -/
def matchUp (range : Nat) : (place : Nat) → List Char → List (Option Char) →
    List Char × List (Option Char)
  | _, [], b => ([], b)
  | place, c :: a, b =>
    match takeMatch c (place - range) (place + range + 1) b with
    | some b =>
      let (matched, b) := matchUp range (place + 1) a b
      (c :: matched, b)
    | none => matchUp range (place + 1) a b

/-- Half of the matches out of order count: they are in order once exchanged. -/
def swapped (matched partners : List Char) : Nat :=
  ((matched.zip partners).countP fun (c, d) => c ≠ d) / 2

def similarity (a b : String) : Rounded :=
  let a := a.toList
  let b := b.toList
  if a.isEmpty && b.isEmpty then .one
  else
    let range := max a.length b.length / 2 - 1
    let (matched, left) := matchUp range 0 a (b.map some)
    let partners := (b.zip left).filterMap fun (c, place) => if place.isNone then some c else none
    let m := matched.length
    if m = 0 then .zero
    else
      let shares := (Rounded.ofRatio m a.length).add (.ofRatio m b.length)
      (shares.add (.ofRatio (m - swapped matched partners) m)).third

end LC3
