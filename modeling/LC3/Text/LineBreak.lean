import LC3.Text.LineBreak.Class

/-! Where a text may be broken into lines: the rules of the Unicode line breaking algorithm, version
15.1, with numbers kept together by pairs of classes alone. What may follow depends on little more
than the last class, and marks take on the class of what they combine with. Words of an unspaced
script stay together, since no dictionary is at hand, but not with words of another such script. -/

namespace LC3

namespace BreakClass

def endsLine : BreakClass → Bool
  | .hardBreak | .carriageReturn | .lineFeed => true
  | _ => false

def isMark (k : BreakClass) : Bool := k = .mark || k = .joiner

def isOpening (k : BreakClass) : Bool := k = .opening || k = .wideOpening

def isQuotation : BreakClass → Bool
  | .quotation | .openQuotation | .closeQuotation => true
  | _ => false

def script? : BreakClass → Option UnspacedScript
  | .unspaced script => some script
  | _ => none

def isLetter : BreakClass → Bool
  | .letter | .hebrew | .unspaced _ => true
  | _ => false

def isAlphabetic (k : BreakClass) : Bool := k.isLetter || k = .dottedCircle

def isAksara : BreakClass → Bool
  | .aksara | .dottedCircle | .aksaraStart => true
  | _ => false

def isPicture : BreakClass → Bool
  | .ideograph | .reservedPicture | .emojiBase | .emojiModifier => true
  | _ => false

def isSign (k : BreakClass) : Bool := k = .leadingSign || k = .trailingSign

def isHangul : BreakClass → Bool
  | .leadJamo | .vowelJamo | .tailJamo | .syllable | .closedSyllable => true
  | _ => false

/-- Whether it never begins a line, even behind spaces. -/
def clings : BreakClass → Bool
  | .wordJoiner | .closing | .closingParen | .exclamation | .separator | .slash => true
  | _ => false

/-- Whether a mark that may open a quotation does so behind it. -/
def precedesQuotation (k : BreakClass) : Bool :=
  k.endsLine || k.isOpening || k.isQuotation || k = .glue || k = .space || k = .zeroSpace

/-- Whether a mark that may close a quotation does so before it. -/
def followsQuotation (k : BreakClass) : Bool :=
  k.endsLine || k.clings || k.isQuotation || k = .glue || k = .space || k = .zeroSpace

def joinsPunctuation (a b : BreakClass) : Bool :=
  a = .breakBefore || b = .breakAfter || b = .hyphen || b = .nonstarter || b = .inseparable
    || (a = .slash && b = .hebrew) || (a = .separator && b.isAlphabetic)

def joinsNumber (a b : BreakClass) : Bool :=
  (b = .digit && (a.isAlphabetic || a.isSign || a = .digit || a = .hyphen || a = .separator
      || a = .slash || a = .closingParen))
    || (a = .digit && (b.isAlphabetic || b.isSign || b = .opening))

def joinsSign (a b : BreakClass) : Bool :=
  (a.isSign && (b.isAlphabetic || b.isOpening))
    || (b.isSign && (a.isAlphabetic || a = .closing || a = .closingParen))
    || (a = .leadingSign && (b.isPicture || b.isHangul))
    || (b = .trailingSign && (a.isPicture || a.isHangul))

def joinsJamo : BreakClass → BreakClass → Bool
  | .leadJamo, b => b.isHangul && b ≠ .tailJamo
  | .vowelJamo, b | .syllable, b => b = .vowelJamo || b = .tailJamo
  | .tailJamo, b | .closedSyllable, b => b = .tailJamo
  | _, _ => false

def joinsLetter (a b : BreakClass) : Bool :=
  (a.isAlphabetic && (b.isAlphabetic || b = .opening)) || (a = .closingParen && b.isAlphabetic)
    || (a = .prebaseAksara && b.isAksara) || (a.isAksara && (b = .virama || b = .finalVirama))

def joinsPicture (a b : BreakClass) : Bool :=
  (a = .emojiBase || a = .reservedPicture) && b = .emojiModifier

/-- Whether two neighbours without a space between them stay on one line. -/
def joins (a b : BreakClass) : Bool :=
  if a.isQuotation || b.isQuotation then true
  else if a = .contingent || b = .contingent then false
  else a.joinsPunctuation b || a.joinsNumber b || a.joinsSign b || a.joinsJamo b || a.joinsLetter b
    || a.joinsPicture b

end BreakClass

namespace LineBreak

/-- What the rules remember of the text read so far. -/
structure Before where
  last : BreakClass
  /-- The class of what stands before the spaces at the end. -/
  anchor : BreakClass
  /-- The class of what stands before that. -/
  previous : BreakClass
  joined : Bool
  /-- What stands last is the second of two dotted circles: only letters stay with it. -/
  secondCircle : Bool
  /-- An odd number of regional indicators stands at the end: the next one completes a flag. -/
  halfFlag : Bool

namespace Before

def start : Before := ⟨.hardBreak, .hardBreak, .hardBreak, false, false, false⟩

/-- Regional indicators and dotted circles count in pairs. A pair of circles is like a letter, but
what follows it is read as if it began a line. -/
def put (b : Before) (k : BreakClass) : Before :=
  let previous := if b.secondCircle then .hardBreak else b.last
  if k = .dottedCircle && b.last = .dottedCircle then
    ⟨.letter, .letter, previous, false, true, false⟩
  else ⟨k, k, previous, false, false, k = .regional && !(b.last = .regional && b.halfFlag)⟩

/-- A mark has a base to combine with unless it begins a line or follows a space. -/
def hasBase (b : Before) : Bool :=
  !(b.last.endsLine || b.last = .space || b.last = .zeroSpace)

/-- Marks without a base, joiners and marked characters of unspaced scripts are like letters. -/
def next (b : Before) (k : BreakClass) : Before :=
  if k = .space then
    { b with last := k, joined := false, secondCircle := false, halfFlag := false }
  else if k = .joiner then { b.put .letter with joined := true }
  else if k = .mark && b.hasBase && b.last.script?.isNone then { b with joined := false }
  else b.put (if k = .mark then .letter else k)

/-- Whether a break is forbidden even behind spaces, or a glue forbids it. What follows `k` counts
where `k` closes a quotation; none is the end of the text. -/
def holds (b : Before) (k : BreakClass) (following : Option BreakClass) : Bool :=
  k.clings || b.last = .wordJoiner || b.last = .glue
    || (k = .glue && b.last ≠ .space && b.last ≠ .breakAfter && b.last ≠ .hyphen)
    || b.anchor.isOpening
    || (b.anchor = .openQuotation && b.previous.precedesQuotation)
    || (k = .closeQuotation && following.all (·.followsQuotation))
    || ((b.anchor = .closing || b.anchor = .closingParen) && k = .nonstarter)
    || (b.anchor = .dash && k = .dash)

/-- Whether what stands last stays with `k` for the sake of what stands before it or follows. -/
def binds (b : Before) (k : BreakClass) (following : Option BreakClass) : Bool :=
  ((b.last = .hyphen || b.last = .breakAfter) && b.previous = .hebrew && k ≠ .contingent)
    || (b.last = .virama && b.previous.isAksara && (k = .aksara || k = .dottedCircle))
    || (b.last.isAksara && k.isAksara && following = some .finalVirama)
    || (b.last = .regional && k = .regional && b.halfFlag)

/-- Whether one unspaced script directly gives way to another. -/
def changesScript (b : Before) (k : BreakClass) : Bool :=
  b.last.script?.isSome && k.script?.isSome && b.last ≠ k

/-- Whether the text may be broken before a character of class `k`, which `following` follows. -/
def allows (b : Before) (k : BreakClass) (following : Option BreakClass) : Bool :=
  if b.last.endsLine then !(b.last = .carriageReturn && k = .lineFeed)
  else if k.endsLine || k = .space || k = .zeroSpace then false
  else if b.anchor = .zeroSpace then true
  else if b.joined || (k.isMark && b.hasBase) then false
  else if b.secondCircle then !(k.isLetter || k = .finalVirama)
  else if b.changesScript k then true
  else
    let k := if k.isMark then .letter else k
    if b.holds k following then false
    else if b.last = .space then true
    else !(b.last.joins k || b.binds k following)

/-- For each character, after the one read last, whether a break may stand before it; the end of
the text counts as one more. -/
def breaks (b : Before) : List BreakClass → List Bool
  | [] => [true]
  | k :: ks => b.allows k (ks.find? (· ≠ .mark)) :: (b.next k).breaks ks

end Before

/-- For each character whether a break may stand after it. -/
def opportunities (text : List Char) : List Bool :=
  match text.map BreakClass.of with
  | [] => []
  | k :: ks => (Before.start.next k).breaks ks

/-- The scripts of the parts of a text in which words would have to be looked up: where several
characters of unspaced scripts stand together, each stretch of one script is a part. -/
def unsegmented (text : List Char) : List UnspacedScript :=
  let scripts := text.map fun c => (BreakClass.of c).script?
  let runs := (scripts.splitBy fun a b => a.isSome && b.isSome).filter (1 < ·.length)
  runs.flatMap fun run => (run.splitBy (· = ·)).filterMap (·.head?.join)

end LineBreak

end LC3
