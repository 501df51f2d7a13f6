import LC3.Text.Printable

/-! What is written may be set off by inks: colours, bold, underlined. Status words stand
right-aligned in a column of twelve, and the padding takes the ink of the word, so that plain and
coloured lines have the same columns. -/

namespace LC3

inductive Ink where
  | bold
  | underlined
  | red
  | green
  | yellow
  | cyan
deriving DecidableEq

def Ink.code : Ink → String
  | .bold => "1"
  | .underlined => "4"
  | .red => "31"
  | .green => "32"
  | .yellow => "33"
  | .cyan => "36"

def Ink.start (ink : Ink) : String := "\x1b[" ++ ink.code ++ "m"

def inked (inks : List Ink) (text : String) : String :=
  String.join (inks.map Ink.start) ++ text ++ "\x1b[0m"

inductive Style where
  | plain
  | colored
deriving DecidableEq

namespace Style

def paint (style : Style) (ink : Ink) (text : String) : String :=
  match style with
  | .plain => text
  | .colored => inked [ink] text

/-- A text written with inks and shown as the style has it: plain text has no control sequences at
all, whoever wrote them. -/
def present (style : Style) (text : String) : String :=
  match style with
  | .plain => printable text
  | .colored => text

end Style

def padLeft (width : Nat) (text : String) : String :=
  String.ofList (List.replicate (width - text.length) ' ') ++ text

def Style.label (style : Style) (ink : Ink) (word : String) : String :=
  style.paint ink (padLeft 12 word)

end LC3
