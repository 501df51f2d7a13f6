import LC3.Fault
import LC3.Style
import LC3.Text.Wrap

/-! A report shows a diagnosis to a reader: code, message, inner cause and advice, each wrapped for
a terminal of 80 columns under an indent of its own, and an empty line at the end. Where words of an
unspaced script could not be told apart a warning stands before the paragraph. -/

namespace LC3

namespace Report

/-- Two columns stay free at the right. -/
def width : Nat := 78

def message (style : Style) : Paragraph :=
  ⟨width, "  " ++ style.paint .red "×" ++ " ", "  " ++ style.paint .red "│" ++ " "⟩

def cause (style : Style) : Paragraph :=
  ⟨width, style.paint .red "  ╰─▶ ", style.paint .red "      "⟩

def help (style : Style) : Paragraph := ⟨width, style.paint .cyan "  help: ", "        "⟩

/-- There is no warning for scripts of which no dictionary exists anyway. -/
def scriptName? : UnspacedScript → Option String
  | .thai => "Thai"
  | .lao => "Lao"
  | .myanmar => "Myanmar"
  | .khmer => "Khmer"
  | .other => none

def warning (script : String) : String :=
  "ICU4X data error: No segmentation model for complex script: " ++ script ++ "\n"

def paragraph (shape : Paragraph) (text : String) : String :=
  let scripts := (unsegmentedParts text).filterMap scriptName?
  String.join (scripts.map warning) ++ shape.fill text ++ "\n"

end Report

def Diagnosis.report (style : Style) (d : Diagnosis) : String :=
  style.paint .red d.code ++ "\n\n" ++ Report.paragraph (Report.message style) d.message
    ++ d.cause.elim "" (Report.paragraph (Report.cause style))
    ++ d.help.elim "" (Report.paragraph (Report.help style)) ++ "\n"

end LC3
