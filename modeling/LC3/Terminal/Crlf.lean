import LC3.Word

/-! In raw mode the terminal does not process output, so a line feed needs its carriage return
written before it. Bytes are written line by line, and each line feed gets one, whether or not one
stands there already. -/

namespace LC3

def lineFeed : Byte := 0x0A

def carriageReturn : Byte := 0x0D

/-- Cuts bytes behind each line feed. Only the last line may be without one. -/
def lines (bytes : List Byte) : List (List Byte) := bytes.splitBy fun b _ => b != lineFeed

/-- A line feed goes apart from what is before it, along with its carriage return. -/
def writeLine (output : Array Byte) (line : List Byte) : Array Byte :=
  if line.getLast? = some lineFeed then output ++ line.dropLast ++ [carriageReturn, lineFeed]
  else output ++ line

def writeLines (output : Array Byte) (bytes : List Byte) : Array Byte :=
  (lines bytes).foldl writeLine output

end LC3
