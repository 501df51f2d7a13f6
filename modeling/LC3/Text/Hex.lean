import LC3.Word

/-! Words and vectors are shown in messages and log lines as lower-case hexadecimal behind `0x`,
padded with zeros to the width of what they are, never cut. -/

namespace LC3

def hexadecimal (digits n : Nat) : String :=
  let shown := Nat.toDigits 16 n
  "0x" ++ String.ofList (List.replicate (digits - shown.length) '0' ++ shown)

def Word.hex (w : Word) : String := hexadecimal 4 w.toNat

end LC3
