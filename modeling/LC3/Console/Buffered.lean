import LC3.Dialogue

/-! A console in memory. Nobody types while a call waits, so reading from an empty queue can never
be satisfied and fails at once. -/

namespace LC3

structure Buffered where
  input : List Byte
  output : Array Byte
  interrupted : Bool

namespace Buffered

def ofInput (input : List Byte) : Buffered := ⟨input, #[], false⟩

def supply (console : Buffered) (bytes : List Byte) : Buffered :=
  { console with input := console.input ++ bytes }

/-- Every later poll reports the interruption; nothing clears it. -/
def interrupt (console : Buffered) : Buffered := { console with interrupted := true }

def answer : (q : Call) → Buffered → q.Reply × Buffered
  | .inputReady, console => (.ok (!console.input.isEmpty), console)
  | .readByte, console =>
    match console.input with
    | [] => (.error .inputClosed, console)
    | b :: rest => (.ok b, { console with input := rest })
  | .write bytes, ⟨input, output, interrupted⟩ => (.ok (), ⟨input, output ++ bytes, interrupted⟩)
  | .flush, console => (.ok (), console)
  | .interrupted, console => (.ok console.interrupted, console)

instance : Console Buffered where
  answer := answer

end Buffered

end LC3
