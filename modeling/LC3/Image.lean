import LC3.Fault
import LC3.Memory

/-! An image is an origin and the words placed from it on, and it never reaches past the last
address. Files hold it as big-endian words, origin first. -/

namespace LC3

structure Image where
  origin : Word
  words : List Word
  fits : origin.toNat + words.length ≤ Memory.size

/-- Reads big-endian words two bytes at a time behind those already read, which stand in reverse.
A last odd byte is dropped. -/
def bigEndianWords (done : List Word) : List Byte → List Word
  | hi :: lo :: rest => bigEndianWords (.ofBytes hi lo :: done) rest
  | _ => done.reverse

namespace Image

def ofWords : List Word → Except LoadError Image
  | [] => .error .empty
  | origin :: words =>
    if fits : origin.toNat + words.length ≤ Memory.size then .ok ⟨origin, words, fits⟩
    else .error (.tooLong origin words.length)

def ofBytes (bytes : List Byte) : Except LoadError Image :=
  if bytes.length % 2 = 0 then ofWords (bigEndianWords [] bytes)
  else .error (.unaligned bytes.length)

def toWords (image : Image) : List Word := image.origin :: image.words

def toBytes (image : Image) : List Byte := image.toWords.flatMap fun w => [w.high, w.low]

end Image

end LC3
