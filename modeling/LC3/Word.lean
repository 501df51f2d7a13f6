/-! The machine computes with 16-bit words and talks to its host in bytes. This file fixes the
widths once and holds the few conversions between them; a conversion that drops bits says which. -/

namespace LC3

abbrev Word := BitVec 16

/-- The number of a general purpose register: with three bits there are exactly eight. -/
abbrev Reg := BitVec 3

abbrev Byte := UInt8

namespace Word

def low (w : Word) : Byte := ⟨w.setWidth 8⟩

def high (w : Word) : Byte := ⟨w.extractLsb' 8 8⟩

def ofByte (b : Byte) : Word := b.toBitVec.setWidth 16

/-- The word whose big-endian bytes are `hi` and `lo`. -/
def ofBytes (hi lo : Byte) : Word := hi.toBitVec ++ lo.toBitVec

/-- The low `bits` bits of `w` read as a two's-complement number and widened again. The sign bit,
alone and negated, stays set and sets every bit above it. -/
def signExtend (w : Word) (bits : Nat) : Word :=
  let sign := w &&& 1#16 <<< (bits - 1)
  let magnitude := w &&& (1#16 <<< bits - 1#16)
  magnitude ||| (~~~sign + 1#16)

end Word

end LC3
