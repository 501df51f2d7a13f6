import LC3.Word

/-! Text leaves the machine as UTF-8. Coming back, output need not be valid UTF-8, and each longest
run of bytes that begins a character but does not finish it is shown as one replacement
character. -/

namespace LC3.Utf8

def encode (text : String) : List Byte := text.toList.flatMap String.utf8EncodeChar

/-- The bytes that may stand at one place of a character. -/
structure Range where
  first : Byte
  last : Byte

def Range.has (r : Range) (b : Byte) : Bool := r.first ≤ b && b ≤ r.last

def continuation : Range := ⟨0x80, 0xBF⟩

/-- A character whose first bytes are read: its bits so far and what may follow. -/
structure Begun where
  bits : Nat
  next : Range
  later : List Range

inductive Start where
  | whole (c : Char)
  | begun (p : Begun)
  | stray

/-- What a byte means where a character begins. -/
def start (b : Byte) : Start :=
  let n := b.toNat
  if n < 0x80 then .whole (Char.ofNat n)
  else if n < 0xC2 then .stray
  else if n < 0xE0 then .begun ⟨n % 0x20, continuation, []⟩
  -- after E0, ED, F0 and F4 the second byte is narrower, which leaves out overlong forms,
  -- surrogates and everything past U+10FFFF
  else if n = 0xE0 then .begun ⟨0, ⟨0xA0, 0xBF⟩, [continuation]⟩
  else if n = 0xED then .begun ⟨0xD, ⟨0x80, 0x9F⟩, [continuation]⟩
  else if n < 0xF0 then .begun ⟨n % 0x10, continuation, [continuation]⟩
  else if n = 0xF0 then .begun ⟨0, ⟨0x90, 0xBF⟩, [continuation, continuation]⟩
  else if n < 0xF4 then .begun ⟨n % 0x08, continuation, [continuation, continuation]⟩
  else if n = 0xF4 then .begun ⟨4, ⟨0x80, 0x8F⟩, [continuation, continuation]⟩
  else .stray

def replacement : Char := '\ufffd'

/-- Text decided so far, last character first, and the character that the last bytes began. -/
structure Reading where
  text : List Char
  begun : Option Begun

namespace Reading

def put (r : Reading) (c : Char) : Reading := ⟨c :: r.text, none⟩

/-- Gives up on a character that was begun and not finished. -/
def giveUp (r : Reading) : Reading := if r.begun.isSome then r.put replacement else r

def enter (r : Reading) (b : Byte) : Reading :=
  match start b with
  | .whole c => r.put c
  | .begun p => { r with begun := some p }
  | .stray => r.put replacement

def feed (r : Reading) (b : Byte) : Reading :=
  match r.begun with
  | none => r.enter b
  | some p =>
    if p.next.has b then
      let bits := p.bits * 0x40 + b.toNat % 0x40
      match p.later with
      | [] => r.put (Char.ofNat bits)
      | next :: later => { r with begun := some ⟨bits, next, later⟩ }
    else r.giveUp.enter b

end Reading

def decodeLossy (bytes : List Byte) : String :=
  String.ofList (bytes.foldl Reading.feed ⟨[], none⟩).giveUp.text.reverse

end LC3.Utf8
