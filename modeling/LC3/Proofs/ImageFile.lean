import LC3.Proofs.DeviceCells

/-! Image files. There are three reasons to refuse one, told by its length and its first two bytes,
and any other file is the big-endian bytes of its image and nothing else. An image is refused for
its size exactly if loading it would need a cell past the last one, so loading never fails, and
leaves the words of the image in their cells and zero in all others. -/

namespace LC3

/-- The bytes of words in the order of a file, the high byte first, as numbers. -/
def bigEndian (ws : List Word) : List Nat := ws.flatMap fun w => [w.toNat / 256, w.toNat % 256]

theorem bigEndian_cons (w : Word) (ws : List Word) :
    bigEndian (w :: ws) = w.toNat / 256 :: w.toNat % 256 :: bigEndian ws := rfl

theorem bigEndian_append (ws ws' : List Word) :
    bigEndian (ws ++ ws') = bigEndian ws ++ bigEndian ws' := List.flatMap_append

theorem length_bigEndian (ws : List Word) : (bigEndian ws).length = 2 * ws.length := by
  induction ws with
  | nil => rfl
  | cons w ws ih =>
    rw [bigEndian_cons, List.length_cons, List.length_cons, List.length_cons, ih]
    omega

theorem bigEndian_injective : Function.Injective bigEndian := by
  intro ws
  induction ws with
  | nil =>
    intro ws' h
    cases ws' with
    | nil => rfl
    | cons w' ws' => exact nomatch h
  | cons w ws ih =>
    intro ws' h
    cases ws' with
    | nil => exact nomatch h
    | cons w' ws' =>
      rw [bigEndian_cons, bigEndian_cons] at h
      obtain ⟨high, h⟩ := List.cons.inj h
      obtain ⟨low, rest⟩ := List.cons.inj h
      have same : w = w' := BitVec.eq_of_toNat_eq (by omega)
      rw [same, ih rest]

theorem bigEndian_ofBytes (hi lo : Byte) : bigEndian [.ofBytes hi lo] = [hi.toNat, lo.toNat] := by
  have : lo.toNat < 256 := lo.toBitVec.isLt
  have high : (256 * hi.toNat + lo.toNat) / 256 = hi.toNat := by omega
  have low : (256 * hi.toNat + lo.toNat) % 256 = lo.toNat := by omega
  rw [bigEndian_cons, Word.toNat_ofBytes, high, low]
  rfl

theorem bigEndian_bigEndianWords (done : List Word) (bytes : List Byte)
    (even : bytes.length % 2 = 0) :
    bigEndian (bigEndianWords done bytes) = bigEndian done.reverse ++ bytes.map UInt8.toNat := by
  fun_induction bigEndianWords done bytes with
  | case1 done hi lo rest ih =>
    rw [List.length_cons, List.length_cons] at even
    rw [ih (by omega), List.reverse_cons, bigEndian_append, bigEndian_ofBytes, List.append_assoc]
    rfl
  | case2 bytes done short =>
    -- fewer than two bytes are left, and not one
    obtain _ | ⟨b, _ | ⟨b', rest⟩⟩ := bytes
    · rw [List.map_nil, List.append_nil]
    · rw [List.length_singleton] at even
      omega
    · exact absurd rfl (short b b' rest)

namespace Image

theorem toNat_toBytes (image : Image) :
    image.toBytes.map UInt8.toNat = bigEndian (image.origin :: image.words) := by
  rw [toBytes, toWords, List.map_flatMap, bigEndian]
  simp only [List.map_cons, List.map_nil, Word.toNat_high, Word.toNat_low]

theorem ofBytes_eq_ofWords {bytes : List Byte} {ws : List Word}
    (h : bytes.map UInt8.toNat = bigEndian ws) : ofBytes bytes = ofWords ws := by
  have length : bytes.length = 2 * ws.length := by
    rw [← length_bigEndian, ← h, List.length_map]
  have even : bytes.length % 2 = 0 := by omega
  have words := bigEndian_bigEndianWords [] bytes even
  rw [ofBytes, if_pos even, bigEndian_injective (words.trans h)]

/-- Why a file is refused: for an odd length, for having no bytes, or for words after the origin
that reach past the last address. -/
inductive Refused (bytes : List Byte) : LoadError → Prop where
  | unaligned (odd : bytes.length % 2 = 1) : Refused bytes (.unaligned bytes.length)
  | empty (none : bytes.length = 0) : Refused bytes .empty
  | tooLong {origin : Word} {hi lo : Byte} {rest : List Byte} (split : bytes = hi :: lo :: rest)
      (even : bytes.length % 2 = 0) (first : origin.toNat = 256 * hi.toNat + lo.toNat)
      (past : 65536 < origin.toNat + (bytes.length / 2 - 1)) :
    Refused bytes (.tooLong origin (bytes.length / 2 - 1))

theorem exists_words {bytes : List Byte} (even : bytes.length % 2 = 0) :
    ∃ ws, bytes.map UInt8.toNat = bigEndian ws :=
  ⟨bigEndianWords [] bytes, (bigEndian_bigEndianWords [] bytes even).symm⟩

/-- The first word of a file and how many follow it. -/
theorem split_of_bigEndian {bytes : List Byte} {origin : Word} {words : List Word}
    (h : bytes.map UInt8.toNat = bigEndian (origin :: words)) :
    words.length = bytes.length / 2 - 1 ∧
      ∃ hi lo rest, bytes = hi :: lo :: rest ∧ origin.toNat = 256 * hi.toNat + lo.toNat := by
  have length : bytes.length = 2 * (words.length + 1) := by
    rw [← List.length_map UInt8.toNat, h, length_bigEndian, List.length_cons]
  rw [bigEndian_cons] at h
  obtain ⟨hi, tail, rfl, high, h⟩ := List.map_eq_cons_iff.1 h
  obtain ⟨lo, rest, rfl, low, -⟩ := List.map_eq_cons_iff.1 h
  exact ⟨by omega, hi, lo, rest, rfl, by omega⟩

theorem ofBytes_eq_error_iff {bytes : List Byte} {e : LoadError} :
    ofBytes bytes = .error e ↔ Refused bytes e := by
  constructor
  · intro h
    by_cases even : bytes.length % 2 = 0
    · obtain ⟨ws, words⟩ := exists_words even
      rw [ofBytes_eq_ofWords words] at h
      cases ws with
      | nil =>
        obtain rfl : .empty = e := Except.error.inj h
        exact .empty (by rw [List.map_eq_nil_iff.1 words, List.length_nil])
      | cons origin ws =>
        obtain ⟨length, hi, lo, rest, split, first⟩ := split_of_bigEndian words
        rw [ofWords] at h
        split at h
        next => cases h
        next past =>
          obtain rfl : .tooLong origin ws.length = e := Except.error.inj h
          rw [Memory.size] at past
          rw [length]
          exact .tooLong split even first (by omega)
    · rw [ofBytes, if_neg even] at h
      obtain rfl : .unaligned bytes.length = e := Except.error.inj h
      exact .unaligned (by omega)
  · intro h
    cases h with
    | unaligned odd => rw [ofBytes, if_neg (by omega)]
    | empty none =>
      obtain rfl := List.eq_nil_of_length_eq_zero none
      rfl
    | @tooLong origin hi lo rest split even first past =>
      obtain ⟨ws, words⟩ := exists_words even
      rw [ofBytes_eq_ofWords words]
      cases ws with
      | nil =>
        rw [split] at words
        cases words
      | cons origin' ws =>
        obtain ⟨length, hi', lo', rest', split', first'⟩ := split_of_bigEndian words
        obtain ⟨rfl, rfl, -⟩ : hi = hi' ∧ lo = lo' ∧ rest = rest' := by
          simpa using split.symm.trans split'
        obtain rfl : origin' = origin := BitVec.eq_of_toNat_eq (first'.trans first.symm)
        rw [ofWords, dif_neg (by rw [Memory.size]; omega), length]

theorem ofWords_toWords (image : Image) : ofWords (image.origin :: image.words) = .ok image := by
  rw [ofWords, dif_pos image.fits]

/-- A file is accepted as an image exactly if it is the file of that image. -/
theorem ofBytes_eq_ok_iff {bytes : List Byte} {image : Image} :
    ofBytes bytes = .ok image ↔ image.toBytes = bytes := by
  constructor
  · intro h
    by_cases even : bytes.length % 2 = 0
    · obtain ⟨ws, words⟩ := exists_words even
      rw [ofBytes_eq_ofWords words] at h
      cases ws with
      | nil => exact nomatch h
      | cons origin ws =>
        rw [ofWords] at h
        split at h
        next fits =>
          obtain rfl := Except.ok.inj h
          have same := (toNat_toBytes ⟨origin, ws, fits⟩).trans words.symm
          exact (List.map_inj_right fun _ _ => UInt8.toNat_inj.1).1 same
        next => exact nomatch h
    · rw [ofBytes, if_neg even] at h
      exact nomatch h
  · rintro rfl
    rw [ofBytes_eq_ofWords image.toNat_toBytes, ofWords_toWords]

end Image

namespace Memory

/-- Stores words from cell number `n` on. None if there is no cell left for one of them. -/
def copy? (mem : Memory) (n : Nat) : List Word → Option Memory
  | [] => some mem
  | w :: ws => if h : n < 0x10000 then copy? ⟨mem.cells.set n w h⟩ (n + 1) ws else none

theorem copy?_eq_load {n : Nat} {ws : List Word} (fits : n + ws.length ≤ size) (mem : Memory) :
    mem.copy? n ws = some (mem.load (BitVec.ofNat 16 n) ws) := by
  induction ws generalizing n mem with
  | nil => rfl
  | cons w ws ih =>
    rw [List.length_cons] at fits
    have inside : n < 0x10000 := by
      rw [size] at fits
      omega
    have address : (BitVec.ofNat 16 n).toNat = n := Nat.mod_eq_of_lt inside
    have next : BitVec.ofNat 16 (n + 1) = BitVec.ofNat 16 n + 1 := BitVec.ofNat_add n 1
    rw [copy?, dif_pos inside, ih (by omega), next, load, set]
    simp only [address]

theorem copy?_eq_none {n : Nat} {ws : List Word} (past : size < n + ws.length)
    (inside : n ≤ size) (mem : Memory) : mem.copy? n ws = none := by
  induction ws generalizing n mem with
  | nil =>
    rw [List.length_nil] at past
    omega
  | cons w ws ih =>
    rw [List.length_cons] at past
    rw [copy?]
    split
    next cell =>
      rw [size] at past inside ih
      exact ih (by omega) cell _
    next => rfl

/-- The numbers of all cells are the addresses. -/
theorem getElem?_cells (mem : Memory) {n : Nat} (h : n < size) :
    mem.cells[n]? = some (mem.get (BitVec.ofNat 16 n)) := by
  have inside : n < 0x10000 := h
  have address : (BitVec.ofNat 16 n).toNat = n := Nat.mod_eq_of_lt h
  rw [get, Vector.getElem?_eq_getElem inside]
  simp only [address]

end Memory

/-- A processor that is about to carry out an image: each word of it is in its cell, every other
cell is zero, and nothing else is set but the program counter. -/
structure Image.Loaded (image : Image) (cpu : Processor) : Prop where
  word : ∀ i w, image.words[i]? = some w → cpu.mem.cells[image.origin.toNat + i]? = some w
  blank : ∀ n, n < image.origin.toNat ∨ image.origin.toNat + image.words.length ≤ n →
    n < 65536 → cpu.mem.cells[n]? = some 0
  pc : cpu.regs.pc = image.origin
  reg : ∀ r, cpu.regs.get r = 0
  flag : cpu.regs.flag = .zero
  status : cpu.status = .running

namespace Processor

theorem getElem?_cells_ofImage (image : Image) {n : Nat} (h : n < Memory.size) :
    (ofImage image).mem.cells[n]? = some
      (if image.origin.toNat ≤ n then image.words.getD (n - image.origin.toNat) 0 else 0) := by
  have address : (BitVec.ofNat 16 n).toNat = n := Nat.mod_eq_of_lt h
  rw [Memory.getElem?_cells _ h, get_ofImage, Image.cell, address]

theorem loaded_ofImage (image : Image) : image.Loaded (ofImage image) where
  word := by
    intro i w found
    obtain ⟨inside, word⟩ := List.getElem?_eq_some_iff.1 found
    have fits := image.fits
    rw [getElem?_cells_ofImage image (by omega), if_pos (Nat.le_add_right _ i),
      Nat.add_sub_cancel_left, List.getD_eq_getElem?_getD, found, Option.getD_some]
  blank := by
    intro n outside inside
    rw [getElem?_cells_ofImage image inside]
    obtain before | behind := outside
    · rw [if_neg (by omega)]
    · rw [if_pos (by omega), List.getD_eq_getElem?_getD, List.getElem?_eq_none (by omega),
        Option.getD_none]
  pc := rfl
  reg := by
    intro r
    simp [ofImage, Registers.start, Registers.get]
  flag := rfl
  status := rfl

end Processor

namespace Image

theorem ofWords_cons_iff_copy? {origin : Word} {words : List Word} :
    (∃ image, ofWords (origin :: words) = .ok image) ↔
      (Memory.blank.copy? origin.toNat words).isSome := by
  rw [ofWords]
  by_cases fits : origin.toNat + words.length ≤ Memory.size
  · rw [dif_pos fits, Memory.copy?_eq_load fits]
    simp
  · have past := Memory.copy?_eq_none (Nat.lt_of_not_le fits) (Nat.le_of_lt origin.isLt) .blank
    rw [dif_neg fits, past]
    simp

/-- A file is refused for the stated reasons and no other, or it is the big-endian file of the one
image it is accepted as, and that is the image its words make. Words are accepted exactly if each
has a cell to be loaded to, and a machine made of an image has them all loaded. -/
theorem loaded_of_bytes {C : Type} [Console C] (style : Style) (console : C) :
    (∀ bytes e, ofBytes bytes = .error e ↔ Refused bytes e) ∧
    (∀ bytes image, ofBytes bytes = .ok image ↔ image.toBytes = bytes) ∧
    (∀ bytes, (∀ e, ¬ Refused bytes e) → ∃ image, ofBytes bytes = .ok image) ∧
    (∀ image : Image,
      image.toBytes.map UInt8.toNat = bigEndian (image.origin :: image.words)) ∧
    (∀ bytes, bytes.length % 2 = 0 →
      ∃ ws, bytes.map UInt8.toNat = bigEndian ws ∧ ofBytes bytes = ofWords ws) ∧
    (∀ origin words, (∃ image, ofWords (origin :: words) = .ok image) ↔
      (Memory.blank.copy? origin.toNat words).isSome) ∧
    ∀ image : Image,
      Memory.blank.copy? image.origin.toNat image.words =
        some (Machine.ofImage style image console).cpu.mem ∧
      image.Loaded (Machine.ofImage style image console).cpu := by
  refine ⟨fun bytes e => ofBytes_eq_error_iff, fun bytes image => ofBytes_eq_ok_iff,
    fun bytes legal => ?_, toNat_toBytes, fun bytes even => ?_,
    fun origin words => ofWords_cons_iff_copy?, fun image => ⟨?_, Processor.loaded_ofImage image⟩⟩
  · cases read : ofBytes bytes with
    | ok image => exact ⟨image, rfl⟩
    | error e => exact absurd (ofBytes_eq_error_iff.1 read) (legal e)
  · obtain ⟨ws, words⟩ := exists_words even
    exact ⟨ws, words, ofBytes_eq_ofWords words⟩
  · have origin : BitVec.ofNat 16 image.origin.toNat = image.origin := BitVec.ofNat_toNat ..
    rw [Memory.copy?_eq_load image.fits, origin]
    rfl

/-- Two words that end at the last address. -/
def lastTwo : Image := ⟨0xFFFE, [0x1234, 0xF025], by decide⟩

def lastTwoFile : List Byte := [0xFF, 0xFE, 0x12, 0x34, 0xF0, 0x25]

/-- They are loaded, and with one word more they are too long. -/
theorem loaded_of_bytes_lastTwo : ofBytes lastTwoFile = .ok lastTwo ∧
    lastTwo.Loaded (Machine.ofImage .plain lastTwo (Buffered.ofInput [])).cpu ∧
    ofBytes (lastTwoFile ++ [0x00, 0x48]) = .error (.tooLong 0xFFFE 3) := by
  obtain ⟨errors, images, -, -, -, -, loads⟩ :=
    loaded_of_bytes .plain (Buffered.ofInput [])
  have file : lastTwo.toBytes = lastTwoFile := by decide
  have refused : Refused (lastTwoFile ++ [0x00, 0x48]) (.tooLong 0xFFFE 3) :=
    .tooLong rfl rfl rfl (by decide)
  exact ⟨(images _ _).2 file, (loads lastTwo).2, (errors _ _).2 refused⟩

end Image

end LC3
