import LC3.Proofs.Bits
import LC3.Proofs.Printing

/-! One text in two forms. Packed, it takes half the cells, and the last word may be half empty;
unpacked, each byte has a word of its own, with anything above it. Each form has its own routine,
and whichever form a text without zero bytes is stored in, what its routine prints is the text. -/

namespace LC3

/-- Two bytes a word, the low one first. A last odd byte has zero above it. -/
def pack : List Byte → List Word
  | [] => []
  | [lo] => [.ofBytes 0 lo]
  | lo :: hi :: rest => .ofBytes hi lo :: pack rest

namespace Word

theorem low_ofBytes (hi lo : Byte) : (ofBytes hi lo).low = lo := by
  have := lo.toNat_lt
  apply UInt8.toNat_inj.1
  rw [toNat_low, toNat_ofBytes]
  omega

theorem high_ofBytes (hi lo : Byte) : (ofBytes hi lo).high = hi := by
  have := lo.toNat_lt
  apply UInt8.toNat_inj.1
  rw [toNat_high, toNat_ofBytes]
  omega

theorem ne_zero_of_low {w : Word} (low : w.low ≠ 0) : w ≠ 0 := by
  rintro rfl
  exact low rfl

theorem ofBytes_ne_zero {hi lo : Byte} (low : lo ≠ 0) : ofBytes hi lo ≠ 0 :=
  ne_zero_of_low (by rwa [low_ofBytes])

end Word

section Pack

variable {s : List Byte}

theorem length_pack (s : List Byte) : (pack s).length = (s.length + 1) / 2 := by
  fun_induction pack s with
  | case1 => rfl
  | case2 lo => simp
  | case3 lo hi rest ih =>
    simp only [List.length_cons, ih]
    omega

theorem unpack_ofBytes {hi lo : Byte} (text : hi ≠ 0) :
    Routine.unpack (.ofBytes hi lo) = [lo, hi] := by
  rw [Routine.unpack, Word.high_ofBytes, Word.low_ofBytes, if_neg text]

theorem unpack_padded (lo : Byte) : Routine.unpack (.ofBytes 0 lo) = [lo] := by
  rw [Routine.unpack, Word.high_ofBytes, Word.low_ofBytes, if_pos rfl]

/-- What was padded is told from what was packed by its zero, which the text does not have. -/
theorem flatMap_unpack_pack (text : ∀ b ∈ s, b ≠ 0) : (pack s).flatMap Routine.unpack = s := by
  fun_induction pack s with
  | case1 => rfl
  | case2 lo => rw [List.flatMap_singleton, unpack_padded]
  | case3 lo hi rest ih =>
    rw [List.flatMap_cons, unpack_ofBytes (text hi (by simp)), ih fun b hb => text b (by simp [hb])]
    rfl

theorem pack_ne_zero (text : ∀ b ∈ s, b ≠ 0) : ∀ w ∈ pack s, w ≠ 0 := by
  fun_induction pack s with
  | case1 => simp
  | case2 lo => simpa using Word.ofBytes_ne_zero (text lo (by simp))
  | case3 lo hi rest ih =>
    intro w hw
    obtain rfl | hw := List.mem_cons.1 hw
    · exact Word.ofBytes_ne_zero (text lo (by simp))
    · exact ih (fun b hb => text b (by simp [hb])) w hw

end Pack

namespace Memory

variable {mem : Memory} {a : Word} {ws : List Word}

/-- The cells from `a` on, going round the ring, hold these words and then zero. -/
structure Holds (mem : Memory) (a : Word) (ws : List Word) : Prop where
  word : ∀ (i : Nat) (inside : i < ws.length), mem.get (a + BitVec.ofNat 16 i) = ws[i]
  zero : mem.get (a + BitVec.ofNat 16 ws.length) = 0

theorem Holds.slice (h : mem.Holds a ws) : mem.slice a ws.length = ws := by
  refine List.ext_getElem (by simp [Memory.slice]) fun i _ inside => ?_
  rw [← h.word i inside]
  simp [Memory.slice]

theorem Holds.endsAfter (h : mem.Holds a ws) (text : ∀ w ∈ ws, w ≠ 0) :
    mem.EndsAfter a ws.length := by
  refine ⟨h.zero, fun k before => ?_⟩
  rw [h.word k before]
  exact text _ (List.getElem_mem before)

theorem get_load_of_outside {b : Word} (outside : ∀ i < ws.length, a + BitVec.ofNat 16 i ≠ b) :
    (mem.load a ws).get b = mem.get b := by
  induction ws generalizing mem a with
  | nil => rfl
  | cons w ws ih =>
    have other : a ≠ b := BitVec.add_zero a ▸ outside 0 (Nat.succ_pos _)
    rw [load, ih, get_set, if_neg other]
    intro i inside
    rw [← a.add_ofNat_succ]
    exact outside (i + 1) (Nat.succ_lt_succ inside)

/-- Words that do not go round to where they begin are all there once they are loaded. -/
theorem get_load_inside (fits : ws.length ≤ size) {i : Nat} (inside : i < ws.length) :
    (mem.load a ws).get (a + BitVec.ofNat 16 i) = ws[i] := by
  induction ws generalizing mem a i with
  | nil => exact absurd inside (Nat.not_lt_zero i)
  | cons w ws ih =>
    rw [List.length_cons, size] at fits
    cases i with
    | zero =>
      rw [load, BitVec.add_zero, get_load_of_outside, get_set, if_pos rfl]
      · rfl
      · intro i inside
        bv_omega
    | succ i =>
      rw [load, a.add_ofNat_succ, ih (by rw [size]; omega) (Nat.lt_of_succ_lt_succ inside)]
      rfl

/-- One cell is needed for the zero. -/
theorem holds_load (fits : ws.length ≤ 65535) (mem : Memory) (a : Word) :
    (mem.load a (ws ++ [0])).Holds a ws := by
  have all : (ws ++ [0]).length ≤ size := by
    rw [List.length_append, List.length_singleton, size]
    omega
  refine ⟨fun i inside => ?_, ?_⟩
  · rw [get_load_inside all (by simp; omega), List.getElem_append_left inside]
  · rw [get_load_inside all (by simp), List.getElem_append_right (Nat.le_refl _)]
    simp

end Memory

namespace Machine

variable {C : Type} [Console C]

/-- The next instruction is a `TRAP` with this vector, and the console is at `c` when it has been
fetched. -/
def Traps (m : Machine C) (vector : Nat) (c : C) : Prop :=
  ∃ w, (Bus.read m.cpu.mem m.cpu.regs.pc).run m.console = (.ok w, c) ∧ w.field 12 4 = 0xF ∧
    w.field 0 8 = vector

theorem prints_of_holds {m : Machine (Recorded C)} {c : Recorded C} {r : Routine}
    {bytes : Word → List Byte} {ws : List Word} (traps : m.Traps r.vector.toNat c)
    (serve : r.serve m.style m.cpu.advance.regs m.cpu.mem m.cpu.regs.pc =
      Routine.printString m.cpu.mem (m.cpu.regs.get 0) bytes)
    (holds : m.cpu.mem.Holds (m.cpu.regs.get 0) ws) (text : ∀ w ∈ ws, w ≠ 0) :
    m.Prints c.exchanges.toList (ws.flatMap bytes) := by
  obtain ⟨w, fetched, op, vector⟩ := traps
  have prints := prints_of_endsAfter fetched op vector serve (holds.endsAfter text)
  rwa [holds.slice] at prints

/-- A text without zero bytes that stands from R0 on, wherever that is on the ring, is printed as it
is: packed, by `TRAP PUTSP`, and with a word for each byte, whatever the high bytes are, by
`TRAP PUTS`. It can stand anywhere in either form as long as a cell is left for the zero. -/
theorem printed_in_either_form {s : List Byte} (text : ∀ b ∈ s, b ≠ 0) :
    (∀ (m : Machine (Recorded C)) (c : Recorded C), m.Traps 0x24 c →
      m.cpu.mem.Holds (m.cpu.regs.get 0) (pack s) → m.Prints c.exchanges.toList s) ∧
    (∀ (m : Machine (Recorded C)) (c : Recorded C) (ws : List Word), m.Traps 0x22 c →
      ws.map Word.low = s → m.cpu.mem.Holds (m.cpu.regs.get 0) ws →
        m.Prints c.exchanges.toList s) ∧
    (∀ m : Machine (Recorded C), m.unrecorded.step = (m.step.1, m.step.2.unrecorded)) ∧
    ∀ (mem : Memory) (a : Word),
      ((s.length + 1) / 2 ≤ 65535 → (mem.load a (pack s ++ [0])).Holds a (pack s)) ∧
      ∀ ws : List Word, ws.map Word.low = s → s.length ≤ 65535 →
        (mem.load a (ws ++ [0])).Holds a ws := by
  refine ⟨fun m c traps holds => ?_, fun m c ws traps low holds => ?_, step_unrecorded,
    fun mem a => ⟨fun fits => Memory.holds_load (by rwa [length_pack]) mem a,
      fun ws low fits => ?_⟩⟩
  · have prints := prints_of_holds (r := .putsp) traps rfl holds (pack_ne_zero text)
    rwa [flatMap_unpack_pack text] at prints
  · have words : ∀ w ∈ ws, w ≠ 0 := by
      intro w hw
      have byte : w.low ∈ s := low ▸ List.mem_map_of_mem hw
      exact Word.ne_zero_of_low (text w.low byte)
    have prints := prints_of_holds (r := .puts) traps rfl holds words
    rwa [← List.map_eq_flatMap, low] at prints
  · subst low
    exact Memory.holds_load (by rwa [List.length_map] at fits) mem a

/-- About to print what stands from the last address on. -/
def roundTheEnd (trap : Word) (ws : List Word) : Machine (Recorded Buffered) where
  cpu := ⟨(Registers.start 0x3000).set 0 0xFFFF,
    (Memory.blank.set 0x3000 trap).load 0xFFFF (ws ++ [0]), .running⟩
  console := .ofConsole (.ofInput [])
  style := .plain

theorem traps_roundTheEnd {trap : Word} {ws : List Word} (op : trap.field 12 4 = 0xF)
    (short : ws.length ≤ 3) :
    (roundTheEnd trap ws).Traps (trap.field 0 8) (roundTheEnd trap ws).console := by
  have stored : (roundTheEnd trap ws).cpu.mem.get 0x3000 = trap := by
    have outside : ∀ i < (ws ++ [0]).length, 0xFFFF + BitVec.ofNat 16 i ≠ (0x3000 : Word) := by
      intro i inside
      rw [List.length_append, List.length_singleton] at inside
      bv_omega
    exact (Memory.get_load_of_outside outside).trans (by rw [Memory.get_set, if_pos rfl])
  refine ⟨trap, ?_, op, rfl⟩
  change (Bus.read (roundTheEnd trap ws).cpu.mem 0x3000).run _ = _
  rw [Bus.read_stored rfl, stored]
  rfl

/-- The three bytes go round the end in two words and in three. -/
theorem printed_in_either_form_roundTheEnd :
    (roundTheEnd 0xF024 [0x6261, 0x0063]).Prints [] [0x61, 0x62, 0x63] ∧
      (roundTheEnd 0xF022 [0xFF61, 0x0062, 0x1263]).Prints [] [0x61, 0x62, 0x63] := by
  obtain ⟨packed, unpacked, -, fit⟩ :=
    printed_in_either_form (C := Buffered) (s := [0x61, 0x62, 0x63]) (by simp)
  obtain ⟨inTwo, -⟩ := fit (Memory.blank.set 0x3000 0xF024) 0xFFFF
  obtain ⟨-, inThree⟩ := fit (Memory.blank.set 0x3000 0xF022) 0xFFFF
  have shown : [0xFF61, 0x0062, 0x1263].map Word.low = [0x61, 0x62, 0x63] := by decide
  constructor
  · exact packed (roundTheEnd 0xF024 [0x6261, 0x0063]) _ (traps_roundTheEnd rfl (by decide))
      (inTwo (by decide))
  · exact unpacked (roundTheEnd 0xF022 [0xFF61, 0x0062, 0x1263]) _ _
      (traps_roundTheEnd rfl (by decide)) shown (inThree _ shown (by decide))

end Machine

end LC3
