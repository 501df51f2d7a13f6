import LC3.Console.Buffered
import LC3.Proofs.Faults
import LC3.Proofs.Strings

/-! The two routines that print a string. They go from cell to cell to the first zero cell, over any
device on the way, and only then turn to the console: one write of all that the words spell, and a
flush. A ring without a zero cell keeps them going round for ever. -/

namespace LC3

namespace Memory

variable {mem : Memory} {a : Word} {n : Nat}

/-- From `a` on, the first zero cell comes after `n` others. -/
structure EndsAfter (mem : Memory) (a : Word) (n : Nat) : Prop where
  zero : mem.get (a + BitVec.ofNat 16 n) = 0
  first : ∀ k < n, mem.get (a + BitVec.ofNat 16 k) ≠ 0

theorem EndsAfter.spells (h : mem.EndsAfter a n) : mem.Spells a (mem.slice a n) := by
  induction n generalizing a with
  | zero =>
    have zero := h.zero
    rw [BitVec.add_zero] at zero
    exact .stop zero
  | succ n ih =>
    have word := h.first 0 (Nat.succ_pos n)
    rw [BitVec.add_zero] at word
    have rest : mem.EndsAfter (a + 1) n := by
      refine ⟨by rw [← a.add_ofNat_succ]; exact h.zero, fun k before => ?_⟩
      rw [← a.add_ofNat_succ]
      exact h.first (k + 1) (Nat.succ_lt_succ before)
    rw [slice_succ]
    exact .pass word (ih rest)

theorem Spells.endsAfter {ws : List Word} (h : mem.Spells a ws) : mem.EndsAfter a ws.length := by
  induction h with
  | @stop a zero =>
    exact ⟨by rw [List.length_nil, BitVec.add_zero]; exact zero, by simp⟩
  | @pass a ws word rest ih =>
    refine ⟨by rw [List.length_cons, a.add_ofNat_succ]; exact ih.zero, fun k before => ?_⟩
    cases k with
    | zero => rwa [BitVec.add_zero]
    | succ k =>
      rw [a.add_ofNat_succ]
      exact ih.first k (Nat.lt_of_succ_lt_succ before)

theorem exists_endsAfter {z : Word} (zero : mem.get z = 0) (a : Word) :
    ∃ n ≤ 65535, mem.EndsAfter a n := by
  obtain ⟨ws, spelled, -⟩ := exists_spells zero a
  exact ⟨ws.length, Nat.le_of_lt_succ spelled.length_lt, spelled.endsAfter⟩

end Memory

namespace Routine

/-- A print routine on its way, for so many rounds: in each it looks at the cell at `a`, adds what
`bytes` makes of the word there to `text` and goes on to the next cell. It is through when it looks
at a zero cell; none if it has not come to one. -/
def collect? (mem : Memory) (bytes : Word → List Byte) :
    (rounds : Nat) → (a : Word) → (text : List Byte) → Option (List Byte)
  | 0, _, _ => none
  | rounds + 1, a, text =>
    if mem.get a = 0 then some text
    else collect? mem bytes rounds (a + 1) (text ++ bytes (mem.get a))

variable {mem : Memory} {a : Word}

theorem collect?_of_spells {ws : List Word} (h : mem.Spells a ws) (bytes : Word → List Byte)
    (rounds : Nat) (text : List Byte) : collect? mem bytes rounds a text =
      if ws.length < rounds then some (text ++ ws.flatMap bytes) else none := by
  induction h generalizing rounds text with
  | stop zero =>
    cases rounds with
    | zero => rfl
    | succ rounds =>
      rw [collect?, if_pos zero]
      simp
  | pass word rest ih =>
    cases rounds with
    | zero => rfl
    | succ rounds =>
      rw [collect?, if_neg word, ih, List.flatMap_cons, List.append_assoc, List.length_cons]
      simp only [Nat.succ_lt_succ_iff]

theorem collect?_of_full (full : ∀ z, mem.get z ≠ 0) (bytes : Word → List Byte) (rounds : Nat)
    (a : Word) (text : List Byte) : collect? mem bytes rounds a text = none := by
  induction rounds generalizing a text with
  | zero => rfl
  | succ rounds ih => rw [collect?, if_neg (full a), ih]

/-- All that is said when a text is printed, and how that ends: the flush comes only if the write
succeeds, and nothing else comes. -/
inductive Says (text : List Byte) : List Exchange → Outcome Unit → Prop where
  | refused (f : Fault) : Says text [⟨.write text, .error f⟩] (.fault f)
  | unflushed (f : Fault) :
    Says text [⟨.write text, .ok ()⟩, ⟨.flush, .error f⟩] (.fault f)
  | printed : Says text [⟨.write text, .ok ()⟩, ⟨.flush, .ok ()⟩] (.ok ())

end Routine

namespace Machine

variable {C : Type} [Console C] {m : Machine (Recorded C)} {c : Recorded C} {w : Word}

/-- After what has been asked so far, its fetch included, a step does nothing but print this text
and go on to the next address. -/
structure Prints (m : Machine (Recorded C)) (past : List Exchange) (text : List Byte) : Prop where
  talk : ∃ es, m.step.2.console.exchanges.toList = past ++ es ∧ Routine.Says text es m.step.1
  passed : Passed m.cpu m.step.2.cpu

theorem prints_of_run {text : List Byte} (ran : (m.cpu.cycle m.style).run m.console =
    (do Dialogue.print text; pure Effect.nothing : Dialogue Effect).run c) :
    m.Prints c.exchanges.toList text := by
  change _ = (Dialogue.ask (.write text) fun _ => Dialogue.ask .flush fun _ =>
    Dialogue.done Effect.nothing).run c at ran
  rcases written : Console.answer (.write text) c with ⟨f | _, c₁⟩
  · rw [Dialogue.run_ask_error written] at ran
    refine ⟨⟨[⟨.write text, .error f⟩], ?_, ?_⟩, ?_⟩ <;> rw [step_of_fault ran]
    · exact exchanges_answer written
    · exact .refused f
    · exact passed_advance m.cpu
  · have asked : c₁.exchanges.toList = c.exchanges.toList ++ [⟨.write text, .ok ()⟩] :=
      exchanges_answer written
    rw [Dialogue.run_ask_ok written] at ran
    rcases flushed : Console.answer .flush c₁ with ⟨f | _, c₂⟩
    · rw [Dialogue.run_ask_error flushed] at ran
      refine ⟨⟨[⟨.write text, .ok ()⟩, ⟨.flush, .error f⟩], ?_, ?_⟩, ?_⟩ <;> rw [step_of_fault ran]
      · rw [exchanges_answer flushed, asked, List.append_assoc]
        rfl
      · exact .unflushed f
      · exact passed_advance m.cpu
    · rw [Dialogue.run_ask_ok flushed] at ran
      have step : m.step = (.ok (), { m with cpu := m.cpu.advance, console := c₂ }) :=
        step_eq_ok.2 ⟨.nothing, c₂, ran, rfl⟩
      refine ⟨⟨[⟨.write text, .ok ()⟩, ⟨.flush, .ok ()⟩], ?_, ?_⟩, ?_⟩ <;> rw [step]
      · rw [exchanges_answer flushed, asked, List.append_assoc]
        rfl
      · exact .printed
      · exact passed_advance m.cpu

section Fetched

variable {r : Routine} {bytes : Word → List Byte}
  (fetched : (Bus.read m.cpu.mem m.cpu.regs.pc).run m.console = (.ok w, c))
  (op : w.field 12 4 = 0xF) (vector : w.field 0 8 = r.vector.toNat)
  (serve : r.serve m.style m.cpu.advance.regs m.cpu.mem m.cpu.regs.pc =
    Routine.printString m.cpu.mem (m.cpu.regs.get 0) bytes)
include fetched op vector serve

theorem cycle_of_printing : (m.cpu.cycle m.style).run m.console =
    (Routine.printString m.cpu.mem (m.cpu.regs.get 0) bytes).run
      (Console.hear (.step m.cpu.regs.pc w) c) := by
  rw [Processor.cycle_run fetched, Processor.execute_routine _ _ _ op vector]
  exact congrArg (Dialogue.run · _) serve

theorem prints_of_endsAfter {n : Nat} (ends : m.cpu.mem.EndsAfter (m.cpu.regs.get 0) n) :
    m.Prints c.exchanges.toList ((m.cpu.mem.slice (m.cpu.regs.get 0) n).flatMap bytes) := by
  have ran := cycle_of_printing fetched op vector serve
  rw [Routine.printString_of_spells ends.spells] at ran
  exact prints_of_run (c := Console.hear (.step m.cpu.regs.pc w) c) ran

theorem endless_of_full (full : ∀ z, m.cpu.mem.get z ≠ 0) :
    m.step.1 = .endless ∧ m.step.2.console.exchanges = c.exchanges := by
  have ran := cycle_of_printing fetched op vector serve
  rw [Routine.printString, Memory.string?_eq_none_iff.2 full] at ran
  refine ⟨step_fst_eq_endless.2 (congrArg Prod.fst ran), ?_⟩
  rw [step_console, ran]
  rfl

end Fetched

/-- `TRAP PUTS` and `TRAP PUTSP` write, in one call, what is in the stored cells from R0 on before
the first that is zero, and flush that; they ask for nothing else and change nothing. So they go
past a device without asking it. If no cell is zero, no number of rounds gets them to an end, and
they ask for nothing at all. -/
theorem printed_by_trap (m : Machine (Recorded C)) {w : Word} {c : Recorded C}
    (fetched : (Bus.read m.cpu.mem m.cpu.regs.pc).run m.console = (.ok w, c))
    (op : w.field 12 4 = 0xF) :
    let mem := m.cpu.mem
    let start := m.cpu.regs.get 0
    m.unrecorded.step = (m.step.1, m.step.2.unrecorded) ∧
    ((∃ z, mem.get z = 0) → ∃ n ≤ 65535, mem.EndsAfter start n) ∧
    (∀ n, mem.EndsAfter start n →
      (w.field 0 8 = 0x22 → m.Prints c.exchanges.toList ((mem.slice start n).map Word.low)) ∧
      (w.field 0 8 = 0x24 → m.Prints c.exchanges.toList
        ((mem.slice start n).flatMap fun w => w.low :: if w.high = 0 then [] else [w.high])) ∧
      ∀ bytes rounds, Routine.collect? mem bytes rounds start [] =
        if n < rounds then some ((mem.slice start n).flatMap bytes) else none) ∧
    ((∀ z, mem.get z ≠ 0) → w.field 0 8 = 0x22 ∨ w.field 0 8 = 0x24 →
      m.step.1 = .endless ∧ m.step.2.console.exchanges = c.exchanges ∧
        ∀ bytes rounds text, Routine.collect? mem bytes rounds start text = none) := by
  intro mem start
  refine ⟨step_unrecorded m, fun ⟨z, zero⟩ => Memory.exists_endsAfter zero start,
    fun n ends => ⟨fun vector => ?_, fun vector => ?_, fun bytes rounds => ?_⟩,
    fun full vector => ?_⟩
  · rw [List.map_eq_flatMap]
    exact prints_of_endsAfter (r := .puts) fetched op vector rfl ends
  · have unpacked : (fun w : Word => w.low :: if w.high = 0 then [] else [w.high]) =
        Routine.unpack := by
      funext w
      unfold Routine.unpack
      split <;> rfl
    rw [unpacked]
    exact prints_of_endsAfter (r := .putsp) fetched op vector rfl ends
  · have length : (mem.slice start n).length = n := by simp [Memory.slice]
    rw [Routine.collect?_of_spells ends.spells, length, List.nil_append]
  · have never bytes rounds text : Routine.collect? mem bytes rounds start text = none :=
      Routine.collect?_of_full full bytes rounds start text
    obtain puts | putsp := vector
    · obtain ⟨endless, silent⟩ := endless_of_full (r := .puts) fetched op puts rfl full
      exact ⟨endless, silent, never⟩
    · obtain ⟨endless, silent⟩ := endless_of_full (r := .putsp) fetched op putsp rfl full
      exact ⟨endless, silent, never⟩

/-- About to print, with `TRAP PUTSP`, a string that goes on under the keyboard's data. A key is
waiting there. -/
def acrossKeyboard : Machine (Recorded Buffered) where
  cpu := ⟨(Registers.start 0x3000).set 0 0xFE01,
    ((Memory.blank.set 0x3000 0xF024).set 0xFE01 0x6968).set 0xFE02 0x0021, .running⟩
  console := .ofConsole (.ofInput [0x78])
  style := .plain

def filledUp : Machine (Recorded Buffered) where
  cpu := ⟨.start 0x3000, ⟨Vector.replicate _ 0xF022⟩, .running⟩
  console := .ofConsole (.ofInput [])
  style := .plain

/-- The key is not read, and what is stored under the device is printed. Where every cell is filled,
printing does not end. -/
theorem printed_by_trap_acrossKeyboard :
    acrossKeyboard.Prints [] [0x68, 0x69, 0x21] ∧ filledUp.step.1 = .endless := by
  have word : acrossKeyboard.cpu.mem.get 0x3000 = 0xF024 := by
    simp [acrossKeyboard, Memory.get_set]
  have fetched : (Bus.read acrossKeyboard.cpu.mem acrossKeyboard.cpu.regs.pc).run
      acrossKeyboard.console = (.ok 0xF024, acrossKeyboard.console) := by
    change (Bus.read acrossKeyboard.cpu.mem 0x3000).run _ = _
    rw [Bus.read_stored rfl, word]
    rfl
  have start : acrossKeyboard.cpu.regs.get 0 = 0xFE01 := rfl
  have ends : acrossKeyboard.cpu.mem.EndsAfter (acrossKeyboard.cpu.regs.get 0) 2 := by
    rw [start]
    refine ⟨by simp [acrossKeyboard, Memory.get_set], fun k before => ?_⟩
    obtain rfl | rfl : k = 0 ∨ k = 1 := by omega
    · simp [acrossKeyboard, Memory.get_set]
    · simp [acrossKeyboard, Memory.get_set]
  have spelled : acrossKeyboard.cpu.mem.slice 0xFE01 2 = [0x6968, 0x0021] := by
    simp [Memory.slice, List.range_succ, acrossKeyboard, Memory.get_set]
  have full (z : Word) : filledUp.cpu.mem.get z = 0xF022 := by simp [filledUp, Memory.get]
  have fetched' : (Bus.read filledUp.cpu.mem filledUp.cpu.regs.pc).run filledUp.console =
      (.ok 0xF022, filledUp.console) := by
    change (Bus.read filledUp.cpu.mem 0x3000).run _ = _
    rw [Bus.read_stored rfl, full]
    rfl
  obtain ⟨-, -, prints, -⟩ := printed_by_trap acrossKeyboard fetched rfl
  obtain ⟨-, -, -, endless⟩ := printed_by_trap filledUp fetched' rfl
  have printed := (prints 2 ends).2.1 rfl
  rw [start, spelled] at printed
  exact ⟨printed, (endless (fun z => by simp [full]) (.inl rfl)).1⟩

end Machine

end LC3
