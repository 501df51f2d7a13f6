import LC3.Proofs.Step

/-! The strings that the print routines read. They go from cell to cell around the ring of 2^16,
with no bound but the first zero cell. The distance to a zero cell shrinks with each cell passed, so
one zero cell anywhere ends every string, wherever it starts; without one no string ends. A string
is also all that can keep an instruction from ending. -/

namespace LC3

namespace Memory

variable {mem : Memory} {a z : Word} {ws ws' : List Word}

/-- The words that a reader passes who starts at `a` and stops at a zero cell. -/
inductive Spells (mem : Memory) : Word → List Word → Prop where
  | stop {a : Word} (zero : mem.get a = 0) : Spells mem a []
  | pass {a : Word} {ws : List Word} (word : mem.get a ≠ 0) (rest : Spells mem (a + 1) ws) :
    Spells mem a (mem.get a :: ws)

theorem Spells.unique (h : mem.Spells a ws) (h' : mem.Spells a ws') : ws = ws' := by
  induction h generalizing ws' with
  | stop zero =>
    cases h' with
    | stop => rfl
    | pass word => exact absurd zero word
  | pass word _ ih =>
    cases h' with
    | stop zero => exact absurd zero word
    | pass _ rest => rw [ih rest]

theorem Spells.exists_zero (h : mem.Spells a ws) : ∃ z, mem.get z = 0 := by
  induction h with
  | stop zero => exact ⟨_, zero⟩
  | pass _ _ ih => exact ih

/-- A reader comes to a zero cell no later than after going all the way to it. -/
theorem exists_spells (zero : mem.get z = 0) (a : Word) :
    ∃ ws, mem.Spells a ws ∧ ws.length ≤ (z - a).toNat := by
  -- the induction is on the distance to go, which passing a cell makes one less
  induction n : (z - a).toNat generalizing a with
  | zero =>
    have same : z = a := by bv_omega
    exact ⟨[], .stop (same ▸ zero), Nat.le_refl 0⟩
  | succ n ih =>
    by_cases stop : mem.get a = 0
    · exact ⟨[], .stop stop, Nat.zero_le _⟩
    · obtain ⟨ws, spelled, length⟩ := ih (a + 1) (by bv_omega)
      exact ⟨mem.get a :: ws, .pass stop spelled, Nat.succ_le_succ length⟩

theorem Spells.length_lt (h : mem.Spells a ws) : ws.length < size := by
  obtain ⟨z, zero⟩ := h.exists_zero
  obtain ⟨ws', h', length⟩ := exists_spells zero a
  rw [h.unique h']
  exact Nat.lt_of_le_of_lt length (z - a).isLt

theorem slice_succ (mem : Memory) (a : Word) (n : Nat) :
    mem.slice a (n + 1) = mem.get a :: mem.slice (a + 1) n := by
  rw [slice, List.range_succ_eq_map, List.map_cons, List.map_map, BitVec.add_zero]
  exact congrArg _ (List.map_congr_left fun i _ => congrArg mem.get (a.add_ofNat_succ i))

theorem Spells.slice (h : mem.Spells a ws) : mem.slice a ws.length = ws := by
  induction h with
  | stop => rfl
  | pass _ _ ih => rw [List.length_cons, slice_succ, ih]

theorem Spells.scan {n : Nat} (h : mem.Spells (a + BitVec.ofNat 16 n) ws) {fuel : Nat}
    (enough : ws.length < fuel) : mem.scan a fuel n = some (n + ws.length) := by
  induction ws generalizing n fuel with
  | nil =>
    obtain ⟨zero⟩ := h
    obtain ⟨fuel, rfl⟩ := Nat.exists_eq_succ_of_ne_zero (Nat.ne_of_gt enough)
    rw [Memory.scan, if_pos zero]
    rfl
  | cons w ws ih =>
    obtain _ | ⟨word, rest⟩ := h
    obtain ⟨fuel, rfl⟩ := Nat.exists_eq_succ_of_ne_zero (Nat.ne_of_gt (Nat.zero_lt_of_lt enough))
    have shift : a + BitVec.ofNat 16 n + 1 = a + BitVec.ofNat 16 (n + 1) := by bv_omega
    rw [shift] at rest
    rw [Memory.scan, if_neg word, ih rest (Nat.lt_of_succ_lt_succ enough), List.length_cons]
    exact congrArg some (by omega)

theorem get_of_scan {fuel n k : Nat} (h : mem.scan a fuel n = some k) :
    mem.get (a + BitVec.ofNat 16 k) = 0 := by
  induction fuel generalizing n with
  | zero => exact absurd h (by simp [Memory.scan])
  | succ fuel ih =>
    rw [Memory.scan] at h
    split at h
    next zero =>
      obtain rfl := Option.some.inj h
      exact zero
    next => exact ih h

theorem Spells.string? (h : mem.Spells a ws) : mem.string? a = some ws := by
  have h₀ : mem.Spells (a + BitVec.ofNat 16 0) ws := by simpa using h
  rw [Memory.string?, h₀.scan h.length_lt, Option.map_some, Nat.zero_add, h.slice]

theorem string?_eq_some_iff : mem.string? a = some ws ↔ mem.Spells a ws := by
  refine ⟨fun h => ?_, Spells.string?⟩
  obtain ⟨k, found, -⟩ := Option.map_eq_some_iff.1 h
  obtain ⟨ws', spelled, -⟩ := exists_spells (get_of_scan found) a
  rwa [Option.some.inj (h.symm.trans spelled.string?)]

/-- Nothing ends a string only if nothing ends any. -/
theorem string?_eq_none_iff : mem.string? a = none ↔ ∀ z, mem.get z ≠ 0 := by
  constructor
  · intro h z zero
    obtain ⟨ws, spelled, -⟩ := exists_spells zero a
    exact absurd (h.symm.trans spelled.string?) (by simp)
  · intro h
    cases found : mem.string? a with
    | none => rfl
    | some ws =>
      obtain ⟨z, zero⟩ := (string?_eq_some_iff.1 found).exists_zero
      exact absurd zero (h z)

end Memory

theorem Routine.printString_of_spells {mem : Memory} {a : Word} {ws : List Word}
    (h : mem.Spells a ws) (bytes : Word → List Byte) :
    printString mem a bytes = (do Dialogue.print (ws.flatMap bytes); pure .nothing) := by
  rw [printString, h.string?]

open Dialogue

namespace Dialogue

variable {α β : Type}

/-- However the console answers, the dialogue does not poll and comes to a value. -/
def Completes (d : Dialogue α) : Prop := d.Within (fun out => ∃ a, out = .ok a) (· ≠ .interrupted)

theorem completes_pure (a : α) : (pure a : Dialogue α).Completes := ⟨a, rfl⟩

theorem Completes.bind {d : Dialogue α} {g : α → Dialogue β} (h : d.Completes)
    (hg : ∀ a, (g a).Completes) : (d >>= g).Completes :=
  Within.bind h (fun a _ => hg a) (fun _ ⟨_, hf⟩ => nomatch hf) (fun ⟨_, he⟩ => nomatch he)

theorem completes_print (bytes : List Byte) : (print bytes).Completes :=
  ⟨by simp, fun _ => ⟨by simp, fun _ => completes_pure ()⟩⟩

theorem completes_tell (n : Note) : (tell n).Completes := completes_pure ()

theorem completes_readByte : readByte.Completes := ⟨by simp, completes_pure⟩

/-- However the console answers, the dialogue ends, except where no string does. -/
def Ends (mem : Memory) (d : Dialogue α) : Prop :=
  d.Within (fun out => out = .endless → ∀ z, mem.get z ≠ 0) (· ≠ .interrupted)

theorem Completes.ends {d : Dialogue α} (h : d.Completes) (mem : Memory) : d.Ends mem :=
  h.mono fun _ ⟨_, ok⟩ endless => by simp [ok] at endless

end Dialogue

theorem Bus.read_completes (mem : Memory) (a : Word) : (read mem a).Completes := read_within mem a

theorem Bus.write_completes (a w : Word) : (write a w).Completes := by
  unfold write
  split
  · exact completes_pure _
  next d _ =>
    refine (completes_tell _).bind fun _ => Completes.bind ?_ fun _ => completes_pure _
    cases d with
    | displayData => exact completes_print _
    | _ => exact completes_pure _

namespace Routine

theorem printString_ends (mem : Memory) (a : Word) (bytes : Word → List Byte) :
    (printString mem a bytes).Ends mem := by
  unfold printString
  split
  next none => exact fun _ => Memory.string?_eq_none_iff.1 none
  next => exact ((completes_print _).bind fun _ => completes_pure _).ends mem

theorem serve_ends (style : Style) (regs : Registers) (mem : Memory) (pc : Word) (r : Routine) :
    (r.serve style regs mem pc).Ends mem := by
  cases r with
  | getc => exact (completes_readByte.bind fun _ => completes_pure _).ends mem
  | out => exact ((completes_print _).bind fun _ => completes_pure _).ends mem
  | puts => exact printString_ends _ _ _
  | input =>
    exact ((completes_print _).bind fun _ => completes_readByte.bind fun _ =>
      (completes_print _).bind fun _ => completes_pure _).ends mem
  | putsp => exact printString_ends _ _ _
  | halt =>
    exact ((completes_print _).bind fun _ =>
      (completes_tell _).bind fun _ => completes_pure _).ends mem

end Routine

namespace Processor

theorem execute_ends (style : Style) (cpu : Processor) (a w : Word) :
    (cpu.execute style a w).Ends cpu.mem := by
  unfold execute
  cases Instruction.decode w with
  | br => exact (completes_pure _).ends _
  | add => exact (completes_pure _).ends _
  | and => exact (completes_pure _).ends _
  | not => exact (completes_pure _).ends _
  | lea => exact (completes_pure _).ends _
  | ld => exact ((Bus.read_completes _ _).bind fun _ => completes_pure _).ends _
  | ldi =>
    exact ((Bus.read_completes _ _).bind fun _ => (Bus.read_completes _ _).bind fun _ =>
      completes_pure _).ends _
  | ldr => exact ((Bus.read_completes _ _).bind fun _ => completes_pure _).ends _
  | st => exact (Bus.write_completes _ _).ends _
  | sti => exact ((Bus.read_completes _ _).bind fun _ => Bus.write_completes _ _).ends _
  | str => exact (Bus.write_completes _ _).ends _
  | jsr => exact (completes_pure _).ends _
  | jmp => exact (completes_pure _).ends _
  | trap vector =>
    simp only
    split
    · exact Routine.serve_ends _ _ _ _ _
    · exact fun h => nomatch h
  | rti => exact fun h => nomatch h
  | reserved => exact fun h => nomatch h

theorem cycle_ends (style : Style) (cpu : Processor) : (cpu.cycle style).Ends cpu.mem :=
  Within.bind (Bus.read_completes _ _)
    (fun w _ => execute_ends style cpu.advance cpu.regs.pc w)
    (fun _ ⟨_, hf⟩ => nomatch hf) (fun ⟨_, he⟩ => nomatch he)

end Processor

/-- One zero cell and every instruction ends, whatever the console answers. -/
theorem Machine.step_ne_endless {C : Type} [Console C] {m : Machine C} {z : Word}
    (zero : m.cpu.mem.get z = 0) : m.step.1 ≠ .endless := by
  intro endless
  rw [step_fst_eq_endless] at endless
  exact (m.cpu.cycle_ends m.style).of_run_endless m.console endless rfl z zero

end LC3
