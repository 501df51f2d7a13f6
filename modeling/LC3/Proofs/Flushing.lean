import LC3.Proofs.Faults
import LC3.Proofs.Interruption

/-! Output is never left lying. Whatever an instruction writes it flushes with its very next call,
so between a write and its flush a console hears of nothing else. A run stops at the first call that
fails; so where it goes on to ask for input, and where it halts, all that it has written was
flushed, and the flush succeeded. -/

namespace LC3

def Call.isWrite : Call → Bool
  | .write _ => true
  | .inputReady | .readByte | .flush | .interrupted => false

/-- The first of these calls is a flush. -/
def BeginsWithFlush (es : List Exchange) : Prop := ∃ reply rest, es = ⟨.flush, reply⟩ :: rest

/-- A write that succeeds is followed at once by a flush. -/
def FlushedAtOnce (es : List Exchange) : Prop :=
  ∀ before bytes after, es = before ++ ⟨.write bytes, .ok ()⟩ :: after → BeginsWithFlush after

/-- All that was written, whatever the reply, was flushed some time after it by a call that
succeeded. -/
def Flushed (es : List Exchange) : Prop :=
  ∀ before bytes reply after, es = before ++ ⟨.write bytes, reply⟩ :: after →
    ⟨.flush, .ok ()⟩ ∈ after

namespace FlushedAtOnce

variable {es es' : List Exchange} {e : Exchange}

theorem nil : FlushedAtOnce [] := by
  intro before bytes after split
  simp at split

theorem cons (next : ∀ bytes, e = ⟨.write bytes, .ok ()⟩ → BeginsWithFlush es)
    (h : FlushedAtOnce es) : FlushedAtOnce (e :: es) := by
  intro before bytes after split
  cases before with
  | nil =>
    obtain ⟨written, rfl⟩ := List.cons.inj split
    exact next bytes written
  | cons b before =>
    obtain ⟨-, split⟩ := List.cons.inj split
    exact h before bytes after split

theorem append (h : FlushedAtOnce es) (h' : FlushedAtOnce es') : FlushedAtOnce (es ++ es') := by
  intro before bytes after split
  obtain ⟨rest, rfl, right⟩ | ⟨rest, rfl, right⟩ := List.append_eq_append_iff.1 split
  · exact h' rest bytes after right
  · cases rest with
    | nil => exact h' [] bytes after right.symm
    | cons w rest =>
      obtain ⟨rfl, rfl⟩ := List.cons.inj right
      obtain ⟨reply, more, rfl⟩ := h before bytes rest rfl
      exact ⟨reply, more ++ es', rfl⟩

/-- The flush behind a write has succeeded too if anything is asked after it. -/
theorem flushed_of_failStop {ends : Fault → Prop} {before after : List Exchange}
    (h : FlushedAtOnce (before ++ e :: after)) (failStop : FailStop ends (before ++ e :: after))
    (other : e.call ≠ .flush) : Flushed before := by
  rintro past bytes reply next rfl
  simp only [List.append_assoc, List.cons_append] at h failStop
  cases reply with
  | error f =>
    obtain ⟨none, -⟩ := failStop past _ _ f rfl rfl
    exact absurd none (by simp)
  | ok _ =>
    obtain ⟨flushed, rest, begins⟩ := h past bytes _ rfl
    cases next with
    | nil =>
      obtain ⟨rfl, -⟩ := List.cons.inj begins
      exact absurd rfl other
    | cons flush next =>
      obtain ⟨rfl, -⟩ := List.cons.inj begins
      cases flushed with
      | error f =>
        -- A failed flush would have been the last of all.
        have split : past ++ ⟨.write bytes, .ok ()⟩ :: (⟨.flush, .error f⟩ :: next ++ e :: after) =
            past ++ [⟨.write bytes, .ok ()⟩] ++ ⟨.flush, .error f⟩ :: (next ++ e :: after) := by
          rw [List.append_assoc]
          rfl
        obtain ⟨none, -⟩ := failStop _ _ _ f split rfl
        exact absurd none (by simp)
      | ok _ => exact List.mem_cons_self

/-- Where nothing failed, every flush has succeeded. -/
theorem flushed_of_ok (h : FlushedAtOnce es) (ok : ∀ e ∈ es, e.error? = none) : Flushed es := by
  rintro before bytes reply after rfl
  cases reply with
  | error f => exact absurd (ok ⟨.write bytes, .error f⟩ (by simp)) (by simp [Exchange.error?])
  | ok _ =>
    obtain ⟨reply, rest, rfl⟩ := h before bytes after rfl
    cases reply with
    | error f => exact absurd (ok ⟨.flush, .error f⟩ (by simp)) (by simp [Exchange.error?])
    | ok _ => exact List.mem_cons_self

end FlushedAtOnce

namespace Dialogue

variable {α β C : Type}

/-- However the console answers, a write is followed at once by a flush. If a flush is owed already,
it is the first call. -/
def Flushes : (owed : Bool) → Dialogue α → Prop
  | owed, done _ | owed, fault _ | owed, endless => owed = false
  | owed, ask q next =>
    (owed = true → q = .flush) ∧ ∀ a, (next a).Flushes q.isWrite
  | owed, note _ next => next.Flushes owed

theorem Flushes.bind {d : Dialogue α} {g : α → Dialogue β} {owed : Bool} (h : d.Flushes owed)
    (hg : ∀ a, (g a).Flushes false) : (d >>= g).Flushes owed := by
  induction d generalizing owed with
  | done a =>
    obtain rfl : owed = false := h
    exact hg a
  | fault f => exact h
  | endless => exact h
  | ask q next ih => exact ⟨h.1, fun a => ih a (h.2 a)⟩
  | note n next ih => exact ih h

theorem Flushes.exchanges [Console C] {d : Dialogue α} {owed : Bool} (h : d.Flushes owed) (c : C) :
    FlushedAtOnce (d.exchanges c) ∧ (owed = true → BeginsWithFlush (d.exchanges c)) := by
  induction d generalizing owed c with
  | done a => exact ⟨.nil, fun due => absurd due (by simp [show owed = false from h])⟩
  | fault f => exact ⟨.nil, fun due => absurd due (by simp [show owed = false from h])⟩
  | endless => exact ⟨.nil, fun due => absurd due (by simp [show owed = false from h])⟩
  | ask q next ih =>
    obtain ⟨first, h⟩ := h
    rcases answered : Console.answer q c with ⟨f | a, c'⟩
    · rw [exchanges_ask_error answered]
      refine ⟨.cons (fun bytes written => nomatch written) .nil, fun due => ?_⟩
      obtain rfl := first due
      exact ⟨.error f, [], rfl⟩
    · rw [exchanges_ask_ok answered]
      obtain ⟨later, begins⟩ := ih a (h a) c'
      refine ⟨later.cons fun bytes written => ?_, fun due => ?_⟩
      · obtain ⟨rfl, -⟩ := Exchange.mk.inj written
        exact begins rfl
      · obtain rfl := first due
        exact ⟨.ok a, _, rfl⟩
  | note n next ih => exact ih h _

theorem flushes_print (bytes : List Byte) : (print bytes).Flushes false :=
  ⟨nofun, fun _ => ⟨fun _ => rfl, fun _ => rfl⟩⟩

theorem flushes_tell (n : Note) : (tell n).Flushes false := rfl

theorem flushes_readByte : readByte.Flushes false := ⟨nofun, fun _ => rfl⟩

end Dialogue

open Dialogue

theorem Device.read_flushes (d : Device) : d.read.Flushes false := by
  cases d with
  | keyboardStatus => exact ⟨nofun, fun _ => rfl⟩
  | keyboardData => exact ⟨nofun, fun _ => rfl⟩
  | displayStatus => rfl
  | displayData => rfl

theorem Device.write_flushes (d : Device) (w : Word) : (d.write w).Flushes false := by
  cases d with
  | displayData => exact flushes_print _
  | _ => rfl

theorem Bus.read_flushes (mem : Memory) (a : Word) : (read mem a).Flushes false := by
  unfold read
  split
  · rfl
  next d _ => exact (flushes_tell _).bind fun _ => d.read_flushes

theorem Bus.write_flushes (a w : Word) : (write a w).Flushes false := by
  unfold write
  split
  · rfl
  next d _ => exact (flushes_tell _).bind fun _ => (d.write_flushes w).bind fun _ => rfl

namespace Routine

theorem printString_flushes (mem : Memory) (a : Word) (bytes : Word → List Byte) :
    (printString mem a bytes).Flushes false := by
  unfold printString
  split
  · rfl
  · exact (flushes_print _).bind fun _ => rfl

theorem serve_flushes (style : Style) (regs : Registers) (mem : Memory) (pc : Word)
    (r : Routine) : (r.serve style regs mem pc).Flushes false := by
  cases r with
  | getc => exact flushes_readByte.bind fun _ => rfl
  | out => exact (flushes_print _).bind fun _ => rfl
  | puts => exact printString_flushes _ _ _
  | input =>
    exact (flushes_print _).bind fun _ => flushes_readByte.bind fun _ =>
      (flushes_print _).bind fun _ => rfl
  | putsp => exact printString_flushes _ _ _
  | halt => exact (flushes_print _).bind fun _ => (flushes_tell _).bind fun _ => rfl

end Routine

namespace Processor

theorem execute_flushes (style : Style) (cpu : Processor) (pc w : Word) :
    (cpu.execute style pc w).Flushes false := by
  unfold execute
  cases Instruction.decode w with
  | ld => exact (Bus.read_flushes _ _).bind fun _ => rfl
  | ldi => exact (Bus.read_flushes _ _).bind fun _ => (Bus.read_flushes _ _).bind fun _ => rfl
  | ldr => exact (Bus.read_flushes _ _).bind fun _ => rfl
  | st => exact Bus.write_flushes _ _
  | sti => exact (Bus.read_flushes _ _).bind fun _ => Bus.write_flushes _ _
  | str => exact Bus.write_flushes _ _
  | trap vector =>
    simp only
    split
    · exact Routine.serve_flushes _ _ _ _ _
    · rfl
  | _ => rfl

theorem cycle_flushes (style : Style) (cpu : Processor) : (cpu.cycle style).Flushes false :=
  (Bus.read_flushes _ _).bind fun _ => (flushes_tell _).bind fun _ => execute_flushes _ _ _ _

end Processor

namespace Machine

variable {C : Type} [Console C]

/-- No instruction and no poll leaves a write without its flush, so no run does. -/
theorem keeps_flushedAtOnce (es₀ : List Exchange) : Keeps fun m : Machine (Recorded C) =>
    ∃ es, m.console.exchanges.toList = es₀ ++ es ∧ FlushedAtOnce es where
  hear := fun _ _ h => h
  poll := by
    rintro m count ⟨es, asked, flushed⟩
    unfold poll
    split
    · rcases answered : Console.answer .interrupted m.console with ⟨reply, r⟩
      have more : r.exchanges.toList = es₀ ++ (es ++ [⟨.interrupted, reply⟩]) := by
        rw [exchanges_answer answered, asked, List.append_assoc]
      have still : FlushedAtOnce (es ++ [⟨.interrupted, reply⟩]) :=
        flushed.append (.cons (fun bytes written => nomatch written) .nil)
      rcases reply with _ | _ | _
      · exact ⟨_, more, still⟩
      · exact ⟨_, more, still⟩
      · exact ⟨_, more, still⟩
    · exact ⟨es, asked, flushed⟩
  step := by
    rintro m ⟨es, asked, flushed⟩
    have more := ((m.cpu.cycle_flushes m.style).exchanges m.console.console).1
    refine ⟨_, ?_, flushed.append more⟩
    rw [step_exchanges, asked, List.append_assoc]

/-- In a run each write that succeeds is followed at once by a flush. So whenever the run looks for
input or for a wish to stop, and when it ends well, all that it has written is flushed. -/
theorem flushed_of_run (m : Machine (Recorded C)) (fuel : Nat) :
    m.unrecorded.run fuel = ((m.run fuel).1, (m.run fuel).2.unrecorded) ∧ ∃ es,
      (m.run fuel).2.console.exchanges.toList = m.console.exchanges.toList ++ es ∧
        (∀ before bytes after, es = before ++ ⟨.write bytes, .ok ()⟩ :: after →
          ∃ reply rest, after = ⟨.flush, reply⟩ :: rest) ∧
        (∀ before e after, es = before ++ e :: after → e.call.Looks → Flushed before) ∧
        ((m.run fuel).1 = some (.ok ()) → Flushed es) := by
  obtain ⟨es, asked, failStop⟩ := run_failStop m fuel
  have start : ∃ es, m.console.exchanges.toList = m.console.exchanges.toList ++ es ∧
      FlushedAtOnce es := ⟨[], (List.append_nil _).symm, .nil⟩
  obtain ⟨es', asked', flushed⟩ := (keeps_flushedAtOnce m.console.exchanges.toList).run start fuel
  obtain rfl : es = es' := List.append_cancel_left (asked.symm.trans asked')
  refine ⟨run_unrecorded m fuel, es, asked, flushed, ?_, fun ended => ?_⟩
  · rintro before e after rfl looks
    have other : e.call ≠ .flush := by
      rintro flush
      simp [Call.Looks, flush] at looks
    exact flushed.flushed_of_failStop failStop other
  · exact flushed.flushed_of_ok (failStop.all_ok fun f failed => by simp [ended] at failed)

/-- `TRAP IN`, with a key to read. -/
def prompting : Machine (Recorded Buffered) :=
  ⟨.single 0x3000 0xF023, .ofConsole (.ofInput [0x6B]), .plain⟩

def polledOnce : Recorded Buffered := ⟨.ofInput [0x6B], #[⟨.interrupted, .ok false⟩]⟩

/-- The prompt has been flushed by the time the key is read. -/
theorem flushed_of_run_prompting : ∃ before after,
    (prompting.run 1).2.console.exchanges.toList = before ++ ⟨.readByte, .ok 0x6B⟩ :: after ∧
      ⟨.write Routine.prompt, .ok ()⟩ ∈ before ∧ Flushed before := by
  have polled : Polled 0 prompting.begun ⟨prompting.cpu, polledOnce, .plain⟩ := .due (by simp) rfl
  have step : (mk prompting.cpu polledOnce .plain).step =
      (.ok (), ⟨prompting.cpu.advance.commit (.load 0 0x6B), ⟨_, _⟩, .plain⟩) :=
    step_single rfl rfl
  have run : prompting.run 1 = (none, _) := run_eq_iff.2 ⟨.next .start rfl polled step, rfl⟩
  obtain ⟨-, es, asked, -, looks, -⟩ := flushed_of_run prompting 1
  rw [run] at asked ⊢
  let before : List Exchange :=
    [⟨.interrupted, .ok false⟩, ⟨.write Routine.prompt, .ok ()⟩, ⟨.flush, .ok ()⟩]
  let after : List Exchange := [⟨.write [0x6B], .ok ()⟩, ⟨.flush, .ok ()⟩]
  have listed : before ++ ⟨.readByte, .ok 0x6B⟩ :: after = es := asked
  exact ⟨before, after, rfl, by simp [before], looks before _ after listed.symm (.inr (.inl rfl))⟩

end Machine

end LC3
