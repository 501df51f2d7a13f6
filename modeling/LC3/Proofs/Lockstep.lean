import LC3.Proofs.Run

/-! Two machines in lockstep. Where two consoles answer every call alike and stay so related that
they do, no instruction can tell them apart, and so no run and no sequence of runs can. Alike may
mean that one console reports a fault by another name, as long as that is no fault of the machine
itself. -/

namespace LC3

def Outcome.mapFault {α : Type} (rename : Fault → Fault) : Outcome α → Outcome α
  | .ok a => .ok a
  | .fault f => .fault (rename f)
  | .endless => .endless

theorem Outcome.mapFault_id {α : Type} (out : Outcome α) : out.mapFault id = out := by
  cases out <;> rfl

/-- A fault, if it is one, is that of an illegal instruction. -/
def Outcome.OnlyIllegal {α : Type} (out : Outcome α) : Prop :=
  ∀ f, out = .fault f → ∃ a w, Isa.Illegal a w f

variable {C D : Type} [Console C] [Console D]

/-- Related consoles give the same replies but for the names of faults, and stay related. The faults
that do not come from a console keep their names. -/
structure Lockstep (R : C → D → Prop) (rename : Fault → Fault) : Prop where
  answer : ∀ {c d} q, R c d →
    (Console.answer q d).1 = (Console.answer q c).1.mapError rename ∧
      R (Console.answer q c).2 (Console.answer q d).2
  hear : ∀ {c d} n n', R c d → R (Console.hear n c) (Console.hear n' d)
  illegal : ∀ {a w f}, Isa.Illegal a w f → rename f = f
  interrupted : rename .interrupted = .interrupted

/-- The faults of its own that an instruction can raise are those of illegal instructions. -/
theorem Processor.cycle_within_illegal (style : Style) (cpu : Processor) :
    (cpu.cycle style).Within Outcome.OnlyIllegal (· ≠ .interrupted) := by
  refine (Bus.read_within _ _).bind (fun w _ => ?_) (fun f ⟨_, hf⟩ => nomatch hf)
    (fun ⟨_, he⟩ => nomatch he)
  refine (execute_within style cpu.advance cpu.regs.pc w).mono fun out faults f hf => ?_
  exact ⟨cpu.regs.pc, w, (faults f).1 hf⟩

namespace Lockstep

variable {R : C → D → Prop} {rename : Fault → Fault}

theorem dialogue (h : Lockstep R rename) {α : Type} {d : Dialogue α} {asks : Call → Prop}
    (own : d.Within Outcome.OnlyIllegal asks) {c : C} {c' : D} (hc : R c c') :
    (d.run c').1 = (d.run c).1.mapFault rename ∧ R (d.run c).2 (d.run c').2 := by
  induction d generalizing c c' with
  | done a => exact ⟨rfl, hc⟩
  | fault f =>
    obtain ⟨a, w, illegal⟩ := own f rfl
    exact ⟨congrArg Outcome.fault (h.illegal illegal).symm, hc⟩
  | endless => exact ⟨rfl, hc⟩
  | ask q next ih =>
    obtain ⟨reply, related⟩ := h.answer q hc
    rcases answered : Console.answer q c with ⟨r, c₁⟩
    rw [answered] at reply related
    have answered' : Console.answer q c' = (r.mapError rename, (Console.answer q c').2) :=
      Prod.ext reply rfl
    cases r with
    | error f =>
      rw [Dialogue.run_ask_error answered, Dialogue.run_ask_error answered']
      exact ⟨rfl, related⟩
    | ok a =>
      rw [Dialogue.run_ask_ok answered, Dialogue.run_ask_ok answered']
      exact ih a (own.2 a) related
  | note n next ih => exact ih own (h.hear n n hc)

end Lockstep

namespace Machine

/-- Machines that are the same but for their consoles, which are related. -/
structure Matches (R : C → D → Prop) (m : Machine C) (m' : Machine D) : Prop where
  cpu : m'.cpu = m.cpu
  style : m'.style = m.style
  console : R m.console m'.console

inductive Action where
  | step
  | run (fuel : Nat)

def act (m : Machine C) : Action → Option (Outcome Unit) × Machine C
  | .step => (some m.step.1, m.step.2)
  | .run fuel => m.run fuel

/-- One after another, whether they succeed or fail. What holds for every list holds after each of
its actions, since those before it are a list too. -/
def acts (m : Machine C) : List Action → List (Option (Outcome Unit)) × Machine C
  | [] => ([], m)
  | a :: rest =>
    let (out, m) := m.act a
    let (outs, m) := m.acts rest
    (out :: outs, m)

theorem acts_step {m m' : Machine C} {out : Outcome Unit} (h : m.step = (out, m')) :
    m.acts [.step] = ([some out], m') := by
  change ([some m.step.1], m.step.2) = _
  rw [h]

end Machine

namespace Lockstep

open Machine

variable {R : C → D → Prop} {rename : Fault → Fault} {m : Machine C} {m' : Machine D}

theorem machine_hear (h : Lockstep R rename) (hm : m.Matches R m') (n n' : Note) :
    (m.hear n).Matches R (m'.hear n') := ⟨hm.cpu, hm.style, h.hear n n' hm.console⟩

theorem step (h : Lockstep R rename) (hm : m.Matches R m') :
    m'.step.1 = m.step.1.mapFault rename ∧ m.step.2.Matches R m'.step.2 := by
  obtain ⟨out, related⟩ := h.dialogue (m.cpu.cycle_within_illegal m.style) hm.console
  unfold Machine.step
  rw [hm.cpu, hm.style]
  generalize (m.cpu.cycle m.style).run m.console = ran at out related ⊢
  generalize (m.cpu.cycle m.style).run m'.console = ran' at out related ⊢
  obtain ⟨out', c'⟩ := ran'
  obtain rfl : out' = _ := out
  obtain ⟨_ | _ | _, c⟩ := ran
  · exact ⟨rfl, rfl, rfl, related⟩
  · exact ⟨rfl, rfl, rfl, related⟩
  · exact ⟨rfl, rfl, rfl, related⟩

theorem poll (h : Lockstep R rename) (hm : m.Matches R m') (count : UInt32) :
    (m'.poll count).1 = (m.poll count).1.map rename ∧
      (m.poll count).2.Matches R (m'.poll count).2 := by
  obtain ⟨reply, related⟩ := h.answer .interrupted hm.console
  unfold Machine.poll
  split
  · generalize Console.answer .interrupted m.console = answered at reply related ⊢
    generalize Console.answer .interrupted m'.console = answered' at reply related ⊢
    obtain ⟨reply', c'⟩ := answered'
    obtain rfl : reply' = _ := reply
    obtain ⟨_ | _ | _, c⟩ := answered
    · exact ⟨rfl, hm.cpu, hm.style, related⟩
    · exact ⟨rfl, hm.cpu, hm.style, related⟩
    · refine ⟨congrArg some h.interrupted.symm, h.machine_hear ?_ .interrupted .interrupted⟩
      exact ⟨hm.cpu, hm.style, related⟩
  · exact ⟨rfl, hm⟩

theorem runFrom (h : Lockstep R rename) (hm : m.Matches R m') (fuel : Nat) (count : UInt32) :
    (m'.runFrom fuel count).1 = (m.runFrom fuel count).1.map (·.mapFault rename) ∧
      (m.runFrom fuel count).2.Matches R (m'.runFrom fuel count).2 := by
  induction fuel generalizing m m' count with
  | zero =>
    cases status : m.cpu.status with
    | halted =>
      rw [runFrom_halted status, runFrom_halted (hm.cpu ▸ status)]
      exact ⟨rfl, hm⟩
    | running =>
      rw [runFrom_zero status, runFrom_zero (hm.cpu ▸ status)]
      exact ⟨rfl, hm⟩
  | succ fuel ih =>
    cases status : m.cpu.status with
    | halted =>
      rw [runFrom_halted status, runFrom_halted (hm.cpu ▸ status)]
      exact ⟨rfl, hm⟩
    | running =>
      rw [runFrom_succ status, runFrom_succ (hm.cpu ▸ status)]
      obtain ⟨stop, polled⟩ := h.poll hm count
      generalize m.poll count = p at stop polled ⊢
      generalize m'.poll count = p' at stop polled ⊢
      obtain ⟨stop', m₁'⟩ := p'
      obtain rfl : stop' = _ := stop
      obtain ⟨_ | f, m₁⟩ := p
      · obtain ⟨out, stepped⟩ := h.step polled
        simp only [Option.map_none]
        generalize m₁.step = s at out stepped ⊢
        generalize m₁'.step = s' at out stepped ⊢
        obtain ⟨out', m₂'⟩ := s'
        obtain rfl : out' = _ := out
        obtain ⟨_ | f | _, m₂⟩ := s
        · exact ih stepped (count + 1)
        · exact ⟨rfl, h.machine_hear stepped (.stopped f) (.stopped (rename f))⟩
        · exact ⟨rfl, stepped⟩
      · exact ⟨rfl, polled⟩

theorem run (h : Lockstep R rename) (hm : m.Matches R m') (fuel : Nat) :
    (m'.run fuel).1 = (m.run fuel).1.map (·.mapFault rename) ∧
      (m.run fuel).2.Matches R (m'.run fuel).2 :=
  h.runFrom (h.machine_hear hm _ _) fuel 0

theorem act (h : Lockstep R rename) (hm : m.Matches R m') (a : Action) :
    (m'.act a).1 = (m.act a).1.map (·.mapFault rename) ∧
      (m.act a).2.Matches R (m'.act a).2 := by
  cases a with
  | step =>
    obtain ⟨out, stepped⟩ := h.step hm
    exact ⟨congrArg some out, stepped⟩
  | run fuel => exact h.run hm fuel

/-- Machines at related consoles stay in lockstep through any sequence of steps and runs. -/
theorem acts (h : Lockstep R rename) (hm : m.Matches R m') (as : List Action) :
    (m'.acts as).1 = (m.acts as).1.map (·.map (·.mapFault rename)) ∧
      (m.acts as).2.Matches R (m'.acts as).2 := by
  induction as generalizing m m' with
  | nil => exact ⟨rfl, hm⟩
  | cons a rest ih =>
    obtain ⟨out, acted⟩ := h.act hm a
    obtain ⟨outs, after⟩ := ih acted
    exact ⟨congr (congrArg List.cons out) outs, after⟩

end Lockstep

end LC3
