import LC3.Proofs.Run

/-! What a machine keeps. All that a run does is to tell its console notes, to poll it and to step,
so whatever survives these survives every run, however the run ends and whether or not it does. -/

namespace LC3

theorem Dialogue.run_keeps {C α : Type} [Console C] {I : C → Prop}
    (answer : ∀ q c, I c → I (Console.answer q c).2) (hear : ∀ n c, I c → I (Console.hear n c))
    (d : Dialogue α) {c : C} (h : I c) : I (d.run c).2 := by
  induction d generalizing c with
  | done a => exact h
  | fault f => exact h
  | endless => exact h
  | ask q next ih =>
    have answered := answer q c h
    rw [run]
    revert answered
    rcases Console.answer q c with ⟨f | a, c'⟩
    · exact id
    · exact fun answered => ih a answered
  | note n next ih => exact ih (hear n c h)

namespace Machine

variable {C : Type} [Console C]

/-- Nothing that a run is made of makes `I` false. -/
structure Keeps (I : Machine C → Prop) : Prop where
  hear : ∀ m n, I m → I (m.hear n)
  poll : ∀ m count, I m → I (m.poll count).2
  step : ∀ m, I m → I m.step.2

namespace Keeps

variable {I : Machine C → Prop}

theorem runFrom (h : Keeps I) {m : Machine C} (hm : I m) (fuel : Nat) (count : UInt32) :
    I (m.runFrom fuel count).2 := by
  induction fuel generalizing m count with
  | zero =>
    cases status : m.cpu.status with
    | halted => rwa [runFrom_halted status]
    | running => rwa [runFrom_zero status]
  | succ fuel ih =>
    cases status : m.cpu.status with
    | halted => rwa [runFrom_halted status]
    | running =>
      have polled := h.poll m count hm
      rw [runFrom_succ status]
      revert polled
      rcases m.poll count with ⟨_ | f, m₁⟩
      · intro polled
        have stepped := h.step m₁ polled
        revert stepped
        rcases step : m₁.step with ⟨_ | f | _, m₂⟩ <;> intro stepped <;> simp only [step]
        · exact ih stepped (count + 1)
        · exact h.hear m₂ _ stepped
        · exact stepped
      · exact id

theorem run (h : Keeps I) {m : Machine C} (hm : I m) (fuel : Nat) : I (m.run fuel).2 :=
  h.runFrom (h.hear m _ hm) fuel 0

theorem of_processor {I : Processor → Prop} (step : ∀ m : Machine C, I m.cpu → I m.step.2.cpu) :
    Keeps fun m : Machine C => I m.cpu where
  hear := fun _ _ h => h
  poll := by
    intro m count h
    unfold Machine.poll
    split
    · split <;> exact h
    · exact h
  step := step

/-- Nothing but its calls and notes reaches a console. -/
theorem of_console {I : C → Prop} (answer : ∀ q c, I c → I (Console.answer q c).2)
    (hear : ∀ n c, I c → I (Console.hear n c)) : Keeps fun m : Machine C => I m.console where
  hear := fun m n h => hear n m.console h
  poll := by
    intro m count h
    have answered := answer .interrupted m.console h
    unfold Machine.poll
    split
    · revert answered
      rcases Console.answer .interrupted m.console with ⟨_ | _ | _, c⟩
      · exact id
      · exact id
      · exact fun answered => hear .interrupted c answered
    · exact h
  step := by
    intro m h
    rw [step_console]
    exact Dialogue.run_keeps answer hear _ h

end Keeps

end Machine

end LC3
