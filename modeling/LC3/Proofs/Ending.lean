import LC3.Proofs.Run

/-! The exchange that ends a run. A call that fails and a poll that asks for a stop are the last
thing said in a run, and the instruction they fall into is not carried out. -/

namespace LC3

/-- What is not in the first part of a list stands behind all of it. -/
theorem split_right {α : Type} {xs ys before after : List α} {x : α}
    (h : xs ++ ys = before ++ x :: after) (hx : x ∉ xs) :
    ∃ rest, before = xs ++ rest ∧ ys = rest ++ x :: after := by
  obtain ⟨rest, rfl, right⟩ | ⟨rest, rfl, right⟩ := List.append_eq_append_iff.1 h
  · exact ⟨rest, rfl, right⟩
  · cases rest with
    | nil => exact ⟨[], by simp, right.symm⟩
    | cons x' rest =>
      obtain ⟨rfl, -⟩ := List.cons.inj right
      exact absurd (List.mem_append_right before List.mem_cons_self) hx

/-- A call fails, or a poll asks for a stop. -/
inductive Exchange.Ends : Exchange → Fault → Prop where
  | failed {q : Call} (f : Fault) : Ends ⟨q, .error f⟩ f
  | stop : Ends ⟨.interrupted, .ok true⟩ .interrupted

/-- None of these exchanges ends a run. -/
def GoesOn (es : List Exchange) : Prop := ∀ e ∈ es, ∀ f, ¬ e.Ends f

/-- An exchange that ends a run is the last of `es`, and `out` is its fault. -/
def EndStop (out : Outcome Unit) (es : List Exchange) : Prop :=
  ∀ before e after f, es = before ++ e :: after → e.Ends f → after = [] ∧ out = .fault f

namespace EndStop

variable {es es' : List Exchange} {e : Exchange} {out : Outcome Unit}

theorem append (hes : GoesOn es) (h : EndStop out es') : EndStop out (es ++ es') := by
  intro before e after f split ends
  obtain ⟨rest, -, split⟩ := split_right split fun he => hes e he f ends
  exact h rest e after f split ends

theorem of_goesOn (hes : GoesOn es) : EndStop out es := by
  rintro before e after f rfl ends
  exact absurd ends (hes e (by simp) f)

theorem singleton (h : ∀ f, e.Ends f → out = .fault f) : EndStop out [e] := by
  intro before e' after f split ends
  cases before with
  | nil =>
    obtain ⟨rfl, rfl⟩ : e = e' ∧ [] = after := by simpa using split
    exact ⟨rfl, h f ends⟩
  | cons b before => simp at split

theorem goesOn (h : EndStop (.ok ()) es) : GoesOn es := by
  intro e he f ends
  obtain ⟨before, after, rfl⟩ := List.append_of_mem he
  exact nomatch (h before e after f rfl ends).2

end EndStop

namespace Machine

variable {C : Type} [Console C] {m m' : Machine (Recorded C)} {k : Nat} {out : Outcome Unit}

theorem step_endStop (m : Machine (Recorded C)) :
    EndStop m.step.1 ((m.cpu.cycle m.style).exchanges m.console.console) := by
  intro before e after f split ends
  cases ends with
  | failed f => exact step_failStop m before _ after f split rfl
  | stop =>
    -- no instruction polls
    have polls := (m.cpu.cycle_within m.style).exchanges m.console.console
      ⟨.interrupted, .ok true⟩ (by simp [split])
    exact absurd rfl polls

theorem Polled.goesOn (h : Polled k m m') :
    ∃ es, m'.console.exchanges.toList = m.console.exchanges.toList ++ es ∧ GoesOn es := by
  cases h with
  | due _ answer =>
    refine ⟨_, exchanges_answer answer, fun e he f ends => ?_⟩
    obtain rfl := List.mem_singleton.1 he
    exact nomatch ends
  | skipped => exact ⟨[], by simp, by simp [GoesOn]⟩

theorem Polled.endStop {m₁ m₂ : Machine (Recorded C)} (polled : Polled k m m₁)
    (step : m₁.step = (out, m₂)) :
    ∃ es, m₂.console.exchanges.toList = m.console.exchanges.toList ++ es ∧ EndStop out es := by
  obtain ⟨poll, hpoll, goesOn⟩ := polled.goesOn
  have asked := step_exchanges m₁
  have endStop := step_endStop m₁
  rw [step] at asked endStop
  exact ⟨_, by rw [asked, hpoll, List.append_assoc], endStop.append goesOn⟩

theorem After.goesOn (h : After m k m') :
    ∃ es, m'.console.exchanges.toList = m.console.exchanges.toList ++ es ∧ GoesOn es := by
  induction h with
  | start => exact ⟨[], by simp, by simp [GoesOn]⟩
  | next _ _ polled step ih =>
    obtain ⟨es, asked, goesOn⟩ := ih
    obtain ⟨es', asked', endStop⟩ := polled.endStop step
    exact ⟨es ++ es', by rw [asked', asked, List.append_assoc],
      List.forall_mem_append.2 ⟨goesOn, endStop.goesOn⟩⟩

theorem Stops.endStop (h : Stops k m out m') :
    ∃ es, m'.console.exchanges.toList = m.console.exchanges.toList ++ es ∧ EndStop out es := by
  cases h with
  | halted => exact ⟨[], by simp, .of_goesOn (by simp [GoesOn])⟩
  | interrupted _ _ answer =>
    have asked := exchanges_answer answer
    refine ⟨[⟨.interrupted, .ok true⟩], asked, .singleton fun f ends => ?_⟩
    cases ends
    rfl
  | pollFailed _ _ answer =>
    refine ⟨_, exchanges_answer answer, .singleton fun f ends => ?_⟩
    cases ends
    rfl
  | fault _ polled step =>
    obtain ⟨es, asked, endStop⟩ := polled.endStop step
    exact ⟨es, asked, endStop⟩
  | endless _ polled step => exact polled.endStop step

/-- Nothing is said after the exchange that ends a run, its fault is how the run ends, and all
instructions carried out were over before it. -/
theorem run_ends {fuel : Nat} {before after : List Exchange} {e : Exchange} {f : Fault}
    (asked : (m.run fuel).2.console.exchanges.toList =
      m.console.exchanges.toList ++ (before ++ e :: after)) (ends : e.Ends f) :
    after = [] ∧ (m.run fuel).1 = some (.fault f) ∧ ∃ k mk past,
      After m.begun k mk ∧ Stops k mk (.fault f) (m.run fuel).2 ∧
        mk.console.exchanges.toList = m.console.exchanges.toList ++ past ∧ past <+: before := by
  have gives : Gives m.begun fuel (m.run fuel) := run_eq_iff.1 rfl
  rcases run : m.run fuel with ⟨_ | out, m'⟩
  · rw [run] at gives asked
    obtain ⟨es, asked', goesOn⟩ := gives.1.goesOn
    obtain rfl : before ++ e :: after = es := List.append_cancel_left (asked.symm.trans asked')
    exact absurd ends (goesOn e (by simp) f)
  · rw [run] at gives asked
    obtain ⟨k, mk, after', stops, -⟩ := gives
    obtain ⟨past, asked₁, goesOn⟩ := after'.goesOn
    obtain ⟨es, asked₂, endStop⟩ := stops.endStop
    have split : past ++ es = before ++ e :: after := by
      rw [asked₁, List.append_assoc] at asked₂
      exact List.append_cancel_left (asked₂.symm.trans asked)
    obtain ⟨rest, rfl, rfl⟩ := split_right split fun he => goesOn e he f ends
    obtain ⟨rfl, rfl⟩ := endStop rest e after f rfl ends
    exact ⟨rfl, rfl, k, mk, past, after', stops, asked₁, List.prefix_append past rest⟩

end Machine

end LC3
