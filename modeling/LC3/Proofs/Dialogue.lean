import LC3.Console.Recorded

/-! Dialogues with an arbitrary console. What a run hears back is a list of exchanges, and a run is
fail-stop: an exchange that fails is the last one, and its fault is how the run ends. Where every
exchange succeeds, how the run ends can be read off the leaves of the dialogue. -/

namespace LC3

/-- The fault of an exchange that failed. -/
def Exchange.error? (e : Exchange) : Option Fault :=
  match e.reply with
  | .ok _ => none
  | .error f => some f

/-- An exchange that fails is the last of `es`, and its fault is one that `ends` admits. -/
def FailStop (ends : Fault → Prop) (es : List Exchange) : Prop :=
  ∀ before e after f, es = before ++ e :: after → e.error? = some f → after = [] ∧ ends f

namespace FailStop

variable {ends : Fault → Prop} {es : List Exchange}

theorem nil : FailStop ends [] := by
  intro before e after f h
  simp at h

theorem of_error {e : Exchange} {f : Fault} (he : e.error? = some f) (hf : ends f) :
    FailStop ends [e] := by
  intro before e' after f' h he'
  cases before with
  | nil =>
    obtain ⟨rfl, rfl⟩ : e = e' ∧ [] = after := by simpa using h
    obtain rfl : f = f' := by rw [he] at he'; exact Option.some.inj he'
    exact ⟨rfl, hf⟩
  | cons b before => simp at h

theorem cons {e : Exchange} (he : e.error? = none) (h : FailStop ends es) :
    FailStop ends (e :: es) := by
  intro before e' after f hes he'
  cases before with
  | nil =>
    obtain ⟨rfl, -⟩ : e = e' ∧ es = after := by simpa using hes
    rw [he] at he'
    exact absurd he' (by simp)
  | cons b before =>
    obtain ⟨-, rfl⟩ : e = b ∧ es = before ++ e' :: after := by simpa using hes
    exact h before e' after f rfl he'

theorem append {es' : List Exchange} (hes : ∀ e ∈ es, e.error? = none) (h : FailStop ends es') :
    FailStop ends (es ++ es') := by
  induction es with
  | nil => exact h
  | cons e es ih =>
    exact cons (hes e (by simp)) (ih fun e he => hes e (by simp [he]))

theorem of_ok (hes : ∀ e ∈ es, e.error? = none) : FailStop ends es := by
  have := append hes (nil : FailStop ends [])
  rwa [List.append_nil] at this

theorem mono {ends' : Fault → Prop} (h : FailStop ends es) (hf : ∀ f, ends f → ends' f) :
    FailStop ends' es := fun before e after f hes he =>
  let ⟨ha, hef⟩ := h before e after f hes he
  ⟨ha, hf f hef⟩

/-- Where no fault is admitted, nothing failed. -/
theorem all_ok (h : FailStop ends es) (hf : ∀ f, ¬ ends f) : ∀ e ∈ es, e.error? = none := by
  intro e he
  obtain ⟨before, after, rfl⟩ := List.append_of_mem he
  cases hx : e.error? with
  | none => rfl
  | some f => exact absurd (h before e after f rfl hx).2 (hf f)

end FailStop

namespace Dialogue

variable {α β C : Type}

/-- However the console answers, only what `asks` allows is asked of it, and the run ends as `ends`
says unless a call fails. -/
def Within (ends : Outcome α → Prop) (asks : Call → Prop) : Dialogue α → Prop
  | done a => ends (.ok a)
  | fault f => ends (.fault f)
  | endless => ends .endless
  | ask q next => asks q ∧ ∀ a, (next a).Within ends asks
  | note _ next => next.Within ends asks

section Within

variable {ends ends' : Outcome α → Prop} {asks : Call → Prop} {d : Dialogue α}

theorem Within.bind {endsβ : Outcome β → Prop} {g : α → Dialogue β} (h : d.Within ends asks)
    (ok : ∀ a, ends (.ok a) → (g a).Within endsβ asks)
    (fault : ∀ f, ends (.fault f) → endsβ (.fault f)) (endless : ends .endless → endsβ .endless) :
    (d >>= g).Within endsβ asks := by
  induction d with
  | done a => exact ok a h
  | fault f => exact fault f h
  | endless => exact endless h
  | ask q next ih => exact ⟨h.1, fun a => ih a (h.2 a)⟩
  | note n next ih => exact ih h

theorem Within.mono (h : d.Within ends asks) (hends : ∀ out, ends out → ends' out) :
    d.Within ends' asks := by
  induction d with
  | done a => exact hends _ h
  | fault f => exact hends _ h
  | endless => exact hends _ h
  | ask q next ih => exact ⟨h.1, fun a => ih a (h.2 a)⟩
  | note n next ih => exact ih h

end Within

variable [Console C]

/-- What is asked in a run, and the replies. -/
def exchanges : Dialogue α → C → List Exchange
  | done _, _ | fault _, _ | endless, _ => []
  | ask q next, c =>
    match Console.answer q c with
    | (.ok a, c) => ⟨q, .ok a⟩ :: (next a).exchanges c
    | (.error f, _) => [⟨q, .error f⟩]
  | note n next, c => next.exchanges (Console.hear n c)

theorem exchanges_bind (d : Dialogue α) (g : α → Dialogue β) (c : C) :
    (d >>= g).exchanges c = d.exchanges c ++
      match d.run c with
      | (.ok a, c) => (g a).exchanges c
      | (.fault _, _) | (.endless, _) => [] := by
  induction d generalizing c with
  | done a => rfl
  | fault f => rfl
  | endless => rfl
  | ask q next ih =>
    rw [run, exchanges]
    change (ask q fun a => next a >>= g).exchanges c = _
    rw [exchanges]
    rcases Console.answer q c with ⟨f | a, c'⟩
    · rfl
    · exact congrArg _ (ih a c')
  | note n next ih => exact ih _

theorem failStop (d : Dialogue α) (c : C) :
    FailStop (fun f => (d.run c).1 = .fault f) (d.exchanges c) := by
  induction d generalizing c with
  | done a => exact .nil
  | fault f => exact .nil
  | endless => exact .nil
  | ask q next ih =>
    rw [exchanges, run]
    rcases Console.answer q c with ⟨_ | a, c'⟩
    · exact .of_error rfl rfl
    · exact .cons rfl (ih a c')
  | note n next ih => exact ih _

theorem Within.run {ends : Outcome α → Prop} {asks : Call → Prop} {d : Dialogue α}
    (h : d.Within ends asks) (c : C) (ok : ∀ e ∈ d.exchanges c, e.error? = none) :
    ends (d.run c).1 := by
  induction d generalizing c with
  | done a => exact h
  | fault f => exact h
  | endless => exact h
  | ask q next ih =>
    rw [Dialogue.exchanges] at ok
    rw [Dialogue.run]
    revert ok
    rcases Console.answer q c with ⟨f | a, c'⟩
    · intro ok
      exact absurd (ok ⟨q, .error f⟩ (by simp)) (by simp [Exchange.error?])
    · intro ok
      exact ih a (h.2 a) c' fun e he => ok e (by simp [he])
  | note n next ih => exact ih h _ ok

/-- No failing call makes a run endless, so the dialogue is. -/
theorem Within.of_run_endless {ends : Outcome α → Prop} {asks : Call → Prop} {d : Dialogue α}
    (h : d.Within ends asks) (c : C) (endless : (d.run c).1 = .endless) : ends .endless := by
  induction d generalizing c with
  | done a => exact absurd endless (by simp [Dialogue.run])
  | fault f => exact absurd endless (by simp [Dialogue.run])
  | endless => exact h
  | ask q next ih =>
    rw [Dialogue.run] at endless
    revert endless
    rcases Console.answer q c with ⟨f | a, c'⟩
    · intro endless
      cases endless
    · exact ih a (h.2 a) c'
  | note n next ih => exact ih h _ endless

theorem Within.exchanges {ends : Outcome α → Prop} {asks : Call → Prop} {d : Dialogue α}
    (h : d.Within ends asks) (c : C) : ∀ e ∈ d.exchanges c, asks e.call := by
  induction d generalizing c with
  | done a => simp [Dialogue.exchanges]
  | fault f => simp [Dialogue.exchanges]
  | endless => simp [Dialogue.exchanges]
  | ask q next ih =>
    rw [Dialogue.exchanges]
    rcases Console.answer q c with ⟨f | a, c'⟩
    · simpa using h.1
    · simpa using ⟨h.1, ih a (h.2 a) c'⟩
  | note n next ih => exact ih h _

/-- Recording changes nothing about a run, and keeps exactly its exchanges. -/
theorem run_recorded (d : Dialogue α) (r : Recorded C) :
    (d.run r).1 = (d.run r.console).1 ∧ (d.run r).2.console = (d.run r.console).2 ∧
      (d.run r).2.exchanges.toList = r.exchanges.toList ++ d.exchanges r.console := by
  induction d generalizing r with
  | done a => exact ⟨rfl, rfl, by simp [exchanges, run]⟩
  | fault f => exact ⟨rfl, rfl, by simp [exchanges, run]⟩
  | endless => exact ⟨rfl, rfl, by simp [exchanges, run]⟩
  | ask q next ih =>
    rw [run, run, exchanges]
    obtain ⟨console, es⟩ := r
    simp only [Console.answer, Recorded.answer]
    rcases Console.answer q console with ⟨f | a, c'⟩
    · exact ⟨rfl, rfl, by simp⟩
    · obtain ⟨h₁, h₂, h₃⟩ := ih a ⟨c', es.push ⟨q, .ok a⟩⟩
      exact ⟨h₁, h₂, by simpa using h₃⟩
  | note n next ih => exact ih _

@[simp] theorem run_pure (a : α) (c : C) : (pure a : Dialogue α).run c = (.ok a, c) := rfl

theorem run_pure_eq_ok {a b : α} {c c' : C} :
    (pure a : Dialogue α).run c = (.ok b, c') ↔ a = b ∧ c = c' := by simp

@[simp] theorem run_fault (f : Fault) (c : C) : (fault f : Dialogue α).run c = (.fault f, c) := rfl

@[simp] theorem run_tell_bind (n : Note) (g : Unit → Dialogue β) (c : C) :
    (tell n >>= g).run c = (g ()).run (Console.hear n c) := rfl

theorem run_bind_eq_ok {d : Dialogue α} {g : α → Dialogue β} {c c' : C} {b : β} :
    (d >>= g).run c = (.ok b, c') ↔
      ∃ a c₁, d.run c = (.ok a, c₁) ∧ (g a).run c₁ = (.ok b, c') := by
  rw [show d >>= g = d.bind g from rfl, run_bind]
  rcases d.run c with ⟨_ | _ | _, c₁⟩ <;> simp [and_assoc]

theorem run_bind_fault {d : Dialogue α} {c c' : C} {f : Fault} (h : d.run c = (.fault f, c'))
    (g : α → Dialogue β) : (d >>= g).run c = (.fault f, c') := by
  rw [show d >>= g = d.bind g from rfl, run_bind, h]

section Ask

variable {q : Call} {next : q.Answer → Dialogue α} {c c' : C} {a : q.Answer} {f : Fault}

theorem run_ask_ok (answered : Console.answer q c = (.ok a, c')) :
    (ask q next).run c = (next a).run c' := by
  rw [run, answered]

theorem run_ask_error (answered : Console.answer q c = (.error f, c')) :
    (ask q next).run c = (.fault f, c') := by
  rw [run, answered]

theorem exchanges_ask_ok (answered : Console.answer q c = (.ok a, c')) :
    (ask q next).exchanges c = ⟨q, .ok a⟩ :: (next a).exchanges c' := by
  rw [exchanges, answered]

theorem exchanges_ask_error (answered : Console.answer q c = (.error f, c')) :
    (ask q next).exchanges c = [⟨q, .error f⟩] := by
  rw [exchanges, answered]

end Ask

theorem run_readByte_eq_ok {c c' : C} {b : Byte} :
    readByte.run c = (.ok b, c') ↔ Console.answer .readByte c = (.ok b, c') := by
  rw [readByte, run]
  split <;> simp_all [run]

end Dialogue

end LC3
