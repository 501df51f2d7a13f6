import LC3.Proofs.Ending
import LC3.Proofs.Invariant
import LC3.Proofs.TerminalHistory

/-! Control and `c` at a terminal. The call that takes it from the device tells of it at once, which
ends the run, and every later call tells of it again: no byte comes through any more, not even one
typed before. -/

namespace LC3

def Call.Looks (q : Call) : Prop := q = .inputReady ∨ q = .readByte ∨ q = .interrupted

/-- A call tells of a request to stop: it fails with it, or says so if that was asked. A failure of
the device, met last of all it took, comes before it. -/
inductive Served.Tells : Served → Fault → Prop where
  | inputReady {taken : List Arrival} (works : Inbox.Drains taken (.ok ())) :
    Tells ⟨⟨.inputReady, .error .interrupted⟩, taken⟩ .interrupted
  | readByte {taken : List Arrival} (works : Inbox.Drains taken (.ok ())) :
    Tells ⟨⟨.readByte, .error .interrupted⟩, taken⟩ .interrupted
  | interrupted {taken : List Arrival} (works : Inbox.Drains taken (.ok ())) :
    Tells ⟨⟨.interrupted, .ok true⟩, taken⟩ .interrupted
  | fails {q : Call} {taken : List Arrival} {error : HostError}
      (drains : q = .inputReady ∨ q = .interrupted) (fails : Inbox.Drains taken (.error error)) :
    Tells ⟨⟨q, .error (.host error)⟩, taken⟩ (.host error)

namespace Served.Tells

variable {s : Served} {f : Fault}

theorem bytes (h : s.Tells f) : s.exchange.bytes = [] := by
  cases h with
  | fails drains => obtain rfl | rfl := drains <;> rfl
  | _ => rfl

theorem ends (h : s.Tells f) : s.exchange.Ends f := by
  cases h with
  | interrupted => exact .stop
  | _ => exact .failed _

end Served.Tells

namespace Terminal

theorem looks_of_mem {t t' : Terminal} {q : Call} {reply : q.Reply} {taken : List Arrival}
    (answered : answer q t = (reply, t')) (took : t.tty.arrivals = taken ++ t'.tty.arrivals)
    {a : Arrival} (ha : a ∈ taken) : q.Looks := by
  have quiet (h : (answer q t).2.tty = t.tty) : False := by
    rw [answered] at h
    rw [h, List.self_eq_append_left] at took
    exact List.ne_nil_of_mem ha took
  cases q with
  | inputReady => exact .inl rfl
  | readByte => exact .inr (.inl rfl)
  | interrupted => exact .inr (.inr rfl)
  | write bytes => exact (quiet rfl).elim
  | flush => exact (quiet rfl).elim

theorem answer_tells (t : Terminal) (q : Call) : ∃ taken,
    t.tty.arrivals = taken ++ (answer q t).2.tty.arrivals ∧
      ((answer q t).2.inbox.interrupted = true → q.Looks →
        ∃ f, Served.Tells ⟨⟨q, (answer q t).1⟩, taken⟩ f) := by
  cases q with
  | inputReady =>
    obtain ⟨taken, split, -, ⟨works, reply⟩ | ⟨error, fails, reply⟩⟩ := t.drained_takes _
    · refine ⟨taken, split, fun set _ => ?_⟩
      have reply : (answer .inputReady t).1 = .error .interrupted := reply.trans (if_pos set)
      rw [reply]
      exact ⟨_, .inputReady works⟩
    · refine ⟨taken, split, fun _ _ => ⟨.host error, ?_⟩⟩
      have reply : (answer .inputReady t).1 = .error (.host error) := reply
      rw [reply]
      exact .fails (.inl rfl) fails
  | readByte =>
    obtain ⟨taken, split, reads⟩ := t.readByte_takes
    refine ⟨taken, split, fun set _ => ?_⟩
    obtain ⟨works, reply⟩ := reads.of_interrupted set
    rw [reply]
    exact ⟨_, .readByte works⟩
  | write bytes => exact ⟨[], rfl, fun _ looks => by simp [Call.Looks] at looks⟩
  | flush => exact ⟨[], rfl, fun _ looks => by simp [Call.Looks] at looks⟩
  | interrupted =>
    obtain ⟨taken, split, -, ⟨works, reply⟩ | ⟨error, fails, reply⟩⟩ := t.drained_takes _
    · refine ⟨taken, split, fun set _ => ?_⟩
      have reply : (answer .interrupted t).1 = .ok true := reply.trans (congrArg Except.ok set)
      rw [reply]
      exact ⟨_, .interrupted works⟩
    · refine ⟨taken, split, fun _ _ => ⟨.host error, ?_⟩⟩
      have reply : (answer .interrupted t).1 = .error (.host error) := reply
      rw [reply]
      exact .fails (.inr rfl) fails

theorem stopped_of_answer {t t' : Terminal} {q : Call} {reply : q.Reply} {taken : List Arrival}
    (answered : answer q t = (reply, t')) (took : t.tty.arrivals = taken ++ t'.tty.arrivals)
    (set : t'.inbox.interrupted = true) :
    Exchange.bytes ⟨q, reply⟩ = [] ∧ (q.Looks → ∃ f, Served.Tells ⟨⟨q, reply⟩, taken⟩ f) := by
  obtain ⟨taken', split, tells⟩ := t.answer_tells q
  rw [answered] at split tells
  rw [List.append_cancel_right (took.symm.trans split)]
  refine ⟨?_, tells set⟩
  by_cases looks : q.Looks
  · obtain ⟨f, tells⟩ := tells set looks
    exact tells.bytes
  · cases q with
    | readByte => exact absurd (.inr (.inl rfl)) looks
    | _ => rfl

namespace History

variable {t₀ t : Terminal} {past : List Served} {s : Served}

theorem interrupted_of_mem (h : History t₀ past t) (hs : s ∈ past)
    (stop : ∃ a ∈ s.taken, a.Interrupts) : t.inbox.interrupted = true := by
  obtain ⟨a, ha, stops⟩ := stop
  exact h.accounts.interrupted.2 (.inr ⟨a, List.mem_flatMap.2 ⟨s, hs, ha⟩, stops⟩)

theorem tells (h : History t₀ past t) (hs : s ∈ past) (stop : ∃ a ∈ s.taken, a.Interrupts) :
    ∃ f, s.Tells f := by
  induction h with
  | start => exact absurd hs List.not_mem_nil
  | arrive _ _ ih => exact ih hs
  | @ask past t t' q reply taken before answered took ih =>
    obtain earlier | here := List.mem_append.1 hs
    · exact ih earlier
    · have set := (before.ask answered took).interrupted_of_mem hs stop
      obtain rfl := List.mem_singleton.1 here
      obtain ⟨a, ha, -⟩ := stop
      exact (stopped_of_answer answered took set).2 (looks_of_mem answered took ha)

theorem stopped (h : History t₀ past t) (set : t₀.inbox.interrupted = true) :
    ∀ s ∈ past, s.exchange.bytes = [] ∧ (s.exchange.call.Looks → ∃ f, s.Tells f) := by
  induction h with
  | start => simp
  | arrive _ _ ih => exact ih
  | ask before answered took ih =>
    have kept := (before.ask answered took).accounts.interrupted.2 (.inl set)
    exact List.forall_mem_append.2
      ⟨ih, List.forall_mem_singleton.2 (stopped_of_answer answered took kept)⟩

end History

end Terminal

namespace Machine

theorem run_history (m : Machine (Recorded Terminal)) (fuel : Nat) : ∃ past,
    (m.run fuel).2.console.exchanges.toList =
        m.console.exchanges.toList ++ past.map Served.exchange ∧
      Terminal.History m.console.console past (m.run fuel).2.console.console := by
  let I (r : Recorded Terminal) : Prop := ∃ past,
    r.exchanges.toList = m.console.exchanges.toList ++ past.map Served.exchange ∧
      Terminal.History m.console.console past r.console
  have keeps : Keeps fun m : Machine (Recorded Terminal) => I m.console := by
    refine .of_console ?_ fun _ _ h => h
    intro q r ⟨past, asked, history⟩
    obtain ⟨taken, history⟩ := history.asked q
    have added : (Console.answer q r).2.exchanges.toList =
        r.exchanges.toList ++ [⟨q, (Console.answer q r).1⟩] := exchanges_answer rfl
    refine ⟨_, ?_, history⟩
    rw [added, asked, List.map_append, List.append_assoc]
    rfl
  exact keeps.run (I := fun m => I m.console) ⟨[], by simp, .start⟩ fuel

/-- The call in a run that takes control and `c` from the device is the last one. It tells of it,
the run ends with the fault it tells, and all instructions carried out were over before it. Whatever
is asked of the terminal afterwards, and whatever else arrives there, no byte comes through any more
and each call that looks at what has arrived tells of the request again. -/
theorem interruption_of_run (m : Machine (Recorded Terminal)) (fuel : Nat) :
    m.unrecorded.run fuel = ((m.run fuel).1, (m.run fuel).2.unrecorded) ∧ ∃ past,
      (m.run fuel).2.console.exchanges.toList =
          m.console.exchanges.toList ++ past.map Served.exchange ∧
        Terminal.History m.console.console past (m.run fuel).2.console.console ∧
        ∀ before s after, past = before ++ s :: after → (∃ a ∈ s.taken, a.Interrupts) →
          after = [] ∧
          (∃ f, s.Tells f ∧ (m.run fuel).1 = some (.fault f) ∧ ∃ k mk asked,
            After m.begun k mk ∧ Stops k mk (.fault f) (m.run fuel).2 ∧
              mk.console.exchanges.toList = m.console.exchanges.toList ++ asked ∧
              asked <+: before.map Served.exchange) ∧
          ∀ later t, Terminal.History (m.run fuel).2.console.console later t → ∀ s' ∈ later,
            s'.exchange.bytes = [] ∧ (s'.exchange.call.Looks → ∃ f, s'.Tells f) := by
  obtain ⟨past, asked, history⟩ := m.run_history fuel
  refine ⟨run_unrecorded m fuel, past, asked, history, ?_⟩
  rintro before s after rfl stop
  have hs : s ∈ before ++ s :: after := by simp
  obtain ⟨f, tells⟩ := history.tells hs stop
  rw [List.map_append, List.map_cons] at asked
  obtain ⟨nothing, out, ended⟩ := run_ends asked tells.ends
  exact ⟨List.map_eq_nil_iff.1 nothing, ⟨f, tells, out, ended⟩, fun later t h =>
    h.stopped (history.interrupted_of_mem hs stop)⟩

def letterThenStop : List Arrival :=
  [.event (.key ⟨.char 'a', .none, .press⟩), .event (.key ⟨.char 'c', .onlyCtrl, .press⟩)]

/-- About to halt, at a terminal where these keys have been typed. -/
def stoppedTyping : Machine (Recorded Terminal) where
  cpu := .single 0x3000 0xF025
  console := .ofConsole ⟨⟨letterThenStop, true, false, false⟩, ⟨[], false⟩, #[]⟩
  style := .plain

/-- The poll before the first instruction takes both, and the `a` is never read. -/
theorem interruption_of_run_stoppedTyping :
    (stoppedTyping.run 1).1 = some (.fault .interrupted) ∧
      (stoppedTyping.run 1).2.console.console.inbox.pending = [0x61] ∧
      ∀ later t, Terminal.History (stoppedTyping.run 1).2.console.console later t →
        ∀ s ∈ later, s.exchange.bytes = [] := by
  have stops : Stops 0 stoppedTyping.begun (.fault .interrupted) _ := .interrupted rfl (by simp) rfl
  have run : stoppedTyping.run 1 = _ := stops.runFrom 0
  obtain ⟨-, past, asked, history, ends⟩ := interruption_of_run stoppedTyping 1
  rw [run] at asked history ends ⊢
  obtain ⟨s, rfl, -⟩ : ∃ s, past = [s] ∧ s.exchange = ⟨.interrupted, .ok true⟩ :=
    List.map_eq_singleton_iff.1 asked.symm
  have stop : ∃ a ∈ s.taken, a.Interrupts := by
    simpa [Terminal.takenBy] using (history.accounts.interrupted.1 rfl).resolve_left (by decide)
  obtain ⟨-, -, stopped⟩ := ends [] s [] rfl stop
  exact ⟨rfl, rfl, fun later t h s hs => (stopped later t h s hs).1⟩

end Machine

end LC3
