import LC3.Console.Buffered
import LC3.Proofs.LineFeeds
import LC3.Proofs.Lockstep

/-! A machine at a terminal against the same machine at a console in memory. The terminal takes
events at polls and looks all at once and at reads one by one, the other console holds bytes, but as
long as every arrival is an event that stops nothing, the bytes pending and the bytes still to be
typed are together the input in memory. Only the fault of a read of exhausted input has another
name. -/

namespace LC3

/-- How the end of input is reported at a terminal: by the failure of its device. -/
def Fault.atTerminal : Fault → Fault
  | .inputClosed => .host Tty.exhausted
  | f => f

theorem Fault.atTerminal_of_illegal {a w : Word} {f : Fault} (h : Isa.Illegal a w f) :
    f.atTerminal = f := by
  cases h <;> rfl

/-- An event, and not one that asks for a stop. -/
def Arrival.Calm : Arrival → Prop
  | .event e => ¬ e.Interrupts
  | _ => False

namespace Inbox

theorem drain_of_calm {arrivals : List Arrival} (calm : ∀ a ∈ arrivals, a.Calm) (inbox : Inbox) :
    ∃ inbox', inbox.drain arrivals = (.ok (), inbox', []) ∧
      inbox.Accounts arrivals [] inbox' := by
  induction arrivals generalizing inbox with
  | nil => exact ⟨inbox, rfl, .refl inbox⟩
  | cons a rest ih =>
    obtain ⟨first, others⟩ := List.forall_mem_cons.1 calm
    cases a with
    | gap => exact first.elim
    | failure error => exact first.elim
    | event e =>
      obtain ⟨inbox', drained, accounts⟩ := ih others (inbox.put e)
      exact ⟨inbox', drained, (Accounts.put inbox e).trans accounts⟩

theorem Accounts.clear {inbox inbox' : Inbox} {taken : List Arrival} {delivered : List Byte}
    (h : inbox.Accounts taken delivered inbox') (calm : ∀ a ∈ taken, a.Calm)
    (clear : inbox.interrupted = false) : inbox'.interrupted = false := by
  refine Bool.eq_false_iff.2 fun set => ?_
  obtain set | ⟨a, ha, stops⟩ := h.interrupted.1 set
  · exact nomatch clear.symm.trans set
  · cases a with
    | event e => exact calm _ ha stops
    | _ => exact stops

/-- Where nothing fails and nothing stops it, a read gets a byte or has come to the end. -/
theorem Reads.of_calm {inbox inbox' : Inbox} {taken rest : List Arrival}
    {reply : Except Fault Byte} (h : inbox.Reads taken rest reply inbox')
    (calm : ∀ a ∈ taken, a.Calm) (clear : inbox.interrupted = false) :
    (∃ b, reply = .ok b) ∨
      reply = .error (.host Tty.exhausted) ∧ inbox'.pending = [] ∧ rest = [] := by
  cases h with
  | interrupted set => exact nomatch clear.symm.trans set
  | pending => exact .inl ⟨_, rfl⟩
  | types => exact .inl ⟨_, rfl⟩
  | @stops before _ e _ _ interrupts =>
    have last : ¬ e.Interrupts := calm (.event e) (by simp)
    exact absurd interrupts last
  | @fails before _ error => exact (calm (.failure error) (by simp)).elim
  | exhausts empty => exact .inr ⟨rfl, congrArg Inbox.pending empty, rfl⟩

/-- A read takes the first byte of those pending and yet to be typed. -/
theorem read_of_calm {inbox : Inbox} {arrivals : List Arrival} (calm : ∀ a ∈ arrivals, a.Calm)
    (clear : inbox.interrupted = false) : ∃ reply inbox' rest,
    inbox.read arrivals = (reply, inbox', rest) ∧ inbox'.interrupted = false ∧
      (∀ a ∈ rest, a.Calm) ∧
      ((∃ b, reply = .ok b ∧
          inbox.pending ++ typed arrivals = b :: (inbox'.pending ++ typed rest)) ∨
        reply = .error (.host Tty.exhausted) ∧ inbox.pending ++ typed arrivals = [] ∧
          inbox'.pending ++ typed rest = []) := by
  obtain ⟨taken, split, reads⟩ := inbox.read_takes arrivals
  generalize inbox.read arrivals = result at split reads ⊢
  obtain ⟨reply, inbox', rest⟩ := result
  obtain rfl : arrivals = taken ++ rest := split
  obtain ⟨taken_calm, rest_calm⟩ := List.forall_mem_append.1 calm
  have accounts := reads.accounts
  have whole : inbox.pending ++ typed (taken ++ rest) =
      received reply ++ (inbox'.pending ++ typed rest) := by
    calc
      _ = inbox.pending ++ typed taken ++ typed rest := by rw [typed_append, List.append_assoc]
      _ = received reply ++ inbox'.pending ++ typed rest := by rw [accounts.bytes]
      _ = _ := List.append_assoc ..
  refine ⟨reply, inbox', rest, rfl, accounts.clear taken_calm clear, rest_calm, ?_⟩
  obtain ⟨b, rfl⟩ | ⟨rfl, none, rfl⟩ := reads.of_calm taken_calm clear
  · exact .inl ⟨b, rfl, whole⟩
  · have left : inbox'.pending ++ typed [] = [] := (List.append_nil _).trans none
    exact .inr ⟨rfl, whole.trans left, left⟩

end Inbox

namespace Terminal

/-- A console in memory and a terminal with the same bytes to come and the same output, but for its
carriage returns. -/
structure Mirrors (b : Buffered) (t : Terminal) : Prop where
  input : t.inbox.pending ++ typed t.tty.arrivals = b.input
  output : t.output.toList = crlf b.output.toList
  calm : ∀ a ∈ t.tty.arrivals, a.Calm
  clear : t.inbox.interrupted = false
  quiet : b.interrupted = false

namespace Mirrors

variable {b : Buffered} {t : Terminal}

theorem drained (h : Mirrors b t) {α : Type} (reply : Inbox → Except Fault α) :
    (t.drained reply).1 = reply ⟨b.input, false⟩ ∧ Mirrors b (t.drained reply).2 := by
  obtain ⟨inbox, drains, accounts⟩ := t.inbox.drain_of_calm h.calm
  have pending : inbox.pending = b.input := by rw [← h.input, ← accounts.bytes, List.nil_append]
  have clear : inbox.interrupted = false := accounts.clear h.calm h.clear
  unfold Terminal.drained
  rw [drains]
  have whole : inbox = ⟨b.input, false⟩ := congr (congrArg Inbox.mk pending) clear
  refine ⟨congrArg reply whole, ?_, h.output, ?_, clear, h.quiet⟩
  · exact (List.append_nil _).trans pending
  · exact List.forall_mem_nil Arrival.Calm

theorem readByte (h : Mirrors b t) :
    (answer .readByte t).1 = (Buffered.answer .readByte b).1.mapError Fault.atTerminal ∧
      Mirrors (Buffered.answer .readByte b).2 (answer .readByte t).2 := by
  obtain ⟨reply, inbox, arrivals, read, clear, calm, next⟩ := Inbox.read_of_calm h.calm h.clear
  have answered : answer .readByte t =
      (reply, { t with tty := { t.tty with arrivals }, inbox }) := by
    rw [answer, read]
  rw [answered]
  rw [h.input] at next
  obtain ⟨input, output, interrupted⟩ := b
  obtain ⟨first, rfl, rfl⟩ | ⟨rfl, rfl, left⟩ := next
  · exact ⟨rfl, rfl, h.output, calm, clear, h.quiet⟩
  · exact ⟨rfl, left, h.output, calm, clear, h.quiet⟩

theorem readByte_exhausted (h : Mirrors b t) (none : b.input = []) :
    (Buffered.answer .readByte b).1 = .error .inputClosed ∧
      (answer .readByte t).1 = .error (.host Tty.exhausted) := by
  have closed : (Buffered.answer .readByte b).1 = .error .inputClosed := by
    rw [Buffered.answer, none]
  refine ⟨closed, h.readByte.1.trans ?_⟩
  rw [closed]
  rfl

theorem write (h : Mirrors b t) (bytes : List Byte) :
    Mirrors (Buffered.answer (.write bytes) b).2 (answer (.write bytes) t).2 where
  input := h.input
  output := by
    change (writeLines t.output bytes).toList = crlf (b.output ++ bytes).toList
    rw [toList_writeLines, Array.toList_appendList, crlf_append, h.output]
  calm := h.calm
  clear := h.clear
  quiet := h.quiet

theorem answer (h : Mirrors b t) (q : Call) :
    (Terminal.answer q t).1 = (Buffered.answer q b).1.mapError Fault.atTerminal ∧
      Mirrors (Buffered.answer q b).2 (Terminal.answer q t).2 := by
  cases q with
  | inputReady => exact h.drained _
  | readByte => exact h.readByte
  | write bytes => exact ⟨rfl, h.write bytes⟩
  | flush => exact ⟨rfl, h⟩
  | interrupted =>
    obtain ⟨reply, after⟩ := h.drained fun inbox => .ok inbox.interrupted
    refine ⟨reply.trans ?_, after⟩
    exact congrArg (Except.ok (ε := Fault)) h.quiet.symm

end Mirrors

theorem lockstep : Lockstep Mirrors Fault.atTerminal where
  answer q h := h.answer q
  hear _ _ h := h
  illegal := Fault.atTerminal_of_illegal
  interrupted := rfl

theorem mirrors_start {script : List Event} (calm : ∀ e ∈ script, ¬ e.Interrupts) {tty : Tty}
    {t : Terminal} (arrived : tty.arrivals = script.map .event)
    (started : Terminal.start tty = .ok t) :
    Mirrors (.ofInput (script.flatMap Event.bytes)) t := by
  obtain rfl := eq_of_start started
  refine ⟨?_, rfl, ?_, rfl, rfl⟩
  · change typed tty.arrivals = _
    rw [arrived, typed, List.flatMap_map]
    rfl
  · change ∀ a ∈ tty.arrivals, a.Calm
    rw [arrived]
    exact List.forall_mem_map.2 calm

end Terminal

/-- The only call of a console in memory that fails is a read of exhausted input. -/
theorem Buffered.exhausted_of_answer {q : Call} {b b' : Buffered} {f : Fault}
    (h : answer q b = (.error f, b')) : b'.input = [] := by
  obtain ⟨_ | ⟨first, more⟩, output, interrupted⟩ := b
  · cases q with
    | readByte =>
      obtain ⟨-, rfl⟩ := Prod.mk.inj h
      rfl
    | _ => exact nomatch h
  · cases q <;> exact nomatch h

theorem Dialogue.Within.exhausted {α : Type} {d : Dialogue α} {asks : Call → Prop}
    (own : d.Within Outcome.OnlyIllegal asks) {b : Buffered}
    (h : (d.run b).1 = .fault .inputClosed) : (d.run b).2.input = [] := by
  induction d generalizing b with
  | done a => exact nomatch h
  | fault f =>
    obtain rfl : f = .inputClosed := Outcome.fault.inj h
    obtain ⟨a, w, illegal⟩ := own _ rfl
    exact nomatch illegal
  | endless => exact nomatch h
  | ask q next ih =>
    rcases answered : Console.answer q b with ⟨f | a, b₁⟩
    · rw [run_ask_error answered]
      exact Buffered.exhausted_of_answer answered
    · rw [run_ask_ok answered] at h ⊢
      exact ih a (own.2 a) h
  | note n next ih => exact ih own h

namespace Machine

theorem exhausted_of_step {m : Machine Buffered} (h : m.step.1 = .fault .inputClosed) :
    m.step.2.console.input = [] := by
  rw [step_console]
  exact (m.cpu.cycle_within_illegal m.style).exhausted (step_fst_eq_fault.1 h)

theorem exhausted_of_act {m : Machine Buffered} {a : Action}
    (h : (m.act a).1 = some (.fault .inputClosed)) : (m.act a).2.console.input = [] := by
  cases a with
  | step => exact exhausted_of_step (Option.some.inj h)
  | run fuel =>
    have given : Gives m.begun fuel (m.run fuel) := run_eq_iff.1 rfl
    change (m.run fuel).1 = _ at h
    change (m.run fuel).2.console.input = []
    generalize m.run fuel = ran at given h ⊢
    obtain ⟨out, m'⟩ := ran
    obtain rfl : out = _ := h
    obtain ⟨k, mk, -, stops, -⟩ := given
    cases stops with
    | pollFailed _ _ answer => exact Buffered.exhausted_of_answer answer
    | @fault _ m₁ m₂ _ _ step =>
      have left := exhausted_of_step (congrArg Prod.fst step)
      rw [step] at left
      exact left

/-- The same processor, at a terminal whose events stop nothing and at a console in memory that
holds what they type: any steps and runs leave the same processor, the same bytes to read and the
same output but for carriage returns, and give the same results but for a read of exhausted input.
In memory the input is closed then, at the terminal its device fails, and neither happens while
input is left. -/
theorem terminal_lockstep_buffered (cpu : Processor) (style : Style) {script : List Event}
    (calm : ∀ e ∈ script, ¬ e.Interrupts) {tty : Tty} {t : Terminal}
    (arrived : tty.arrivals = script.map .event) (started : Terminal.start tty = .ok t)
    (calls : List Action) :
    let buffered := (mk cpu (Buffered.ofInput (script.flatMap Event.bytes)) style).acts calls
    let terminal := (mk cpu t style).acts calls
    terminal.1 = buffered.1.map (·.map (·.mapFault Fault.atTerminal)) ∧
      terminal.2.cpu = buffered.2.cpu ∧
      terminal.2.console.output.toList = crlf buffered.2.console.output.toList ∧
      terminal.2.console.inbox.pending ++ typed terminal.2.console.tty.arrivals =
        buffered.2.console.input ∧
      (buffered.2.console.input = [] →
        (Buffered.answer .readByte buffered.2.console).1 = .error .inputClosed ∧
          (Terminal.answer .readByte terminal.2.console).1 = .error (.host Tty.exhausted)) ∧
      ∀ next, (buffered.2.act next).1 = some (.fault .inputClosed) →
        (buffered.2.act next).2.console.input = [] := by
  intro buffered terminal
  have started_alike : (mk cpu (Buffered.ofInput (script.flatMap Event.bytes)) style).Matches
      Terminal.Mirrors (mk cpu t style) := ⟨rfl, rfl, Terminal.mirrors_start calm arrived started⟩
  obtain ⟨outs, after⟩ := Terminal.lockstep.acts started_alike calls
  exact ⟨outs, after.cpu, after.console.output, after.console.input,
    after.console.readByte_exhausted, fun next closed => exhausted_of_act closed⟩

/-- Control and `c` let go, which stops nothing, and a line feed. -/
def releaseThenEnter : List Event :=
  [.key ⟨.char 'c', .onlyCtrl, .release⟩, .key ⟨.enter, .none, .press⟩]

/-- `TRAP IN` prompts, takes the line feed and echoes it with a carriage return. There is nothing
more to read then. -/
theorem terminal_lockstep_buffered_echo : ∃ t,
    Terminal.start ⟨releaseThenEnter.map .event, false, false, false⟩ = .ok t ∧
      let terminal := (mk (.single 0x3000 0xF023) t .plain).acts [.step]
      terminal.1 = [some (.ok ())] ∧ terminal.2.cpu.regs.get 0 = 0x0A ∧
        terminal.2.console.output.toList = Routine.prompt ++ [carriageReturn, lineFeed] ∧
        (Terminal.answer .readByte terminal.2.console).1 = .error (.host Tty.exhausted) := by
  have calm : ∀ e ∈ releaseThenEnter, ¬ e.Interrupts := by
    simp [releaseThenEnter, Event.Interrupts, KeyEvent.Interrupts]
  have started : Terminal.start ⟨releaseThenEnter.map .event, false, false, false⟩ =
      .ok ⟨⟨releaseThenEnter.map .event, true, false, false⟩, ⟨[], false⟩, #[]⟩ := rfl
  refine ⟨_, started, ?_⟩
  obtain ⟨outs, cpu, output, -, exhausted, -⟩ :=
    terminal_lockstep_buffered (.single 0x3000 0xF023) .plain calm rfl started [.step]
  have step : (mk (.single 0x3000 0xF023) (Buffered.ofInput [lineFeed]) .plain).step =
      (.ok (), ⟨(Processor.single 0x3000 0xF023).advance.commit (.load 0 (.ofByte lineFeed)),
        ⟨[], (#[] : Array Byte) ++ Routine.prompt ++ [lineFeed], false⟩, .plain⟩) :=
    step_single rfl rfl
  have typed : releaseThenEnter.flatMap Event.bytes = [lineFeed] := rfl
  simp only [typed, acts_step step] at outs cpu output exhausted
  refine ⟨outs, ?_, output.trans ?_, (exhausted trivial).2⟩
  · rw [cpu]
    rfl
  · rfl

end Machine

end LC3
