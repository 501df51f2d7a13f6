import LC3.Console.Buffered
import LC3.Proofs.Pipe
import LC3.Proofs.Step
import LC3.Proofs.TerminalHistory

/-! The keyboard's status against its data. A status that is ready is a promise: the next read of
the data gives a byte at once, the very one that a read in place of the status would have given, and
takes nothing else. A status that is not ready says that no byte is held. Both are so in every state
that a console can be in, also between the bytes of a character. -/

namespace LC3

namespace Bus

variable {C : Type} [Console C] {c c' : C} {mem : Memory} {w : Word}

/-- Reads the keyboard's status at a console. -/
def status (mem : Memory) (c : C) : Outcome Word × C := (read mem 0xFE00#16).run c

/-- Reads the keyboard's data at a console. -/
def data (mem : Memory) (c : C) : Outcome Word × C := (read mem 0xFE02#16).run c

theorem answer_of_status (h : status mem c = (.ok w, c')) : ∃ available,
    Console.answer .inputReady (Console.hear (.access .keyboardStatus) c) =
      (.ok available, c') ∧ w = if available then 0x8000#16 else 0#16 := by
  change (Dialogue.ask .inputReady fun available =>
    Dialogue.done (if available then 0x8000#16 else 0#16)).run _ = _ at h
  rcases answered : Console.answer .inputReady (Console.hear (.access .keyboardStatus) c) with
    ⟨f | available, c₁⟩
  · rw [Dialogue.run_ask_error answered] at h
    exact absurd h (by simp)
  · rw [Dialogue.run_ask_ok answered] at h
    obtain ⟨rfl, rfl⟩ := Dialogue.run_pure_eq_ok.1 h
    exact ⟨available, rfl, rfl⟩

theorem status_eq (h : status mem c = (.ok w, c')) : w = 0x8000#16 ∨ w = 0#16 := by
  obtain ⟨available, -, rfl⟩ := answer_of_status h
  cases available with
  | true => exact .inl rfl
  | false => exact .inr rfl

theorem answer_of_ready (h : status mem c = (.ok 0x8000#16, c')) :
    Console.answer .inputReady (Console.hear (.access .keyboardStatus) c) = (.ok true, c') := by
  obtain ⟨available, answered, shown⟩ := answer_of_status h
  cases available with
  | true => exact answered
  | false => exact absurd shown (by decide)

theorem answer_of_idle (h : status mem c = (.ok 0#16, c')) :
    Console.answer .inputReady (Console.hear (.access .keyboardStatus) c) = (.ok false, c') := by
  obtain ⟨available, answered, shown⟩ := answer_of_status h
  cases available with
  | true => exact absurd shown (by decide)
  | false => exact answered

theorem data_of_answer {b : Byte}
    (answered : Console.answer .readByte (Console.hear (.access .keyboardData) c) = (.ok b, c')) :
    data mem c = (.ok (.ofByte b), Console.hear (.keyboardData b) c') :=
  Dialogue.run_ask_ok answered

theorem data_of_refusal {f : Fault}
    (answered : Console.answer .readByte (Console.hear (.access .keyboardData) c) =
      (.error f, c')) : data mem c = (.fault f, c') := Dialogue.run_ask_error answered

end Bus

open Bus

variable {mem : Memory}

namespace Buffered

theorem ready_of_status {c c' : Buffered} (h : status mem c = (.ok 0x8000#16, c')) :
    ∃ b rest, c'.input = b :: rest ∧ (Console.answer .readByte c).1 = .ok b ∧
      data mem c' = (.ok (.ofByte b), { c' with input := rest }) := by
  have looked : answer .inputReady c = (.ok true, c') := answer_of_ready h
  obtain ⟨input, output, interrupted⟩ := c
  obtain ⟨some, rfl⟩ := Prod.mk.inj looked
  cases input with
  | nil => exact nomatch some
  | cons b rest => exact ⟨b, rest, rfl, rfl, data_of_answer rfl⟩

theorem empty_of_status {c c' : Buffered} (h : status mem c = (.ok 0#16, c')) :
    c'.input = [] ∧ data mem c' = (.fault .inputClosed, c') := by
  have looked : answer .inputReady c = (.ok false, c') := answer_of_idle h
  obtain ⟨input, output, interrupted⟩ := c
  obtain ⟨none, rfl⟩ := Prod.mk.inj looked
  cases input with
  | nil => exact ⟨rfl, data_of_refusal rfl⟩
  | cons b rest => exact nomatch none

end Buffered

namespace Piped

/-- What a look at a pipe leaves: a byte that is held back, or nothing at all. -/
theorem peeked_of_inputReady {c c' : Piped} {available : Bool}
    (looked : answer .inputReady c = (.ok available, c')) :
    (available = true ∧ ∃ b, c'.peeked = some (.ok b) ∧ (answer .readByte c).1 = .ok b) ∨
      (available = false ∧ c'.remaining = []) := by
  obtain ⟨queue, peeked, source, output⟩ := c
  obtain _ | error | b := peeked
  · obtain _ | ⟨error | b, queue⟩ := queue
    · obtain ⟨rfl, rfl⟩ : false = available ∧ _ = c' := by simpa [answer, peek] using looked
      exact .inr ⟨rfl, rfl⟩
    · exact absurd looked (by simp [answer, peek])
    · obtain ⟨rfl, rfl⟩ : true = available ∧ _ = c' := by simpa [answer, peek] using looked
      exact .inl ⟨rfl, b, rfl, rfl⟩
  · exact absurd looked (by simp [answer, peek])
  · obtain ⟨rfl, rfl⟩ : true = available ∧ _ = c' := by simpa [answer, peek] using looked
    exact .inl ⟨rfl, b, rfl, rfl⟩

theorem readByte_of_peeked {c : Piped} {b : Byte} (held : c.peeked = some (.ok b)) :
    answer .readByte c = (.ok b, { c with peeked := none }) := by
  obtain ⟨queue, peeked, source, output⟩ := c
  subst held
  rfl

theorem readByte_of_empty {c : Piped} (empty : c.remaining = []) :
    answer .readByte c = (.error .inputClosed, c) := by
  obtain ⟨_ | ⟨item, queue⟩, _ | held, source, output⟩ := c
  · rfl
  all_goals exact nomatch empty

theorem ready_of_status {c c' : Piped} (h : status mem c = (.ok 0x8000#16, c')) :
    ∃ b, c'.peeked = some (.ok b) ∧ (Console.answer .readByte c).1 = .ok b ∧
      data mem c' = (.ok (.ofByte b), { c' with peeked := none }) := by
  obtain ⟨-, b, held, inPlace⟩ | ⟨none, -⟩ := peeked_of_inputReady (answer_of_ready h)
  · exact ⟨b, held, inPlace, data_of_answer (readByte_of_peeked held)⟩
  · exact nomatch none

theorem empty_of_status {c c' : Piped} (h : status mem c = (.ok 0#16, c')) :
    c'.remaining = [] ∧ data mem c' = (.fault .inputClosed, c') := by
  obtain ⟨some, -⟩ | ⟨-, empty⟩ := peeked_of_inputReady (answer_of_idle h)
  · exact nomatch some
  · exact ⟨empty, data_of_refusal (readByte_of_empty empty)⟩

end Piped

namespace Inbox

/-- A wish to stop that is there is still there when all events have been taken. -/
theorem clear_of_drain {inbox inbox' : Inbox} {arrivals rest : List Arrival}
    (drained : inbox.drain arrivals = (.ok (), inbox', rest))
    (clear : inbox'.interrupted = false) : inbox.interrupted = false := by
  obtain ⟨taken, -, accounts, -⟩ := inbox.drain_takes arrivals
  rw [drained] at accounts
  cases set : inbox.interrupted with
  | false => rfl
  | true => exact nomatch clear.symm.trans (accounts.interrupted.2 (.inl set))

/-- The byte that is first once all events have been taken is the one a read would have come to. -/
theorem read_of_drain {inbox inbox' : Inbox} {arrivals rest : List Arrival} {b : Byte}
    {more : List Byte} (drained : inbox.drain arrivals = (.ok (), inbox', rest))
    (clear : inbox'.interrupted = false) (first : inbox'.pending = b :: more) :
    (inbox.read arrivals).1 = .ok b := by
  induction arrivals generalizing inbox with
  | nil =>
    obtain ⟨-, rfl, -⟩ := drained
    rw [read_pending clear first]
  | cons a arrivals ih =>
    have calm := clear_of_drain drained clear
    rcases held : inbox.pending with _ | ⟨b', more'⟩
    · obtain rfl : inbox = ⟨[], false⟩ := congr (congrArg mk held) calm
      cases a with
      | gap =>
        obtain ⟨-, rfl, -⟩ := drained
        exact nomatch first
      | failure error => exact nomatch drained
      | event e => exact ih drained
    · -- What is pending stays in front of what the events type.
      obtain ⟨taken, -, accounts, -⟩ := inbox.drain_takes (a :: arrivals)
      have bytes := accounts.bytes
      rw [drained, List.nil_append, first, held, List.cons_append] at bytes
      rw [read_pending calm held, (List.cons.inj bytes).1]

end Inbox

namespace Terminal

theorem drain_of_inputReady {t t' : Terminal} {available : Bool}
    (looked : answer .inputReady t = (.ok available, t')) : ∃ inbox rest,
      t.inbox.drain t.tty.arrivals = (.ok (), inbox, rest) ∧ inbox.interrupted = false ∧
        available = !inbox.pending.isEmpty ∧
          t' = { t with tty := { t.tty with arrivals := rest }, inbox } := by
  rcases all : t.inbox.drain t.tty.arrivals with ⟨error | _, inbox, rest⟩
  · simp [answer, drained, all] at looked
  · cases set : inbox.interrupted with
    | true => simp [answer, drained, all, set] at looked
    | false =>
      obtain ⟨rfl, rfl⟩ : (!inbox.pending.isEmpty) = available ∧ _ = t' := by
        simpa [answer, drained, all, set] using looked
      exact ⟨inbox, rest, rfl, set, rfl, rfl⟩

theorem readByte_of_pending {t : Terminal} {b : Byte} {more : List Byte}
    (held : t.inbox = ⟨b :: more, false⟩) :
    answer .readByte t = (.ok b, { t with inbox := ⟨more, false⟩ }) := by
  obtain ⟨⟨arrivals, raw, refusesRaw, refusesRestore⟩, inbox, output⟩ := t
  subst held
  cases arrivals <;> rfl

theorem ready_of_status {t t' : Terminal} (h : status mem t = (.ok 0x8000#16, t')) :
    ∃ b more, t'.inbox = ⟨b :: more, false⟩ ∧ (Console.answer .readByte t).1 = .ok b ∧
      ∀ later, data mem (t'.arrive later) =
        (.ok (.ofByte b), { t'.arrive later with inbox := ⟨more, false⟩ }) := by
  have looked : answer .inputReady t = (.ok true, t') := answer_of_ready h
  obtain ⟨⟨pending, interrupted⟩, rest, drained, clear, some, rfl⟩ := drain_of_inputReady looked
  obtain rfl : interrupted = false := clear
  cases pending with
  | nil => exact nomatch some
  | cons b more =>
    exact ⟨b, more, rfl, Inbox.read_of_drain drained rfl rfl,
      fun later => data_of_answer (readByte_of_pending rfl)⟩

theorem empty_of_status {t t' : Terminal} (h : status mem t = (.ok 0#16, t')) :
    t'.inbox = ⟨[], false⟩ ∧ t.inbox.pending = [] ∧
      ∃ taken, t.tty.arrivals = taken ++ t'.tty.arrivals ∧ ∀ a ∈ taken, a.bytes = [] := by
  have looked : answer .inputReady t = (.ok false, t') := answer_of_idle h
  obtain ⟨⟨pending, interrupted⟩, rest, drained, clear, none, rfl⟩ := drain_of_inputReady looked
  obtain rfl : interrupted = false := clear
  obtain ⟨taken, split, accounts, -⟩ := t.inbox.drain_takes t.tty.arrivals
  rw [drained] at split accounts
  obtain rfl : pending = [] := by simpa using none.symm
  obtain ⟨before, during⟩ := List.append_eq_nil_iff.1 accounts.bytes.symm
  exact ⟨rfl, before, taken, split, List.flatMap_eq_nil_iff.1 during⟩

end Terminal

/-- The status is only ever ready or not, and both mean what they say at each console, whatever was
called and whatever came in before. Ready: the data gives the byte that a read in place of the look
would have given, and takes that byte and nothing else, not even from the keys that come in
meanwhile. Not ready: there is no byte, so that the data of an input that has ended is refused, and
a terminal has neither kept one nor been typed one while it looked. -/
theorem Bus.status_promises_data (mem : Memory) :
    (∀ {C : Type} [Console C] (c c' : C) (w : Word), status mem c = (.ok w, c') →
      w = 0x8000#16 ∨ w = 0#16) ∧
    (∀ c c' : Buffered,
      (status mem c = (.ok 0x8000#16, c') → ∃ b rest, c'.input = b :: rest ∧
        (Console.answer .readByte c).1 = .ok b ∧
          data mem c' = (.ok (.ofByte b), { c' with input := rest })) ∧
      (status mem c = (.ok 0#16, c') →
        c'.input = [] ∧ data mem c' = (.fault .inputClosed, c'))) ∧
    (∀ c c' : Piped,
      (status mem c = (.ok 0x8000#16, c') → ∃ b, c'.peeked = some (.ok b) ∧
        (Console.answer .readByte c).1 = .ok b ∧
          data mem c' = (.ok (.ofByte b), { c' with peeked := none })) ∧
      (status mem c = (.ok 0#16, c') →
        c'.remaining = [] ∧ data mem c' = (.fault .inputClosed, c'))) ∧
    ∀ t t' : Terminal,
      (status mem t = (.ok 0x8000#16, t') → ∃ b more, t'.inbox = ⟨b :: more, false⟩ ∧
        (Console.answer .readByte t).1 = .ok b ∧
          ∀ later, data mem (t'.arrive later) =
            (.ok (.ofByte b), { t'.arrive later with inbox := ⟨more, false⟩ })) ∧
      (status mem t = (.ok 0#16, t') → t'.inbox = ⟨[], false⟩ ∧ t.inbox.pending = [] ∧
        ∃ taken, t.tty.arrivals = taken ++ t'.tty.arrivals ∧ ∀ a ∈ taken, a.bytes = []) :=
  ⟨fun _ _ _ => status_eq, fun _ _ => ⟨Buffered.ready_of_status, Buffered.empty_of_status⟩,
    fun _ _ => ⟨Piped.ready_of_status, Piped.empty_of_status⟩,
    fun _ _ => ⟨Terminal.ready_of_status, Terminal.empty_of_status⟩⟩

/-- Between the two bytes of a character, with a key waiting behind it. -/
def halfRead : Terminal :=
  ⟨⟨[.event (.key ⟨.char 'x', .none, .press⟩)], true, false, false⟩, ⟨[0xA9], false⟩, #[]⟩

theorem Bus.status_promises_data_halfRead :
    let looked : Terminal := ⟨⟨[], true, false, false⟩, ⟨[0xA9, 0x78], false⟩, #[]⟩
    status .blank halfRead = (.ok 0x8000#16, looked) ∧
      data .blank looked = (.ok 0xA9#16, { looked with inbox := ⟨[0x78], false⟩ }) := by
  intro looked
  have ready : status .blank halfRead = (.ok 0x8000#16, looked) := rfl
  obtain ⟨b, more, held, -, given⟩ :=
    ((Bus.status_promises_data .blank).2.2.2 halfRead looked).1 ready
  obtain ⟨⟨rfl, rfl⟩, -⟩ := Inbox.mk.inj held
  exact ⟨ready, given []⟩

end LC3
