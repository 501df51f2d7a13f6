import LC3.Proofs.History
import LC3.Terminal

/-! What becomes of the events of a terminal. Each one taken adds its bytes to the inbox or asks for
a stop, and nothing else does either. The two ways of taking them, until none is there and until one
counts, are described by what they take off the front of the arrivals. -/

namespace LC3

/-- What a key types. A key that is released types nothing, and a character only does so with no
modifier but shift; the other keys do not mind modifiers. -/
def KeyEvent.bytes (event : KeyEvent) : List Byte :=
  if event.motion = .release then []
  else
    match event.code with
    | .enter | .char '\n' => [0x0A]
    | .tab => [0x09]
    | .backspace => [0x08]
    | .char c =>
      if event.modifiers = .none ∨ event.modifiers = .onlyShift then String.utf8EncodeChar c else []
    | _ => []

/-- Control and `c`, with no other modifier, pressed or held down. -/
def KeyEvent.Interrupts (event : KeyEvent) : Prop :=
  event.code = .char 'c' ∧ event.modifiers = .onlyCtrl ∧ event.motion ≠ .release

/-- What is typed and what asks for a stop is all that a key means. -/
theorem KeyEvent.meaning_cases (event : KeyEvent) :
    event.Interrupts ∧ event.meaning = .interrupt ∧ event.bytes = [] ∨
      ¬ event.Interrupts ∧
        (event.meaning = .text event.bytes ∨ event.meaning = .nothing ∧ event.bytes = []) := by
  obtain ⟨code, modifiers, motion⟩ := event
  unfold meaning bytes Interrupts
  by_cases released : motion = .release
  · simp [released]
  · rw [if_neg released, if_neg released]
    cases code with
    | char c =>
      by_cases stop : c = 'c' ∧ modifiers = .onlyCtrl
      · obtain ⟨rfl, rfl⟩ := stop
        exact .inl ⟨⟨rfl, rfl, released⟩, rfl, rfl⟩
      · refine .inr ⟨fun ⟨code, modifiers, _⟩ => stop ⟨KeyCode.char.inj code, modifiers⟩, ?_⟩
        by_cases lineFeed : c = '\n'
        · subst lineFeed
          exact .inl rfl
        · by_cases plain : modifiers = .none ∨ modifiers = .onlyShift
          · exact .inl (by simp [stop, lineFeed, plain])
          · exact .inr (by simp [stop, lineFeed, plain])
    | enter => exact .inr ⟨by simp, .inl rfl⟩
    | tab => exact .inr ⟨by simp, .inl rfl⟩
    | backspace => exact .inr ⟨by simp, .inl rfl⟩
    | _ => exact .inr ⟨by simp, .inr ⟨rfl, rfl⟩⟩

namespace Event

def bytes : Event → List Byte
  | .key pressed => pressed.bytes
  | _ => []

def Interrupts : Event → Prop
  | .key pressed => pressed.Interrupts
  | _ => False

theorem meaning_cases (e : Event) :
    e.Interrupts ∧ e.meaning = .interrupt ∧ e.bytes = [] ∨
      ¬ e.Interrupts ∧ (e.meaning = .text e.bytes ∨ e.meaning = .nothing ∧ e.bytes = []) := by
  cases e with
  | key pressed => exact pressed.meaning_cases
  | _ => exact .inr ⟨id, .inr ⟨rfl, rfl⟩⟩

theorem bytes_of_interrupts {e : Event} (h : e.Interrupts) : e.bytes = [] := by
  obtain ⟨-, -, bytes⟩ | ⟨calm, -⟩ := e.meaning_cases
  · exact bytes
  · exact absurd h calm

end Event

namespace Arrival

def bytes : Arrival → List Byte
  | .event e => e.bytes
  | _ => []

def Interrupts : Arrival → Prop
  | .event e => e.Interrupts
  | _ => False

/-- Neither a failure nor an event that counts. -/
structure Silent (a : Arrival) : Prop where
  works : ∀ error, a ≠ .failure error
  bytes : a.bytes = []
  calm : ¬ a.Interrupts

theorem silent_gap : Silent .gap := ⟨by simp, rfl, id⟩

theorem silent_event {e : Event} (bytes : e.bytes = []) (calm : ¬ e.Interrupts) :
    Silent (.event e) := ⟨by simp, bytes, calm⟩

end Arrival

/-- All that is typed by what arrived, in order. -/
def typed (arrivals : List Arrival) : List Byte := arrivals.flatMap Arrival.bytes

theorem typed_append (before after : List Arrival) :
    typed (before ++ after) = typed before ++ typed after := List.flatMap_append

theorem typed_silent {arrivals : List Arrival} (silent : ∀ a ∈ arrivals, a.Silent) :
    typed arrivals = [] := List.flatMap_eq_nil_iff.2 fun a ha => (silent a ha).bytes

namespace Tty

/-- Whether an event is there now. -/
def poll : List Arrival → Except HostError Bool × List Arrival
  | [] => (.ok false, [])
  | .gap :: rest => (.ok false, rest)
  | .failure error :: rest => (.error error, rest)
  | .event e :: rest => (.ok true, .event e :: rest)

/-- Waits for an event and takes it. -/
def next : List Arrival → Except HostError Event × List Arrival
  | [] => (.error exhausted, [])
  | .gap :: rest => next rest
  | .failure error :: rest => (.error error, rest)
  | .event e :: rest => (.ok e, rest)

end Tty

namespace Inbox

theorem put_pending (inbox : Inbox) (e : Event) :
    (inbox.put e).pending = inbox.pending ++ e.bytes := by
  unfold put
  obtain ⟨-, meaning, bytes⟩ | ⟨-, meaning | ⟨meaning, bytes⟩⟩ := e.meaning_cases
  · simp [meaning, bytes]
  · simp [meaning]
  · simp [meaning, bytes]

theorem put_interrupted (inbox : Inbox) (e : Event) :
    (inbox.put e).interrupted = true ↔ inbox.interrupted = true ∨ e.Interrupts := by
  unfold put
  obtain ⟨stops, meaning, -⟩ | ⟨calm, meaning | ⟨meaning, -⟩⟩ := e.meaning_cases
  · simp [meaning, stops]
  · simp [meaning, calm]
  · simp [meaning, calm]

theorem put_interrupts {e : Event} (h : e.Interrupts) : put ⟨[], false⟩ e = ⟨[], true⟩ := by
  unfold put
  obtain ⟨-, meaning, -⟩ | ⟨calm, -⟩ := e.meaning_cases
  · rw [meaning]
  · exact absurd h calm

theorem put_calm {e : Event} (h : ¬ e.Interrupts) : put ⟨[], false⟩ e = ⟨e.bytes, false⟩ := by
  unfold put
  obtain ⟨stops, -⟩ | ⟨-, meaning | ⟨meaning, bytes⟩⟩ := e.meaning_cases
  · exact absurd stops h
  · simp [meaning]
  · simp [meaning, bytes]

/-- Taking all there is, told by questions to the device: as long as it has an event, one is
taken. -/
theorem drain_eq (inbox : Inbox) (arrivals : List Arrival) :
    inbox.drain arrivals =
      match Tty.poll arrivals with
      | (.error error, rest) => (.error error, inbox, rest)
      | (.ok false, rest) => (.ok (), inbox, rest)
      | (.ok true, rest) =>
        match Tty.next rest with
        | (.error error, rest) => (.error error, inbox, rest)
        | (.ok e, rest) => (inbox.put e).drain rest := by
  cases arrivals with
  | nil => rfl
  | cons a rest => cases a <;> rfl

/-- Taking a byte, told by questions to the device: only an inbox without a byte or a wish to stop
waits for it. -/
theorem read_eq (inbox : Inbox) (arrivals : List Arrival) :
    inbox.read arrivals =
      if inbox.interrupted then (.error .interrupted, inbox, arrivals)
      else
        match inbox.pending with
        | b :: more => (.ok b, { inbox with pending := more }, arrivals)
        | [] =>
          match Tty.next arrivals with
          | (.error error, rest) => (.error (.host error), inbox, rest)
          | (.ok e, rest) => (inbox.put e).read rest := by
  obtain ⟨_ | ⟨b, more⟩, _ | _⟩ := inbox
  · induction arrivals with
    | nil => rfl
    | cons a rest ih =>
      cases a with
      | gap => exact ih
      | _ => rfl
  all_goals cases arrivals <;> rfl

/-- From one inbox to another: what was pending or has been taken is now delivered or pending, in
order, and a wish to stop is remembered. -/
structure Accounts (inbox : Inbox) (taken : List Arrival) (delivered : List Byte)
    (inbox' : Inbox) : Prop where
  bytes : delivered ++ inbox'.pending = inbox.pending ++ typed taken
  interrupted : inbox'.interrupted = true ↔
    inbox.interrupted = true ∨ ∃ a ∈ taken, a.Interrupts

namespace Accounts

variable {inbox inbox' inbox'' : Inbox} {taken taken' : List Arrival}
  {delivered delivered' : List Byte}

theorem refl (inbox : Inbox) : inbox.Accounts [] [] inbox := ⟨by simp [typed], by simp⟩

theorem trans (h : inbox.Accounts taken delivered inbox')
    (h' : inbox'.Accounts taken' delivered' inbox'') :
    inbox.Accounts (taken ++ taken') (delivered ++ delivered') inbox'' where
  bytes := by
    calc
      _ = delivered ++ (delivered' ++ inbox''.pending) := List.append_assoc ..
      _ = delivered ++ inbox'.pending ++ typed taken' := by rw [h'.bytes, List.append_assoc]
      _ = inbox.pending ++ typed (taken ++ taken') := by
        rw [h.bytes, typed_append, List.append_assoc]
  interrupted := by
    rw [h'.interrupted, h.interrupted, or_assoc]
    simp only [List.mem_append, or_and_right, exists_or]

theorem silent {taken : List Arrival} (h : ∀ a ∈ taken, a.Silent) (inbox : Inbox) :
    inbox.Accounts taken [] inbox where
  bytes := by rw [typed_silent h, List.append_nil, List.nil_append]
  interrupted := by
    have none : ¬ ∃ a ∈ taken, a.Interrupts := fun ⟨a, ha, stops⟩ => (h a ha).calm stops
    exact (or_iff_left none).symm

theorem put (inbox : Inbox) (e : Event) : inbox.Accounts [.event e] [] (inbox.put e) where
  bytes := by simp [put_pending, typed, Arrival.bytes]
  interrupted := by simp [put_interrupted, Arrival.Interrupts]

theorem failure (inbox : Inbox) (error : HostError) :
    inbox.Accounts [.failure error] [] inbox where
  bytes := by simp [typed, Arrival.bytes]
  interrupted := by simp [Arrival.Interrupts]

end Accounts

/-- How taking all there is has ended: well, or with the failure taken last. -/
def Drains (taken : List Arrival) : Except HostError Unit → Prop
  | .ok _ => ∀ error, .failure error ∉ taken
  | .error error => ∃ before, taken = before ++ [.failure error] ∧ ∀ e, .failure e ∉ before

theorem Drains.event {taken : List Arrival} {result : Except HostError Unit}
    (h : Drains taken result) (e : Event) : Drains (.event e :: taken) result := by
  cases result with
  | ok _ =>
    intro error found
    exact h error (by simpa using found)
  | error error =>
    obtain ⟨before, rfl, works⟩ := h
    exact ⟨.event e :: before, rfl, by simpa using works⟩

theorem drain_takes (inbox : Inbox) (arrivals : List Arrival) : ∃ taken,
    arrivals = taken ++ (inbox.drain arrivals).2.2 ∧
      inbox.Accounts taken [] (inbox.drain arrivals).2.1 ∧
        Drains taken (inbox.drain arrivals).1 := by
  induction arrivals generalizing inbox with
  | nil => exact ⟨[], rfl, .refl inbox, by simp [drain, Drains]⟩
  | cons a rest ih =>
    cases a with
    | gap =>
      exact ⟨[.gap], rfl, .silent (by simp [Arrival.silent_gap]) inbox, by simp [drain, Drains]⟩
    | failure error => exact ⟨[.failure error], rfl, .failure inbox error, [], rfl, by simp⟩
    | event e =>
      obtain ⟨taken, split, accounts, drains⟩ := ih (inbox.put e)
      exact ⟨.event e :: taken, congrArg _ split, (Accounts.put inbox e).trans accounts,
        drains.event e⟩

/-- How a read goes that takes `taken` and leaves `rest`. It takes nothing if a wish to stop or a
byte is there already, and else goes on to the first arrival that counts. -/
inductive Reads (inbox : Inbox) :
    (taken rest : List Arrival) → Except Fault Byte → Inbox → Prop where
  | interrupted {rest : List Arrival} (set : inbox.interrupted = true) :
    Reads inbox [] rest (.error .interrupted) inbox
  | pending {b : Byte} {more : List Byte} {rest : List Arrival} (clear : inbox.interrupted = false)
      (first : inbox.pending = b :: more) : Reads inbox [] rest (.ok b) ⟨more, false⟩
  | types {before rest : List Arrival} {e : Event} {b : Byte} {more : List Byte}
      (empty : inbox = ⟨[], false⟩) (silent : ∀ a ∈ before, a.Silent)
      (bytes : e.bytes = b :: more) :
    Reads inbox (before ++ [.event e]) rest (.ok b) ⟨more, false⟩
  | stops {before rest : List Arrival} {e : Event} (empty : inbox = ⟨[], false⟩)
      (silent : ∀ a ∈ before, a.Silent) (interrupts : e.Interrupts) :
    Reads inbox (before ++ [.event e]) rest (.error .interrupted) ⟨[], true⟩
  | fails {before rest : List Arrival} {error : HostError} (empty : inbox = ⟨[], false⟩)
      (silent : ∀ a ∈ before, a.Silent) :
    Reads inbox (before ++ [.failure error]) rest (.error (.host error)) inbox
  | exhausts {taken : List Arrival} (empty : inbox = ⟨[], false⟩) (silent : ∀ a ∈ taken, a.Silent) :
    Reads inbox taken [] (.error (.host Tty.exhausted)) inbox

theorem Reads.silent {inbox inbox' : Inbox} {a : Arrival} {taken rest : List Arrival}
    {reply : Except Fault Byte} (empty : inbox = ⟨[], false⟩) (silent : a.Silent)
    (h : inbox.Reads taken rest reply inbox') : inbox.Reads (a :: taken) rest reply inbox' := by
  have both {before : List Arrival} (h : ∀ a ∈ before, a.Silent) :
      ∀ a' ∈ a :: before, a'.Silent := List.forall_mem_cons.2 ⟨silent, h⟩
  cases h with
  | interrupted set => exact absurd (empty ▸ set) (by simp)
  | pending _ first => exact absurd (empty ▸ first) (by simp)
  | types _ before bytes => exact .types empty (both before) bytes
  | stops _ before interrupts => exact .stops empty (both before) interrupts
  | fails _ before => exact .fails empty (both before)
  | exhausts _ before => exact .exhausts empty (both before)

theorem Reads.accounts {inbox inbox' : Inbox} {taken rest : List Arrival}
    {reply : Except Fault Byte} (h : inbox.Reads taken rest reply inbox') :
    inbox.Accounts taken (received reply) inbox' := by
  cases h with
  | interrupted => exact .refl inbox
  | pending clear first => exact ⟨by simp [received, first, typed], by simp [clear]⟩
  | @types before _ e b more empty silent bytes =>
    have calm : ¬ e.Interrupts := fun h => by simp [Event.bytes_of_interrupts h] at bytes
    refine (Accounts.silent silent inbox).trans ⟨?_, ?_⟩
    · simp [empty, typed, Arrival.bytes, bytes]
    · simp [empty, Arrival.Interrupts, calm]
  | @stops before _ e empty silent interrupts =>
    refine (Accounts.silent silent inbox).trans ⟨?_, ?_⟩
    · simp [empty, typed, Arrival.bytes, Event.bytes_of_interrupts interrupts]
    · simp [Arrival.Interrupts, interrupts]
  | fails empty silent => exact (Accounts.silent silent inbox).trans (.failure inbox _)
  | exhausts empty silent => exact .silent silent inbox

/-- A read that leaves the wish to stop behind has failed with it. -/
theorem Reads.of_interrupted {inbox inbox' : Inbox} {taken rest : List Arrival}
    {reply : Except Fault Byte} (h : inbox.Reads taken rest reply inbox')
    (set : inbox'.interrupted = true) : Drains taken (.ok ()) ∧ reply = .error .interrupted := by
  cases h with
  | interrupted => exact ⟨by simp [Drains], rfl⟩
  | @stops before _ e _ silent =>
    refine ⟨fun error found => ?_, rfl⟩
    obtain found | found := List.mem_append.1 found
    · exact (silent _ found).works error rfl
    · exact nomatch List.mem_singleton.1 found
  | pending => exact nomatch set
  | types => exact nomatch set
  | fails empty => exact absurd (empty ▸ set) (by simp)
  | exhausts empty => exact absurd (empty ▸ set) (by simp)

theorem read_interrupted {inbox : Inbox} (set : inbox.interrupted = true)
    (arrivals : List Arrival) :
    inbox.read arrivals = (.error .interrupted, inbox, arrivals) := by
  obtain ⟨pending, interrupted⟩ := inbox
  subst set
  cases arrivals <;> rfl

theorem read_pending {inbox : Inbox} {b : Byte} {more : List Byte}
    (clear : inbox.interrupted = false) (first : inbox.pending = b :: more)
    (arrivals : List Arrival) :
    inbox.read arrivals = (.ok b, ⟨more, false⟩, arrivals) := by
  obtain ⟨pending, interrupted⟩ := inbox
  subst clear first
  cases arrivals <;> rfl

theorem read_keeps {inbox : Inbox} (h : inbox.interrupted = true ∨ inbox.pending ≠ [])
    (arrivals : List Arrival) : (inbox.read arrivals).2.2 = arrivals := by
  cases set : inbox.interrupted with
  | true => rw [read_interrupted set]
  | false =>
    obtain ⟨b, more, first⟩ := List.exists_cons_of_ne_nil (h.resolve_left (by simp [set]))
    rw [read_pending set first]

theorem read_takes (inbox : Inbox) (arrivals : List Arrival) : ∃ taken,
    arrivals = taken ++ (inbox.read arrivals).2.2 ∧
      inbox.Reads taken (inbox.read arrivals).2.2 (inbox.read arrivals).1
        (inbox.read arrivals).2.1 := by
  cases clear : inbox.interrupted with
  | true =>
    rw [read_interrupted clear]
    exact ⟨[], rfl, .interrupted clear⟩
  | false =>
    cases first : inbox.pending with
    | cons b more =>
      rw [read_pending clear first]
      exact ⟨[], rfl, .pending clear first⟩
    | nil =>
      obtain rfl : inbox = ⟨[], false⟩ := congr (congrArg mk first) clear
      induction arrivals with
      | nil => exact ⟨[], rfl, .exhausts rfl (by simp)⟩
      | cons a rest ih =>
        cases a with
        | gap =>
          obtain ⟨taken, split, reads⟩ := ih
          exact ⟨.gap :: taken, congrArg _ split, .silent rfl Arrival.silent_gap reads⟩
        | failure error =>
          exact ⟨[.failure error], rfl, .fails rfl (List.forall_mem_nil Arrival.Silent)⟩
        | event e =>
          -- a key that counts is in the inbox before the next look at it, which ends the wait
          change ∃ taken, .event e :: rest = taken ++ ((put ⟨[], false⟩ e).read rest).2.2 ∧
            Reads ⟨[], false⟩ taken ((put ⟨[], false⟩ e).read rest).2.2
              ((put ⟨[], false⟩ e).read rest).1 ((put ⟨[], false⟩ e).read rest).2.1
          by_cases interrupts : e.Interrupts
          · rw [put_interrupts interrupts, read_interrupted rfl]
            exact ⟨[.event e], rfl, .stops rfl (List.forall_mem_nil Arrival.Silent) interrupts⟩
          · rw [put_calm interrupts]
            cases bytes : e.bytes with
            | nil =>
              obtain ⟨taken, split, reads⟩ := ih
              exact ⟨.event e :: taken, congrArg _ split,
                .silent rfl (Arrival.silent_event bytes interrupts) reads⟩
            | cons b more =>
              rw [read_pending rfl rfl]
              exact ⟨[.event e], rfl, .types rfl (List.forall_mem_nil Arrival.Silent) bytes⟩

end Inbox

end LC3
