import LC3.Proofs.InstructionSet

/-! A run is `step` iterated, with a poll before every instruction whose number is a multiple of
4096. `After` and `Stops` say so with the true number of instructions, which has no upper bound; the
counter of `runFrom` wraps at 2^32 and still agrees with it, because 4096 divides 2^32. -/

namespace LC3.Machine

variable {C : Type} [Console C] {m m' : Machine C}

/-- The poll due before instruction number `k`, if one is, lets the run go on. -/
inductive Polled (k : Nat) (m : Machine C) : Machine C → Prop where
  | due {c : C} (due : 4096 ∣ k) (answer : Console.answer .interrupted m.console = (.ok false, c)) :
    Polled k m { m with console := c }
  | skipped (free : ¬ 4096 ∣ k) : Polled k m m

/-- A run from `m` has carried out its first `k` instructions and none of them ended it. -/
inductive After (m : Machine C) : Nat → Machine C → Prop where
  | start : After m 0 m
  | next {k : Nat} {m₁ m₂ m₃ : Machine C} (before : After m k m₁)
      (running : m₁.cpu.status = .running) (polled : Polled k m₁ m₂)
      (step : m₂.step = (.ok (), m₃)) : After m (k + 1) m₃

/-- A run that stands at `m` after `k` instructions ends there. -/
inductive Stops (k : Nat) (m : Machine C) : Outcome Unit → Machine C → Prop where
  | halted (halted : m.cpu.status = .halted) : Stops k m (.ok ()) m
  | interrupted {c : C} (running : m.cpu.status = .running) (due : 4096 ∣ k)
      (answer : Console.answer .interrupted m.console = (.ok true, c)) :
    Stops k m (.fault .interrupted) (hear { m with console := c } .interrupted)
  | pollFailed {f : Fault} {c : C} (running : m.cpu.status = .running) (due : 4096 ∣ k)
      (answer : Console.answer .interrupted m.console = (.error f, c)) :
    Stops k m (.fault f) { m with console := c }
  | fault {f : Fault} {m₁ m₂ : Machine C} (running : m.cpu.status = .running)
      (polled : Polled k m m₁) (step : m₁.step = (.fault f, m₂)) :
    Stops k m (.fault f) (m₂.hear (.stopped f))
  | endless {m₁ m₂ : Machine C} (running : m.cpu.status = .running) (polled : Polled k m m₁)
      (step : m₁.step = (.endless, m₂)) : Stops k m .endless m₂

/-- What a run of at most `n` instructions from `m₀` gives: it is still running, or it has ended. -/
def Gives (m₀ : Machine C) (n : Nat) : Option (Outcome Unit) × Machine C → Prop
  | (none, m) => After m₀ n m ∧ m.cpu.status = .running
  | (some out, m) => ∃ k mk, After m₀ k mk ∧ Stops k mk out m ∧ (k < n ∨ k = n ∧ out = .ok ())

theorem poll_due (k : Nat) : UInt32.ofNat k % pollInterval = 0 ↔ 4096 ∣ k := by
  rw [← UInt32.toNat_inj, UInt32.toNat_mod, UInt32.toNat_ofNat', pollInterval]
  change k % 2 ^ 32 % 4096 = 0 ↔ 4096 ∣ k
  omega

theorem poll_eq_none {k : Nat} : m.poll (UInt32.ofNat k) = (none, m') ↔ Polled k m m' := by
  unfold poll
  by_cases due : 4096 ∣ k
  · rw [if_pos ((poll_due k).2 due)]
    constructor
    · intro h
      split at h
      next => exact absurd h (by simp)
      next c answer =>
        obtain rfl : { m with console := c } = m' := by simpa using h
        exact .due due answer
      next => exact absurd h (by simp)
    · rintro (⟨-, answer⟩ | free)
      · simp only [answer]
      · exact absurd due free
  · rw [if_neg (mt (poll_due k).1 due)]
    constructor
    · intro h
      obtain rfl : m = m' := by simpa using h
      exact .skipped due
    · rintro (⟨due', -⟩ | -)
      · exact absurd due' due
      · rfl

theorem Stops.of_poll {k : Nat} {f : Fault} (running : m.cpu.status = .running)
    (h : m.poll (UInt32.ofNat k) = (some f, m')) : Stops k m (.fault f) m' := by
  unfold poll at h
  split at h
  next due =>
    rw [poll_due] at due
    split at h
    next c answer =>
      obtain ⟨rfl, rfl⟩ : .interrupted = f ∧ hear { m with console := c } .interrupted = m' := by
        simpa using h
      exact .interrupted running due answer
    next => exact absurd h (by simp)
    next c answer =>
      obtain ⟨rfl, rfl⟩ : _ = f ∧ { m with console := c } = m' := by simpa using h
      exact .pollFailed running due answer
  next => exact absurd h (by simp)

theorem runFrom_halted (h : m.cpu.status = .halted) (fuel : Nat) (count : UInt32) :
    m.runFrom fuel count = (some (.ok ()), m) := by
  unfold runFrom
  rw [h]

theorem runFrom_zero (h : m.cpu.status = .running) (count : UInt32) :
    m.runFrom 0 count = (none, m) := by
  unfold runFrom
  rw [h]

theorem runFrom_succ (h : m.cpu.status = .running) (fuel : Nat) (count : UInt32) :
    m.runFrom (fuel + 1) count =
      match m.poll count with
      | (some f, m) => (some (.fault f), m)
      | (none, m) =>
        match m.step with
        | (.ok _, m) => m.runFrom fuel (count + 1)
        | (.fault f, m) => (some (.fault f), m.hear (.stopped f))
        | (.endless, m) => (some .endless, m) := by
  have unfolded := runFrom.eq_def (fuel + 1) count m
  simp only [h] at unfolded
  exact unfolded

/-- The counter after `k` instructions stands for `k`, also when it has wrapped. -/
theorem After.runFrom {k : Nat} (h : After m k m') (fuel : Nat) :
    m.runFrom (k + fuel) 0 = m'.runFrom fuel (UInt32.ofNat k) := by
  induction h generalizing fuel with
  | start => rw [Nat.zero_add]; rfl
  | @next k m₁ m₂ m₃ _ running polled step ih =>
    rw [Nat.add_assoc, Nat.add_comm 1 fuel, ih, runFrom_succ running, poll_eq_none.2 polled,
      UInt32.ofNat_add]
    -- both sides count on by one, wrapping alike
    simp only [step]
    rfl

theorem Stops.runFrom {k : Nat} {out : Outcome Unit} (h : Stops k m out m') (fuel : Nat) :
    m.runFrom (fuel + 1) (UInt32.ofNat k) = (some out, m') := by
  cases h with
  | halted halted => exact runFrom_halted halted _ _
  | interrupted running due answer =>
    rw [runFrom_succ running, poll, if_pos ((poll_due k).2 due), answer]
  | pollFailed running due answer =>
    rw [runFrom_succ running, poll, if_pos ((poll_due k).2 due), answer]
  | fault running polled step =>
    rw [runFrom_succ running, poll_eq_none.2 polled]
    simp only [step]
  | endless running polled step =>
    rw [runFrom_succ running, poll_eq_none.2 polled]
    simp only [step]

theorem After.gives {m₀ : Machine C} {k : Nat} (h : After m₀ k m) (fuel : Nat) :
    Gives m₀ (k + fuel) (m.runFrom fuel (UInt32.ofNat k)) := by
  -- each instruction moves one from `fuel` to `k`, so their sum stays what the run may spend
  induction fuel generalizing k m with
  | zero =>
    cases status : m.cpu.status with
    | halted =>
      rw [runFrom_halted status]
      exact ⟨k, m, h, .halted status, .inr ⟨rfl, rfl⟩⟩
    | running =>
      rw [runFrom_zero status]
      exact ⟨h, status⟩
  | succ fuel ih =>
    cases status : m.cpu.status with
    | halted =>
      rw [runFrom_halted status]
      exact ⟨k, m, h, .halted status, .inl (by omega)⟩
    | running =>
      rw [runFrom_succ status]
      rcases hp : m.poll (UInt32.ofNat k) with ⟨_ | f, m₁⟩
      · have polled := poll_eq_none.1 hp
        rcases step : m₁.step with ⟨_ | f | _, m₂⟩ <;> simp only [step]
        · have next := ih (.next h status polled step)
          rwa [UInt32.ofNat_add, Nat.add_right_comm, Nat.add_assoc] at next
        · exact ⟨k, m, h, .fault status polled step, .inl (by omega)⟩
        · exact ⟨k, m, h, .endless status polled step, .inl (by omega)⟩
      · exact ⟨k, m, h, .of_poll status hp, .inl (by omega)⟩

theorem Gives.runFrom {n : Nat} {r : Option (Outcome Unit) × Machine C} (h : Gives m n r) :
    m.runFrom n 0 = r := by
  rcases r with ⟨_ | out, m'⟩
  · obtain ⟨after, running⟩ := h
    rw [← Nat.add_zero n, after.runFrom 0, runFrom_zero running]
  · obtain ⟨k, mk, after, stops, hk | ⟨rfl, rfl⟩⟩ := h
    · obtain ⟨d, rfl⟩ : ∃ d, n = k + (d + 1) := ⟨n - (k + 1), by omega⟩
      rw [after.runFrom, stops.runFrom]
    · obtain ⟨halted⟩ := stops
      rw [← Nat.add_zero k, after.runFrom 0, runFrom_halted halted]

def begun (m : Machine C) : Machine C := m.hear (.running m.cpu.regs.pc)

theorem run_eq_iff {fuel : Nat} {r : Option (Outcome Unit) × Machine C} :
    m.run fuel = r ↔ Gives m.begun fuel r := by
  refine ⟨?_, Gives.runFrom⟩
  rintro rfl
  have given := (After.start (m := m.begun)).gives fuel
  rw [Nat.zero_add] at given
  exact given

theorem run_halted (h : m.cpu.status = .halted) (fuel : Nat) :
    m.run fuel = (some (.ok ()), m.begun) := runFrom_halted (m := m.begun) h fuel 0

theorem run_ok_iff : (∃ fuel, m.run fuel = (some (.ok ()), m')) ↔
    ∃ k, After m.begun k m' ∧ m'.cpu.status = .halted := by
  constructor
  · rintro ⟨fuel, h⟩
    obtain ⟨k, mk, after, stops, -⟩ := run_eq_iff.1 h
    obtain ⟨halted⟩ := stops
    exact ⟨k, after, halted⟩
  · rintro ⟨k, after, halted⟩
    exact ⟨k, run_eq_iff.2 ⟨k, m', after, .halted halted, .inr ⟨rfl, rfl⟩⟩⟩

/-- What is asked from instruction number `k` on until the next one: the poll comes first, if it is
due, and there is no other. -/
def Turn (k : Nat) (es : List Exchange) : Prop :=
  ∃ rest, es.map (·.call) = (if 4096 ∣ k then [.interrupted] else []) ++ rest ∧ .interrupted ∉ rest

theorem exchanges_answer {r r' : Recorded C} {q : Call} {reply : q.Reply}
    (h : Console.answer q r = (reply, r')) :
    r'.exchanges.toList = r.exchanges.toList ++ [⟨q, reply⟩] := by
  obtain ⟨rfl, rfl⟩ := Prod.mk.inj h
  simp

theorem Polled.exchanges {k : Nat} {m m' : Machine (Recorded C)} (h : Polled k m m') :
    ∃ es, m'.console.exchanges.toList = m.console.exchanges.toList ++ es ∧
      (∀ e ∈ es, e.error? = none) ∧
      es.map (·.call) = if 4096 ∣ k then [.interrupted] else [] := by
  cases h with
  | due due answer =>
    exact ⟨_, exchanges_answer answer, by simp [Exchange.error?], by simp [due]⟩
  | skipped free => exact ⟨[], by simp, by simp, by simp [free]⟩

/-- An instruction that was let go on takes one turn, in which nothing follows a failure. -/
theorem Polled.turn {k : Nat} {m m₁ m₂ : Machine (Recorded C)} {out : Outcome Unit}
    (polled : Polled k m m₁) (step : m₁.step = (out, m₂)) :
    ∃ es, m₂.console.exchanges.toList = m.console.exchanges.toList ++ es ∧ Turn k es ∧
      FailStop (fun f => out = .fault f) es := by
  obtain ⟨poll, hpoll, ok, call⟩ := polled.exchanges
  have asked := step_exchanges m₁
  have failStop := step_failStop m₁
  rw [step] at asked failStop
  refine ⟨poll ++ (m₁.cpu.cycle m₁.style).exchanges m₁.console.console, ?_,
    ⟨((m₁.cpu.cycle m₁.style).exchanges m₁.console.console).map (·.call), ?_, ?_⟩,
    failStop.append ok⟩
  · rw [asked, hpoll, List.append_assoc]
  · rw [List.map_append, call]
  · intro h
    obtain ⟨e, he, call⟩ := List.mem_map.1 h
    exact (m₁.cpu.cycle_within m₁.style).exchanges _ e he call

theorem After.turns {k : Nat} {m m' : Machine (Recorded C)} (h : After m k m') :
    ∃ turns : List (List Exchange), turns.length = k ∧
      m'.console.exchanges.toList = m.console.exchanges.toList ++ turns.flatten ∧
      (∀ e ∈ turns.flatten, e.error? = none) ∧
      ∀ i es, turns[i]? = some es → Turn i es := by
  induction h with
  | start => exact ⟨[], rfl, by simp, by simp, by simp⟩
  | @next k m₁ m₂ m₃ _ _ polled step ih =>
    obtain ⟨turns, rfl, asked, ok, turn⟩ := ih
    obtain ⟨es, asked', turn', failStop⟩ := polled.turn step
    have ok' := failStop.all_ok (by simp)
    refine ⟨turns ++ [es], by simp, by simp [asked, asked'], ?_, fun i es' hi => ?_⟩
    · rw [List.flatten_append, List.flatten_singleton]
      exact List.forall_mem_append.2 ⟨ok, ok'⟩
    · rw [List.getElem?_append] at hi
      split at hi
      · exact turn i es' hi
      · obtain ⟨hi, rfl⟩ : i - turns.length = 0 ∧ es = es' := by
          simpa [List.getElem?_singleton] using hi
        rwa [show i = turns.length by omega]

/-- Nothing more is asked once the machine has halted; any other end comes within a turn. -/
theorem Stops.turn {k : Nat} {out : Outcome Unit} {m m' : Machine (Recorded C)}
    (h : Stops k m out m') :
    ∃ es, m'.console.exchanges.toList = m.console.exchanges.toList ++ es ∧
      (if out = .ok () then es = [] else Turn k es) ∧ FailStop (fun f => out = .fault f) es := by
  cases h with
  | halted => exact ⟨[], by simp, by simp, .nil⟩
  | interrupted _ due answer =>
    have asked := exchanges_answer answer
    exact ⟨[⟨.interrupted, .ok true⟩], asked, ⟨[], by simp [due], by simp⟩, .cons rfl .nil⟩
  | pollFailed _ due answer =>
    exact ⟨[⟨.interrupted, .error _⟩], exchanges_answer answer, ⟨[], by simp [due], by simp⟩,
      .of_error rfl rfl⟩
  | fault _ polled step =>
    obtain ⟨es, asked, turn, failStop⟩ := polled.turn step
    exact ⟨es, asked, by simpa using turn, failStop⟩
  | endless _ polled step =>
    obtain ⟨es, asked, turn, failStop⟩ := polled.turn step
    exact ⟨es, asked, by simpa using turn, failStop⟩

theorem poll_unrecorded (m : Machine (Recorded C)) (count : UInt32) :
    m.unrecorded.poll count = ((m.poll count).1, (m.poll count).2.unrecorded) := by
  unfold poll
  split
  · simp only [unrecorded, Console.answer, Recorded.answer]
    rcases Console.answer .interrupted m.console.console with ⟨_ | _ | _, c⟩ <;> rfl
  · rfl

theorem runFrom_unrecorded (m : Machine (Recorded C)) (fuel : Nat) (count : UInt32) :
    m.unrecorded.runFrom fuel count =
      ((m.runFrom fuel count).1, (m.runFrom fuel count).2.unrecorded) := by
  induction fuel generalizing m count with
  | zero =>
    cases status : m.cpu.status with
    | halted => rw [runFrom_halted status, runFrom_halted (m := m.unrecorded) status]
    | running => rw [runFrom_zero status, runFrom_zero (m := m.unrecorded) status]
  | succ fuel ih =>
    cases status : m.cpu.status with
    | halted => rw [runFrom_halted status, runFrom_halted (m := m.unrecorded) status]
    | running =>
      rw [runFrom_succ status, runFrom_succ (m := m.unrecorded) status, poll_unrecorded]
      rcases m.poll count with ⟨_ | f, m₁⟩
      · simp only
        rw [step_unrecorded]
        rcases m₁.step with ⟨_ | f | _, m₂⟩
        · exact ih m₂ (count + 1)
        · rfl
        · rfl
      · rfl

theorem run_unrecorded (m : Machine (Recorded C)) (fuel : Nat) :
    m.unrecorded.run fuel = ((m.run fuel).1, (m.run fuel).2.unrecorded) :=
  runFrom_unrecorded m.begun fuel 0

theorem status_of_row {mem : Memory} {w : Word} {c : C} {s s' : Isa.State}
    (row : Isa.Row mem w s c s') : s'.status = s.status ∨
      s'.status = .halted ∧ w.field 12 4 = 0xF ∧ w.field 0 8 = 0x25 := by
  cases row with
  | halt op vector => exact .inr ⟨rfl, op, vector⟩
  | st | sti | str =>
    left
    unfold Isa.State.store
    split <;> rfl
  | _ => exact .inl rfl

/-- Only `TRAP HALT`, carried out to its end, changes the status. -/
theorem status_of_step {out : Outcome Unit} (h : m.step = (out, m')) :
    m'.cpu.status = m.cpu.status ∨ out = .ok () ∧ m'.cpu.status = .halted ∧
      ∃ w c, (Bus.read m.cpu.mem m.cpu.regs.pc).run m.console = (.ok w, c) ∧
        w.field 12 4 = 0xF ∧ w.field 0 8 = 0x25 := by
  by_cases succeeded : out = .ok ()
  · subst succeeded
    obtain ⟨w, c, fetched, row⟩ := Isa.step_row h
    rcases status_of_row row with kept | ⟨halted, word⟩
    · exact .inl kept
    · exact .inr ⟨rfl, halted, w, c, fetched, word⟩
  · rw [step_cpu h succeeded]
    exact .inl rfl

/-- A run is `step` iterated, polled at a fixed cadence, and only `TRAP HALT` ends it well. -/
theorem run_iterates_step :
    (∀ (m : Machine C) (fuel : Nat) (r : Option (Outcome Unit) × Machine C),
      m.run fuel = r ↔ Gives m.begun fuel r) ∧
    (∀ (m : Machine C) (fuel : Nat), m.cpu.status = .halted →
      m.run fuel = (some (.ok ()), m.begun)) ∧
    (∀ m m' : Machine C, (∃ fuel, m.run fuel = (some (.ok ()), m')) ↔
      ∃ k, After m.begun k m' ∧ m'.cpu.status = .halted) ∧
    (∀ (m m' : Machine (Recorded C)) (k : Nat), After m.begun k m' →
      ∃ turns : List (List Exchange), turns.length = k ∧
        m'.console.exchanges.toList = m.console.exchanges.toList ++ turns.flatten ∧
        ∀ i es, turns[i]? = some es → Turn i es) ∧
    (∀ (m m' : Machine (Recorded C)) (k : Nat) (out : Outcome Unit), Stops k m out m' →
      ∃ es, m'.console.exchanges.toList = m.console.exchanges.toList ++ es ∧
        if out = .ok () then es = [] else Turn k es) ∧
    (∀ (m m' : Machine C) (out : Outcome Unit), m.step = (out, m') →
      m'.cpu.status = m.cpu.status ∨ out = .ok () ∧ m'.cpu.status = .halted ∧
        ∃ w c, (Bus.read m.cpu.mem m.cpu.regs.pc).run m.console = (.ok w, c) ∧
          w.field 12 4 = 0xF ∧ w.field 0 8 = 0x25) := by
  refine ⟨fun m fuel r => run_eq_iff, fun m fuel h => run_halted h fuel, fun m m' => run_ok_iff,
    fun m m' k after => ?_, fun m m' k out stops => ?_, fun m m' out h => status_of_step h⟩
  · obtain ⟨turns, length, asked, -, turn⟩ := after.turns
    exact ⟨turns, length, asked, turn⟩
  · obtain ⟨es, asked, turn, -⟩ := stops.turn
    exact ⟨es, asked, turn⟩

/-- `TRAP HALT` at the origin, and nothing else. -/
def haltOnly : Machine Buffered := ⟨.single 0x3000 0xF025, .ofInput [], .plain⟩

theorem run_iterates_step_haltOnly :
    haltOnly.cpu.status = .running ∧ ∃ fuel m', haltOnly.run fuel = (some (.ok ()), m') ∧
      m'.cpu.status = .halted := by
  have fetched : (Bus.read haltOnly.cpu.mem haltOnly.cpu.regs.pc).run haltOnly.console =
      (.ok 0xF025, haltOnly.console) :=
    congrArg (Dialogue.run · _) (Processor.read_single rfl 0xF025)
  obtain ⟨m', step, halted⟩ : ∃ m', haltOnly.begun.step = (.ok (), m') ∧ m'.cpu.status = .halted :=
    ⟨_, step_eq_ok.2 ⟨.halt, _, Processor.cycle_eq_ok.2 ⟨0xF025, _, fetched, rfl⟩, rfl⟩, rfl⟩
  have polled : Polled 0 haltOnly.begun haltOnly.begun := .due (by simp) rfl
  obtain ⟨fuel, h⟩ := (run_iterates_step.2.2.1 haltOnly m').2
    ⟨1, .next .start rfl polled step, halted⟩
  exact ⟨rfl, fuel, m', h, halted⟩

end LC3.Machine
