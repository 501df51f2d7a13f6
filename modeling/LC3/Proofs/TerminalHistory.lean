import LC3.Proofs.Inbox

/-! The keys of a terminal through all calls made of it. Each call takes a front part of what has
arrived and leaves the rest, so over any calls, with more arriving at any point and failures
anywhere, no byte is lost, doubled or moved. -/

namespace LC3

/-- A call made of a terminal, and what it took from the device. -/
structure Served where
  exchange : Exchange
  taken : List Arrival

namespace Terminal

/-- Calls in any order, and arrivals between them, bring a terminal from `t₀` to where it is now. -/
inductive History (t₀ : Terminal) : List Served → Terminal → Prop where
  | start : History t₀ [] t₀
  | ask {past : List Served} {t t' : Terminal} {q : Call} {reply : q.Reply} {taken : List Arrival}
      (before : History t₀ past t) (answered : answer q t = (reply, t'))
      (took : t.tty.arrivals = taken ++ t'.tty.arrivals) :
    History t₀ (past ++ [⟨⟨q, reply⟩, taken⟩]) t'
  | arrive {past : List Served} {t : Terminal} (before : History t₀ past t)
      (more : List Arrival) : History t₀ past (t.arrive more)

def takenBy (past : List Served) : List Arrival := past.flatMap Served.taken

section Calls

variable (t : Terminal)

/-- A call that takes all there is answers from the inbox, unless the device has failed. -/
theorem drained_takes {α : Type} (reply : Inbox → Except Fault α) : ∃ taken,
    t.tty.arrivals = taken ++ (t.drained reply).2.tty.arrivals ∧
      t.inbox.Accounts taken [] (t.drained reply).2.inbox ∧
        (Inbox.Drains taken (.ok ()) ∧ (t.drained reply).1 = reply (t.drained reply).2.inbox ∨
          ∃ error, Inbox.Drains taken (.error error) ∧
            (t.drained reply).1 = .error (.host error)) := by
  obtain ⟨taken, split, accounts, drains⟩ := t.inbox.drain_takes t.tty.arrivals
  refine ⟨taken, ?_⟩
  revert split accounts drains
  unfold drained
  rcases t.inbox.drain t.tty.arrivals with ⟨error | _, inbox, arrivals⟩
  · exact fun split accounts drains => ⟨split, accounts, .inr ⟨error, drains, rfl⟩⟩
  · exact fun split accounts drains => ⟨split, accounts, .inl ⟨drains, rfl⟩⟩

theorem readByte_takes : ∃ taken,
    t.tty.arrivals = taken ++ (answer .readByte t).2.tty.arrivals ∧
      t.inbox.Reads taken (answer .readByte t).2.tty.arrivals (answer .readByte t).1
        (answer .readByte t).2.inbox := t.inbox.read_takes t.tty.arrivals

theorem answer_takes (q : Call) : ∃ taken,
    t.tty.arrivals = taken ++ (answer q t).2.tty.arrivals ∧
      t.inbox.Accounts taken (Exchange.bytes ⟨q, (answer q t).1⟩) (answer q t).2.inbox := by
  cases q with
  | inputReady =>
    obtain ⟨taken, split, accounts, -⟩ := t.drained_takes _
    exact ⟨taken, split, accounts⟩
  | readByte =>
    obtain ⟨taken, split, reads⟩ := t.readByte_takes
    exact ⟨taken, split, reads.accounts⟩
  | write bytes => exact ⟨[], rfl, .refl t.inbox⟩
  | flush => exact ⟨[], rfl, .refl t.inbox⟩
  | interrupted =>
    obtain ⟨taken, split, accounts, -⟩ := t.drained_takes _
    exact ⟨taken, split, accounts⟩

end Calls

theorem accounts_of_answer {t t' : Terminal} {q : Call} {reply : q.Reply} {taken : List Arrival}
    (answered : answer q t = (reply, t')) (took : t.tty.arrivals = taken ++ t'.tty.arrivals) :
    t.inbox.Accounts taken (Exchange.bytes ⟨q, reply⟩) t'.inbox := by
  obtain ⟨taken', split, accounts⟩ := t.answer_takes q
  rw [answered] at split accounts
  rwa [List.append_cancel_right (took.symm.trans split)]

namespace History

variable {t₀ t : Terminal} {past : List Served}

theorem asked (h : History t₀ past t) (q : Call) : ∃ taken,
    History t₀ (past ++ [⟨⟨q, (answer q t).1⟩, taken⟩]) (answer q t).2 := by
  obtain ⟨taken, split, -⟩ := t.answer_takes q
  exact ⟨taken, h.ask rfl split⟩

theorem accounts (h : History t₀ past t) :
    t₀.inbox.Accounts (takenBy past) (delivered (past.map Served.exchange)) t.inbox := by
  induction h with
  | start => exact .refl t₀.inbox
  | ask _ answered took ih =>
    have both := ih.trans (accounts_of_answer answered took)
    simpa [takenBy, delivered] using both
  | arrive _ _ ih => exact ih

end History

theorem eq_of_start {tty : Tty} {t : Terminal} (h : Terminal.start tty = .ok t) :
    t = ⟨{ tty with raw := true }, ⟨[], false⟩, #[]⟩ := by
  unfold Terminal.start Tty.enableRaw at h
  split at h
  · exact nomatch h
  · exact (Except.ok.inj h).symm

theorem start_inbox {tty : Tty} {t : Terminal} (h : Terminal.start tty = .ok t) :
    t.inbox = ⟨[], false⟩ := by rw [eq_of_start h]

/-- After any calls, and arrivals between them, what was read and what is pending are together what
was typed by the events taken, and the wish to stop is there if one of them was it. A next read
takes nothing if a byte or the wish is there, and else goes on to the first event that counts. -/
theorem typed_of_history {tty : Tty} {t₀ t : Terminal} {past : List Served}
    (started : Terminal.start tty = .ok t₀) (h : History t₀ past t) :
    delivered (past.map Served.exchange) ++ t.inbox.pending = typed (takenBy past) ∧
      (t.inbox.interrupted = true ↔ ∃ a ∈ takenBy past, a.Interrupts) ∧
      (t.inbox.interrupted = true ∨ t.inbox.pending ≠ [] →
        (answer .readByte t).2.tty = t.tty) ∧
      (∃ taken, t.tty.arrivals = taken ++ (answer .readByte t).2.tty.arrivals ∧
        t.inbox.Reads taken (answer .readByte t).2.tty.arrivals (answer .readByte t).1
          (answer .readByte t).2.inbox) ∧
      ∀ q, ∃ taken,
        History t₀ (past ++ [⟨⟨q, (answer q t).1⟩, taken⟩]) (answer q t).2 := by
  have accounts := h.accounts
  rw [start_inbox started] at accounts
  refine ⟨accounts.bytes, by simpa using accounts.interrupted, fun held => ?_, t.readByte_takes,
    h.asked⟩
  exact congrArg (fun arrivals => { t.tty with arrivals }) (Inbox.read_keeps held t.tty.arrivals)

def ctrlC : Arrival := .event (.key ⟨.char 'c', .onlyCtrl, .press⟩)

def accented (motion : KeyMotion) : Arrival := .event (.key ⟨.char 'é', .none, motion⟩)

/-- A read and a look for more, then a request to stop, which leaves the second byte unread. -/
theorem typed_of_history_accented : ∃ t₀ past t,
    Terminal.start ⟨[accented .press, accented .release], false, false, false⟩ = .ok t₀ ∧
      History t₀ past t ∧
      past.map Served.exchange =
        [⟨.readByte, .ok 0xC3⟩, ⟨.inputReady, .ok true⟩, ⟨.interrupted, .ok true⟩] ∧
      [0xC3] ++ t.inbox.pending = typed [accented .press, accented .release, ctrlC] ∧
      (answer .readByte t).1 = .error .interrupted := by
  let keys : List Arrival := [accented .press, accented .release]
  let t₀ : Terminal := ⟨⟨keys, true, false, false⟩, ⟨[], false⟩, #[]⟩
  have started : Terminal.start ⟨keys, false, false, false⟩ = .ok t₀ := rfl
  have made : History t₀ [] t₀ := .start
  have read := made.ask (q := .readByte) rfl (show _ = [accented .press] ++ _ from rfl)
  have looked := read.ask (q := .inputReady) rfl (show _ = [accented .release] ++ _ from rfl)
  have stopped := (looked.arrive [ctrlC]).ask (q := .interrupted) rfl
    (show _ = [ctrlC] ++ _ from rfl)
  obtain ⟨bytes, -⟩ := typed_of_history started stopped
  exact ⟨t₀, _, _, started, stopped, rfl, bytes, rfl⟩

end Terminal

end LC3
