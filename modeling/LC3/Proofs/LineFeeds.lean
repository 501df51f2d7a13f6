import LC3.Proofs.TerminalHistory
import Mathlib.Data.List.SplitBy

/-! What a terminal in raw mode is shown. A writer goes through the bytes line by line, and what it
hands on is a carriage return more for each line feed and nothing else. So it does not matter where
the bytes are cut into writes, or what is asked between these, and what was written can be read back
off what is shown. -/

namespace LC3

/-- A carriage return before each line feed, and all other bytes as they are. -/
def crlf (bytes : List Byte) : List Byte :=
  bytes.flatMap fun b => if b = lineFeed then [carriageReturn, lineFeed] else [b]

/-- Deletes each carriage return that stands directly before a line feed. -/
def dropReturns : List Byte → List Byte
  | [] => []
  | b :: bytes =>
    if b = carriageReturn ∧ bytes.head? = some lineFeed then dropReturns bytes
    else b :: dropReturns bytes

def Call.text : Call → List Byte
  | .write bytes => bytes
  | _ => []

/-- All that was to be written, in order. -/
def written (past : List Exchange) : List Byte := past.flatMap fun e => e.call.text

theorem written_snoc (past : List Exchange) (e : Exchange) :
    written (past ++ [e]) = written past ++ e.call.text := by simp [written]

section Crlf

variable {b : Byte}

theorem carriageReturn_ne_lineFeed : carriageReturn ≠ lineFeed := by decide

theorem crlf_lineFeed (bytes : List Byte) :
    crlf (lineFeed :: bytes) = carriageReturn :: lineFeed :: crlf bytes := rfl

theorem crlf_cons (other : b ≠ lineFeed) (bytes : List Byte) :
    crlf (b :: bytes) = b :: crlf bytes := by
  rw [crlf, List.flatMap_cons, if_neg other]
  rfl

theorem crlf_append (xs ys : List Byte) : crlf (xs ++ ys) = crlf xs ++ crlf ys :=
  List.flatMap_append

theorem crlf_of_clear {bytes : List Byte} (clear : ∀ b ∈ bytes, b ≠ lineFeed) :
    crlf bytes = bytes := by
  induction bytes with
  | nil => rfl
  | cons b bytes ih =>
    obtain ⟨first, rest⟩ := List.forall_mem_cons.1 clear
    rw [crlf_cons first, ih rest]

/-- In a line there is no line feed before the last byte. -/
theorem clear_of_mem_lines {bytes line : List Byte} (h : line ∈ lines bytes) :
    ∀ b ∈ line.dropLast, b ≠ lineFeed := by
  have chain : line.IsChain fun b _ => b != lineFeed := List.isChain_of_mem_splitBy h
  clear h
  induction line with
  | nil => nofun
  | cons b line ih =>
    cases line with
    | nil => nofun
    | cons b' line =>
      obtain ⟨first, rest⟩ := List.isChain_cons_cons.1 chain
      rw [List.dropLast_cons_cons]
      exact List.forall_mem_cons.2 ⟨bne_iff_ne.1 first, ih rest⟩

theorem toList_writeLine {line : List Byte} (clear : ∀ b ∈ line.dropLast, b ≠ lineFeed)
    (output : Array Byte) : (writeLine output line).toList = output.toList ++ crlf line := by
  obtain rfl | ⟨start, last, rfl⟩ := line.eq_nil_or_concat'
  · simp [writeLine, crlf]
  rw [List.dropLast_concat] at clear
  rw [writeLine, List.getLast?_concat, List.dropLast_concat, crlf_append, crlf_of_clear clear]
  by_cases feed : last = lineFeed
  · subst feed
    rw [if_pos rfl, Array.toList_appendList, Array.toList_appendList, List.append_assoc]
    rfl
  · rw [if_neg (by simpa using feed), Array.toList_appendList, crlf_cons feed]
    rfl

theorem toList_foldl_writeLine {ls : List (List Byte)}
    (clear : ∀ line ∈ ls, ∀ b ∈ line.dropLast, b ≠ lineFeed) (output : Array Byte) :
    (ls.foldl writeLine output).toList = output.toList ++ crlf ls.flatten := by
  induction ls generalizing output with
  | nil => simp [crlf]
  | cons line ls ih =>
    obtain ⟨first, rest⟩ := List.forall_mem_cons.1 clear
    rw [List.foldl_cons, ih rest, toList_writeLine first, List.flatten_cons, crlf_append,
      List.append_assoc]

/-- Going line by line comes to the same as going byte by byte. -/
theorem toList_writeLines (output : Array Byte) (bytes : List Byte) :
    (writeLines output bytes).toList = output.toList ++ crlf bytes := by
  have whole : (lines bytes).flatten = bytes := List.flatten_splitBy _ bytes
  rw [writeLines, toList_foldl_writeLine fun _ => clear_of_mem_lines, whole]

theorem head?_crlf (bytes : List Byte) : (crlf bytes).head? ≠ some lineFeed := by
  cases bytes with
  | nil => nofun
  | cons b bytes =>
    by_cases feed : b = lineFeed
    · subst feed
      simpa [crlf_lineFeed] using carriageReturn_ne_lineFeed
    · rw [crlf_cons feed]
      simpa using feed

theorem dropReturns_crlf (bytes : List Byte) : dropReturns (crlf bytes) = bytes := by
  induction bytes with
  | nil => rfl
  | cons b bytes ih =>
    by_cases feed : b = lineFeed
    · subst feed
      rw [crlf_lineFeed, dropReturns, if_pos ⟨rfl, rfl⟩, dropReturns,
        if_neg fun both => carriageReturn_ne_lineFeed both.1.symm, ih]
    · -- a carriage return that was written is safe: what is emitted next begins with no line feed
      rw [crlf_cons feed, dropReturns, if_neg fun both => head?_crlf bytes both.2, ih]

/-- No line feed is emitted without its carriage return. -/
theorem return_of_crlf {bytes before after : List Byte}
    (split : crlf bytes = before ++ lineFeed :: after) :
    ∃ start, before = start ++ [carriageReturn] := by
  induction bytes generalizing before with
  | nil => simp [crlf] at split
  | cons b bytes ih =>
    by_cases feed : b = lineFeed
    · subst feed
      rw [crlf_lineFeed] at split
      obtain _ | ⟨b₁, _ | ⟨b₂, before⟩⟩ := before
      · exact absurd (List.cons.inj split).1 carriageReturn_ne_lineFeed
      · obtain ⟨rfl, -⟩ := List.cons.inj split
        exact ⟨[], rfl⟩
      · obtain ⟨start, rfl⟩ := ih (List.cons.inj (List.cons.inj split).2).2
        exact ⟨b₁ :: b₂ :: start, rfl⟩
    · rw [crlf_cons feed] at split
      obtain _ | ⟨b₁, before⟩ := before
      · exact absurd (List.cons.inj split).1 feed
      · obtain ⟨start, rfl⟩ := ih (List.cons.inj split).2
        exact ⟨b₁ :: start, rfl⟩

end Crlf

namespace Terminal

theorem drained_output {α : Type} (t : Terminal) (reply : Inbox → Except Fault α) :
    (t.drained reply).2.output = t.output := by
  unfold drained
  rcases t.inbox.drain t.tty.arrivals with ⟨_ | _, inbox, arrivals⟩ <;> rfl

theorem output_of_answer (q : Call) (t : Terminal) :
    (answer q t).2.output.toList = t.output.toList ++ crlf q.text := by
  cases q with
  | inputReady => simp [answer, drained_output, Call.text, crlf]
  | readByte => simp [answer, Call.text, crlf]
  | write bytes => exact toList_writeLines t.output bytes
  | flush => simp [answer, Call.text, crlf]
  | interrupted => simp [answer, drained_output, Call.text, crlf]

theorem History.output {t₀ t : Terminal} {past : List Served} (h : History t₀ past t) :
    t.output.toList = t₀.output.toList ++ crlf (written (past.map Served.exchange)) := by
  induction h with
  | start => simp [written, crlf]
  | @ask past t t' q reply taken _ answered _ ih =>
    have grown := output_of_answer q t
    rw [answered, ih] at grown
    rw [grown, List.map_append, List.map_singleton, written_snoc, crlf_append, List.append_assoc]
  | arrive _ _ ih => exact ih

/-- What is written line by line is the bytes with a carriage return before each line feed and all
else as it was. Whatever is asked of a terminal, and whatever arrives, it is shown just that, so two
ways of cutting the same bytes into writes show the same; and what was written comes back when the
carriage return directly before each line feed, which none lacks, is deleted. -/
theorem shown_of_history :
    (∀ (output : Array Byte) (bytes : List Byte), (writeLines output bytes).toList =
      output.toList ++ bytes.flatMap fun b => if b = 0x0A then [0x0D, 0x0A] else [b]) ∧
    ∀ (tty : Tty) (t₀ t : Terminal) (past : List Served), Terminal.start tty = .ok t₀ →
      History t₀ past t →
      let shown := t.output.toList
      let text := written (past.map Served.exchange)
      (shown = text.flatMap fun b => if b = 0x0A then [0x0D, 0x0A] else [b]) ∧
      dropReturns shown = text ∧
      (∀ before after, shown = before ++ 0x0A :: after → ∃ start, before = start ++ [0x0D]) ∧
      ∀ (t' : Terminal) (past' : List Served), History t₀ past' t' →
        written (past'.map Served.exchange) = text → t'.output = t.output := by
  refine ⟨toList_writeLines, fun tty t₀ t past started h => ?_⟩
  have fresh : t₀.output.toList = [] := by rw [eq_of_start started]
  have shown : t.output.toList = crlf (written (past.map Served.exchange)) := by
    rw [h.output, fresh, List.nil_append]
  refine ⟨shown, ?_, fun before after split => ?_, fun t' past' h' same => ?_⟩
  · rw [shown, dropReturns_crlf]
  · rw [shown] at split
    exact return_of_crlf split
  · apply Array.toList_inj.1
    rw [h'.output, h.output, same]

/-- One text, cut before a line feed that has a carriage return already, with a look for input at
the cut, and written at once. -/
theorem shown_of_history_returnBefore : ∃ t₀ past t past' t',
    Terminal.start ⟨[], false, false, false⟩ = .ok t₀ ∧ History t₀ past t ∧
      past.map Served.exchange = [⟨.write [0x61, 0x0D], .ok ()⟩, ⟨.inputReady, .ok false⟩,
        ⟨.write [0x0A, 0x0A, 0x62], .ok ()⟩] ∧
      History t₀ past' t' ∧
      past'.map Served.exchange = [⟨.write [0x61, 0x0D, 0x0A, 0x0A, 0x62], .ok ()⟩] ∧
      t.output.toList = [0x61, 0x0D, 0x0D, 0x0A, 0x0D, 0x0A, 0x62] ∧
      dropReturns t.output.toList = [0x61, 0x0D, 0x0A, 0x0A, 0x62] ∧ t'.output = t.output := by
  let t₀ : Terminal := ⟨⟨[], true, false, false⟩, ⟨[], false⟩, #[]⟩
  have started : Terminal.start ⟨[], false, false, false⟩ = .ok t₀ := rfl
  have made : History t₀ [] t₀ := .start
  have wrote := made.ask (q := .write [0x61, 0x0D]) rfl (show _ = [] ++ _ from rfl)
  have looked := wrote.ask (q := .inputReady) rfl (show _ = [] ++ _ from rfl)
  have inTwo := looked.ask (q := .write [0x0A, 0x0A, 0x62]) rfl (show _ = [] ++ _ from rfl)
  have atOnce := made.ask (q := .write [0x61, 0x0D, 0x0A, 0x0A, 0x62]) rfl
    (show _ = [] ++ _ from rfl)
  obtain ⟨shown, back, -, same⟩ := shown_of_history.2 _ _ _ _ started inTwo
  exact ⟨t₀, _, _, _, _, started, inTwo, rfl, atOnce, rfl, shown, back, same _ _ atOnce rfl⟩

end Terminal

end LC3
