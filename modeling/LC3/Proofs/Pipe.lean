import LC3.Console.Piped
import LC3.Proofs.History

/-! What comes out of a pipe. The reader queues the bytes of its source and then the failure it ends
in. A look for a byte may take an item out of the queue and hold it, but seen from outside a console
still serves one list from its front: each byte once, then the failure once, then nothing. -/

namespace LC3

namespace Chunk

/-- All bytes that a source has for its reader, and the failure behind them if it ends in one. An
interrupted read counts for nothing, and nothing behind an empty read or a failure counts. -/
def gather : List Chunk → List Byte × Option HostError
  | [] | .bytes [] :: _ => ([], none)
  | .bytes read :: rest =>
    let (more, ending) := gather rest
    (read ++ more, ending)
  | .failure error :: rest => if error.kind = .interrupted then gather rest else ([], some error)

theorem gather_next (source : List Chunk) :
    gather source =
      match next source with
      | (some (.ok b), rest) => (b :: (gather rest).1, (gather rest).2)
      | (some (.error error), _) => ([], some error)
      | (none, _) => ([], none) := by
  fun_induction next source with
  | case1 => rfl
  | case2 => rfl
  | case3 b rest => rfl
  | case4 b more rest long =>
    cases more with
    | nil => exact absurd rfl long
    | cons b' more => rfl
  | case5 error rest retried ih => rw [gather, if_pos retried, ih]
  | case6 error rest failed => rw [gather, if_neg failed]

def supplies : List Byte × Option HostError → List Supply
  | (read, ending) => read.map .ok ++ ending.toList.map .error

theorem send_fst (queued : List Supply) (source : List Chunk) :
    (send queued source).1 = queued.reverse ++ supplies (gather source) := by
  fun_induction send queued source with
  | case1 queued source b rest read ih =>
    rw [ih, gather_next source, read]
    simp [supplies]
  | case2 queued source error rest read =>
    rw [gather_next source, read]
    simp [supplies]
  | case3 queued source rest read =>
    rw [gather_next source, read]
    simp [supplies]

end Chunk

namespace Piped

/-- The items still to be had, whether or not the first one is out of the queue. -/
def remaining (console : Piped) : List Supply := console.peeked.toList ++ console.queue

theorem remaining_ofChunks (chunks : List Chunk) :
    (ofChunks chunks).remaining = Chunk.supplies (Chunk.gather chunks) :=
  Chunk.send_fst [] chunks

/-- Calls served from the front of a list. A failure is gone once it is reported, a byte once it is
read. -/
def serve : (q : Call) → List Supply → q.Reply × List Supply
  | .inputReady, .ok b :: rest => (.ok true, .ok b :: rest)
  | .inputReady, .error error :: rest => (.error (.host error), rest)
  | .inputReady, [] => (.ok false, [])
  | .readByte, .ok b :: rest => (.ok b, rest)
  | .readByte, .error error :: rest => (.error (.host error), rest)
  | .readByte, [] => (.error .inputClosed, [])
  | .write _, items => (.ok (), items)
  | .flush, items => (.ok (), items)
  | .interrupted, items => (.ok false, items)

theorem answer_serve (q : Call) (console : Piped) :
    (answer q console).1 = (serve q console.remaining).1 ∧
      (answer q console).2.remaining = (serve q console.remaining).2 := by
  obtain ⟨queue, peeked, source, output⟩ := console
  cases q with
  | inputReady => obtain _ | _ | _ := peeked <;> obtain _ | ⟨_ | _, _⟩ := queue <;> exact ⟨rfl, rfl⟩
  | readByte => obtain _ | _ | _ := peeked <;> obtain _ | ⟨_ | _, _⟩ := queue <;> exact ⟨rfl, rfl⟩
  | _ => exact ⟨rfl, rfl⟩

/-- How far a console has come with what its source had to give: all along the bytes, and then past
the failure. -/
inductive Stage (gathered : List Byte × Option HostError) (past : List Exchange) :
    List Supply → Prop where
  | supplying {left : List Byte} (bytes : gathered.1 = delivered past ++ left)
      (silent : reported past = []) : Stage gathered past (Chunk.supplies (left, gathered.2))
  | failed {error : HostError} (bytes : gathered.1 = delivered past)
      (ending : gathered.2 = some error) (once : reported past = [error]) : Stage gathered past []

namespace Stage

variable {gathered : List Byte × Option HostError} {past : List Exchange} {items : List Supply}

theorem quiet (h : Stage gathered past items) {e : Exchange} (bytes : e.bytes = [])
    (failure : e.failure? = none) : Stage gathered (past ++ [e]) items := by
  cases h with
  | supplying gathers silent =>
    refine .supplying ?_ ?_
    · rw [delivered_snoc, bytes, List.append_nil, gathers]
    · rw [reported_snoc, silent, failure]; rfl
  | failed gathers ending once =>
    refine .failed ?_ ending ?_
    · rw [delivered_snoc, bytes, List.append_nil, gathers]
    · rw [reported_snoc, once, failure]; rfl

theorem fails (gathers : gathered.1 = delivered past) {error : HostError}
    (ending : gathered.2 = some error) (silent : reported past = []) {e : Exchange}
    (bytes : e.bytes = []) (failure : e.failure? = some error) :
    Stage gathered (past ++ [e]) [] := by
  refine .failed ?_ ending ?_
  · rw [delivered_snoc, bytes, List.append_nil, gathers]
  · rw [reported_snoc, silent, failure]; rfl

theorem serve_nil (h : Stage gathered past []) (q : Call) :
    Stage gathered (past ++ [⟨q, (Piped.serve q []).1⟩]) (Piped.serve q []).2 := by
  cases q <;> exact h.quiet rfl rfl

theorem serve (h : Stage gathered past items) (q : Call) :
    Stage gathered (past ++ [⟨q, (Piped.serve q items).1⟩]) (Piped.serve q items).2 := by
  cases h with
  | failed bytes ending once => exact (failed bytes ending once).serve_nil q
  | @supplying left bytes silent =>
    have here : Stage gathered past (Chunk.supplies (left, gathered.2)) := supplying bytes silent
    obtain ⟨all, ending⟩ := gathered
    obtain _ | ⟨b, more⟩ := left
    · obtain _ | error := ending
      · exact here.serve_nil q
      · rw [List.append_nil] at bytes
        cases q with
        | inputReady => exact fails bytes rfl silent rfl rfl
        | readByte => exact fails bytes rfl silent rfl rfl
        | _ => exact here.quiet rfl rfl
    · cases q with
      | readByte =>
        refine supplying ?_ ?_
        · rw [delivered_snoc, List.append_assoc]
          exact bytes
        · rw [reported_snoc, silent]
          rfl
      | _ => exact here.quiet rfl rfl

theorem of_history {chunks : List Chunk} {console : Piped}
    (h : Console.History (ofChunks chunks) past console) :
    Stage (Chunk.gather chunks) past console.remaining := by
  induction h with
  | start =>
    rw [remaining_ofChunks]
    exact supplying rfl rfl
  | @ask past c c' q reply _ answered ih =>
    have next := ih.serve q
    rwa [← (answer_serve q c).1, ← (answer_serve q c).2,
      show answer q c = (reply, c') from answered] at next

end Stage

/-- Through any calls, the bytes read are the first of those the source has, once each and in order.
While one is left the console is ready for it. The failure that ends the source is reported once, by
the first look or read after the last byte, and after that the input is closed. -/
theorem supplied_of_history {chunks : List Chunk} {past : List Exchange} {console : Piped}
    (h : Console.History (ofChunks chunks) past console) :
    ∃ left, (Chunk.gather chunks).1 = delivered past ++ left ∧
      (reported past = [] ∨
        left = [] ∧ ∃ error, (Chunk.gather chunks).2 = some error ∧ reported past = [error]) ∧
      (∀ b more, left = b :: more →
        (answer .inputReady console).1 = .ok true ∧ (answer .readByte console).1 = .ok b) ∧
      (∀ error, left = [] → (Chunk.gather chunks).2 = some error → reported past = [] →
        (answer .inputReady console).1 = .error (.host error) ∧
          (answer .readByte console).1 = .error (.host error)) ∧
      (left = [] → ((Chunk.gather chunks).2 = none ∨ reported past ≠ []) →
        (answer .inputReady console).1 = .ok false ∧
          (answer .readByte console).1 = .error .inputClosed) := by
  have stage := Stage.of_history h
  rw [(answer_serve .inputReady console).1, (answer_serve .readByte console).1]
  generalize console.remaining = items at stage
  cases stage with
  | @supplying left bytes silent =>
    refine ⟨left, bytes, .inl silent, ?_, ?_, ?_⟩
    · rintro b more rfl
      exact ⟨rfl, rfl⟩
    · rintro error rfl ending -
      rw [ending]
      exact ⟨rfl, rfl⟩
    · rintro rfl (none | told)
      · rw [none]
        exact ⟨rfl, rfl⟩
      · exact absurd silent told
  | @failed error bytes ending once =>
    refine ⟨[], by rw [List.append_nil, bytes], .inr ⟨rfl, error, ending, once⟩, ?_, ?_, ?_⟩
    · exact fun b more none => nomatch none
    · exact fun error _ _ silent => absurd (once.symm.trans silent) (by simp)
    · exact fun _ _ => ⟨rfl, rfl⟩

def pipeBroke : HostError := ⟨.brokenPipe, "pipe broke"⟩

/-- A pipe that breaks after two bytes. The read between them was only interrupted. -/
def brokenPipe : List Chunk :=
  [.bytes [0x68], .failure ⟨.interrupted, "try again"⟩, .bytes [0x69], .failure pipeBroke,
    .bytes [0x21]]

theorem supplied_of_history_brokenPipe : ∃ console,
    Console.History (ofChunks brokenPipe)
        [⟨.inputReady, .ok true⟩, ⟨.readByte, .ok 0x68⟩, ⟨.readByte, .ok 0x69⟩,
          ⟨.inputReady, .error (.host pipeBroke)⟩] console ∧
      (answer .inputReady console).1 = .ok false ∧
      (answer .readByte console).1 = .error .inputClosed := by
  have queued : ofChunks brokenPipe =
      ⟨[.ok 0x68, .ok 0x69, .error pipeBroke], none, [.bytes [0x21]], #[]⟩ := by
    simp [ofChunks, brokenPipe, pipeBroke, Chunk.send, Chunk.next]
  have made : Console.History (ofChunks brokenPipe) [] _ := .start
  rw [queued] at made
  have looked := made.ask (q := .inputReady) rfl
  have read := (looked.ask (q := .readByte) rfl).ask (q := .readByte) rfl
  have failed := read.ask (q := .inputReady) rfl
  rw [← queued] at failed
  obtain ⟨left, -, silent | ⟨empty, -⟩, -, -, closed⟩ := supplied_of_history failed
  · exact nomatch silent
  · exact ⟨_, failed, closed empty (.inr nofun)⟩

end Piped

end LC3
