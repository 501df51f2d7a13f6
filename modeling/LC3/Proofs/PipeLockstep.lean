import LC3.Proofs.Lockstep
import LC3.Proofs.Pipe

/-! A machine at a pipe against the same machine at a console in memory. Where no read of the source
fails for good, what the pipe still has to give is the input that the other console still holds, and
neither is ever interrupted, so whatever is shown of a machine on input in memory holds of it on
redirected input. -/

namespace LC3

namespace Chunk

def contents : Chunk → List Byte
  | .bytes read => read
  | .failure _ => []

def beforeEnd (chunks : List Chunk) : List Byte :=
  (chunks.takeWhile (· ≠ .bytes [])).flatMap contents

/-- A source whose failing reads were all only interrupted gives its bytes up to the end. -/
theorem gather_of_works {chunks : List Chunk}
    (works : ∀ error, .failure error ∈ chunks → error.kind = .interrupted) :
    gather chunks = (beforeEnd chunks, none) := by
  fun_induction gather chunks with
  | case1 => rfl
  | case2 rest => rfl
  | case3 read rest nonempty more ending gathered ih =>
    have rest_works : ∀ error, .failure error ∈ rest → error.kind = .interrupted :=
      fun error found => works error (.tail _ found)
    obtain ⟨rfl, rfl⟩ := Prod.mk.inj (gathered.symm.trans (ih rest_works))
    have goes_on : Chunk.bytes read ≠ .bytes [] := fun h => nonempty (Chunk.bytes.inj h)
    simp [beforeEnd, contents, goes_on]
  | case4 error rest retried ih =>
    have rest_works : ∀ error, .failure error ∈ rest → error.kind = .interrupted :=
      fun error found => works error (.tail _ found)
    rw [ih rest_works]
    simp [beforeEnd, contents]
  | case5 error rest failed => exact absurd (works error (.head _)) failed

end Chunk

namespace Piped

/-- A console in memory and a pipe with the same bytes still to come and the same output. -/
structure Mirrors (b : Buffered) (p : Piped) : Prop where
  input : p.remaining = b.input.map .ok
  output : p.output = b.output
  calm : b.interrupted = false

theorem answer_output (q : Call) (p : Piped) :
    (answer q p).2.output = match q with | .write bytes => p.output ++ bytes | _ => p.output := by
  obtain ⟨queue, peeked, source, output⟩ := p
  cases q with
  | inputReady => obtain _ | _ | _ := peeked <;> obtain _ | ⟨_ | _, _⟩ := queue <;> rfl
  | readByte => obtain _ | _ | _ := peeked <;> obtain _ | ⟨_ | _, _⟩ := queue <;> rfl
  | _ => rfl

theorem Mirrors.serve {b : Buffered} {p : Piped} (h : Mirrors b p) (q : Call) :
    Piped.serve q p.remaining =
      ((Buffered.answer q b).1, (Buffered.answer q b).2.input.map .ok) := by
  obtain ⟨input, output, interrupted⟩ := b
  obtain rfl : interrupted = false := h.calm
  rw [h.input]
  cases q with
  | inputReady => cases input <;> rfl
  | readByte => cases input <;> rfl
  | _ => rfl

theorem Mirrors.answer {b : Buffered} {p : Piped} (h : Mirrors b p) (q : Call) :
    (answer q p).1 = (Buffered.answer q b).1 ∧ Mirrors (Buffered.answer q b).2 (answer q p).2 := by
  obtain ⟨reply, left⟩ := answer_serve q p
  rw [h.serve q] at reply left
  refine ⟨reply, left, ?_, ?_⟩
  · rw [answer_output, h.output]
    obtain ⟨_ | _, _, _⟩ := b <;> cases q <;> rfl
  · rw [← h.calm]
    obtain ⟨_ | _, _, _⟩ := b <;> cases q <;> rfl

theorem lockstep : Lockstep Mirrors id where
  answer := by
    intro b p q h
    obtain ⟨reply, after⟩ := h.answer q
    refine ⟨reply.trans ?_, after⟩
    cases (Buffered.answer q b).1 <;> rfl
  hear _ _ h := h
  illegal _ := rfl
  interrupted := rfl

theorem mirrors_ofChunks {chunks : List Chunk}
    (works : ∀ error, .failure error ∈ chunks → error.kind = .interrupted) :
    Mirrors (.ofInput (Chunk.beforeEnd chunks)) (ofChunks chunks) where
  input := by
    rw [remaining_ofChunks, Chunk.gather_of_works works]
    exact List.append_nil _
  output := rfl
  calm := rfl

end Piped

namespace Machine

/-- The same processor, at a pipe and at a console in memory that holds what the source gives
before its end: any steps and runs give the same results and the same faults, and leave the same
processor, the same output and the same bytes to read. -/
theorem pipe_lockstep_buffered (cpu : Processor) (style : Style) {chunks : List Chunk}
    (works : ∀ error, .failure error ∈ chunks → error.kind = .interrupted)
    (calls : List Action) :
    let buffered := (mk cpu (Buffered.ofInput (Chunk.beforeEnd chunks)) style).acts calls
    let piped := (mk cpu (Piped.ofChunks chunks) style).acts calls
    piped.1 = buffered.1 ∧ piped.2.cpu = buffered.2.cpu ∧
      piped.2.console.output = buffered.2.console.output ∧
      piped.2.console.remaining = buffered.2.console.input.map .ok := by
  intro buffered piped
  have started_alike : (mk cpu (Buffered.ofInput (Chunk.beforeEnd chunks)) style).Matches
      Piped.Mirrors (mk cpu (Piped.ofChunks chunks) style) :=
    ⟨rfl, rfl, Piped.mirrors_ofChunks works⟩
  obtain ⟨outs, after⟩ := Piped.lockstep.acts started_alike calls
  have unnamed : (Option.map (Outcome.mapFault id) : Option (Outcome Unit) → _) = id := by
    rw [funext Outcome.mapFault_id]
    exact Option.map_id
  rw [unnamed, List.map_id] at outs
  exact ⟨outs, after.cpu, after.console.output, after.console.input⟩

/-- A pipe that is tried again, gives three bytes in two reads and ends. What a file that grows
would give later does not count. -/
def hesitantPipe : List Chunk :=
  [.failure ⟨.interrupted, "try again"⟩, .bytes [0x68], .bytes [0x69, 0x6A], .bytes [],
    .bytes [0x21]]

theorem pipe_lockstep_buffered_getc :
    let piped := (mk (.single 0x3000 0xF020) (Piped.ofChunks hesitantPipe) .plain).acts [.step]
    piped.1 = [some (.ok ())] ∧ piped.2.cpu.regs.get 0 = 0x68 ∧
      piped.2.console.remaining = [.ok 0x69, .ok 0x6A] := by
  intro piped
  have works : ∀ error, .failure error ∈ hesitantPipe → error.kind = .interrupted := by
    simp [hesitantPipe]
  obtain ⟨outs, cpu, -, left⟩ :=
    pipe_lockstep_buffered (.single 0x3000 0xF020) .plain works [.step]
  have step : (mk (.single 0x3000 0xF020) (Buffered.ofInput [0x68, 0x69, 0x6A]) .plain).step =
      (.ok (), ⟨(Processor.single 0x3000 0xF020).advance.commit (.load 0 (.ofByte 0x68)),
        .ofInput [0x69, 0x6A], .plain⟩) := step_single rfl rfl
  have given : Chunk.beforeEnd hesitantPipe = [0x68, 0x69, 0x6A] := rfl
  simp only [given, acts_step step] at outs cpu left
  refine ⟨outs, ?_, left⟩
  rw [cpu]
  rfl

end Machine

end LC3
