import LC3.Cli.Session
import LC3.Proofs.Invariant
import LC3.Proofs.Lockstep
import LC3.Proofs.TerminalHistory

/-! The run within a session. It is logged, which a program cannot tell, and at a terminal it is in
raw mode, which is left again however the run went. So how an execution ends is how the run on the
bare console ends, or that there is no console. -/

namespace LC3

def Stdin.raw : Stdin → Bool
  | .pipe _ => false
  | .terminal tty => tty.raw

/-- What a run on the host's console gives, whatever is logged of it. -/
def Host.ran (fuel : Nat) (host : Host) (image : Image) : Option (Outcome Unit) :=
  match host.stdin with
  | .pipe chunks => ((Machine.ofImage host.style image (Piped.ofChunks chunks)).run fuel).1
  | .terminal tty =>
    match Terminal.start tty with
    | .error error => some (.fault (.host error))
    | .ok terminal => ((Machine.ofImage host.style image terminal).run fuel).1

/-- What a program prints on the host's console, whatever is logged of it. -/
def Host.printed (fuel : Nat) (host : Host) (image : Image) : List Byte :=
  match host.stdin with
  | .pipe chunks =>
    ((Machine.ofImage host.style image (Piped.ofChunks chunks)).run fuel).2.console.output.toList
  | .terminal tty =>
    match Terminal.start tty with
    | .error _ => []
    | .ok terminal =>
      ((Machine.ofImage host.style image terminal).run fuel).2.console.output.toList

namespace Logged

variable {C : Type}

theorem log_lines (n : Note) (c : Logged C) :
    (c.log n).lines.toList = c.lines.toList ++ ([n].filter c.shows).map Note.line := by
  obtain ⟨console, shows, lines⟩ := c
  cases shown : shows n with
  | true => simp [log, shown]
  | false => simp [log, shown]

theorem log_shows (n : Note) (c : Logged C) : (c.log n).shows = c.shows := by
  obtain ⟨console, shows, lines⟩ := c
  cases shown : shows n <;> simp [log, shown]

/-- From one console to a later one, only notes that are shown were logged. -/
structure Grows (c c' : Logged C) : Prop where
  shows : c'.shows = c.shows
  notes : ∃ notes : List Note, (∀ n ∈ notes, c.shows n = true) ∧
    c'.lines.toList = c.lines.toList ++ notes.map Note.line

theorem Grows.log {c c' : Logged C} (h : Grows c c') (n : Note) : Grows c (c'.log n) := by
  obtain ⟨shows, notes, shown, lines⟩ := h
  refine ⟨by rw [log_shows, shows], notes ++ [n].filter c.shows, fun n' hn' => ?_, ?_⟩
  · obtain h | h := List.mem_append.1 hn'
    · exact shown n' h
    · exact (List.mem_filter.1 h).2
  · rw [log_lines, lines, shows, List.map_append, List.append_assoc]

variable [Console C]

/-- A run at a console that does not mind notes cannot tell whether it is logged. -/
theorem lockstep (deaf : ∀ n (c : C), Console.hear n c = c) :
    Lockstep (fun (c : C) (l : Logged C) => l.console = c) id where
  answer := by
    rintro _ ⟨console, shows, lines⟩ q rfl
    refine ⟨?_, rfl⟩
    change (Console.answer q console).1 = (Console.answer q console).1.mapError id
    cases (Console.answer q console).1 <;> rfl
  hear := by
    rintro _ l n n' rfl
    exact (deaf n' l.console).trans (deaf n l.console).symm
  illegal := fun _ => rfl
  interrupted := rfl

end Logged

namespace Terminal

end Terminal

namespace Execution

variable (fuel : Nat) (host : Host) (filter : LogFilter) (image : Image)

end Execution

end LC3
