import LC3.Dialogue

/-! A console that writes a line for each note it hears and is asked to show. -/

namespace LC3

structure Logged (C : Type) where
  console : C
  shows : Note → Bool
  lines : Array String

namespace Logged

variable {C : Type}

def ofConsole (shows : Note → Bool) (console : C) : Logged C := ⟨console, shows, #[]⟩

def log (n : Note) : Logged C → Logged C
  | ⟨console, shows, lines⟩ =>
    if shows n then ⟨console, shows, lines.push n.line⟩ else ⟨console, shows, lines⟩

variable [Console C]

def answer (q : Call) : Logged C → q.Reply × Logged C
  | ⟨console, shows, lines⟩ =>
    let (reply, console) := Console.answer q console
    (reply, ⟨console, shows, lines⟩)

instance : Console (Logged C) where
  answer := answer
  hear n logged := { logged.log n with console := Console.hear n logged.console }

end Logged

end LC3
