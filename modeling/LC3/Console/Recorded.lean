import LC3.Dialogue

/-! A console that keeps every call made of it, with the reply, in order. -/

namespace LC3

structure Exchange where
  call : Call
  reply : call.Reply

structure Recorded (C : Type) where
  console : C
  exchanges : Array Exchange

namespace Recorded

variable {C : Type} [Console C]

def ofConsole (console : C) : Recorded C := ⟨console, #[]⟩

def answer (q : Call) : Recorded C → q.Reply × Recorded C
  | ⟨console, exchanges⟩ =>
    let (reply, console) := Console.answer q console
    (reply, ⟨console, exchanges.push ⟨q, reply⟩⟩)

instance : Console (Recorded C) where
  answer := answer
  hear n recorded := { recorded with console := Console.hear n recorded.console }

def calls (recorded : Recorded C) : List Call := recorded.exchanges.toList.map (·.call)

end Recorded

end LC3
