import LC3.Note

/-! A dialogue is a computation that talks to a console: it asks, and what it asks next may depend
on the answers. It is data, so what an instruction asks of its console can be read off without
choosing a console, and `run` holds the one rule about failures: a call that fails ends the dialogue
with its fault and nothing is asked after it. -/

namespace LC3

/-- What can be asked of a console. -/
inductive Call where
  /-- Would `readByte` answer without waiting? -/
  | inputReady
  | readByte
  | write (bytes : List Byte)
  | flush
  /-- Did the user ask for the run to stop? -/
  | interrupted
deriving DecidableEq

@[reducible] def Call.Answer : Call → Type
  | .inputReady => Bool
  | .readByte => Byte
  | .write _ => Unit
  | .flush => Unit
  | .interrupted => Bool

abbrev Call.Reply (q : Call) : Type := Except Fault q.Answer

class Console (C : Type) where
  answer : (q : Call) → C → q.Reply × C
  hear : Note → C → C := fun _ console => console

inductive Dialogue (α : Type) where
  | done (a : α)
  | fault (f : Fault)
  /-- The computation never ends, and asks nothing more. -/
  | endless
  | ask (q : Call) (next : q.Answer → Dialogue α)
  | note (n : Note) (next : Dialogue α)

inductive Outcome (α : Type) where
  | ok (a : α)
  | fault (f : Fault)
  | endless
deriving DecidableEq

namespace Dialogue

variable {α β C : Type}

def bind : Dialogue α → (α → Dialogue β) → Dialogue β
  | done a, f => f a
  | fault e, _ => fault e
  | endless, _ => endless
  | ask q next, f => ask q fun a => (next a).bind f
  | note n next, f => note n (next.bind f)

instance : Monad Dialogue where
  pure := done
  bind := bind

def run [Console C] : Dialogue α → C → Outcome α × C
  | done a, console => (.ok a, console)
  | fault e, console => (.fault e, console)
  | endless, console => (.endless, console)
  | ask q next, console =>
    match Console.answer q console with
    | (.ok a, console) => (next a).run console
    | (.error e, console) => (.fault e, console)
  | note n next, console => next.run (Console.hear n console)

/-- A dialogue that goes on talks to the console its first part leaves behind. -/
theorem run_bind [Console C] (d : Dialogue α) (f : α → Dialogue β) (console : C) :
    (d.bind f).run console =
      match d.run console with
      | (.ok a, console) => (f a).run console
      | (.fault e, console) => (.fault e, console)
      | (.endless, console) => (.endless, console) := by
  induction d generalizing console with
  | done a => rfl
  | fault e => rfl
  | endless => rfl
  | ask q next ih =>
    rw [bind, run, run]
    split
    · exact ih _ _
    · rfl
  | note n next ih => exact ih _

def inputReady : Dialogue Bool := ask .inputReady done

def readByte : Dialogue Byte := ask .readByte done

def tell (n : Note) : Dialogue Unit := note n (done ())

/-- No bytes are left unflushed. -/
def print (bytes : List Byte) : Dialogue Unit :=
  ask (.write bytes) fun _ => ask .flush fun _ => done ()

end Dialogue

end LC3
