import LC3.Dialogue

/-! A console that fails on purpose: chosen calls fail before they reach the console behind it, and
from a chosen poll on the user seems to have asked for a stop. -/

namespace LC3

namespace Call

inductive Kind where
  | inputReady
  | readByte
  | write
  | flush
  | interrupted
deriving DecidableEq

def kind : Call → Kind
  | .inputReady => .inputReady
  | .readByte => .readByte
  | .write _ => .write
  | .flush => .flush
  | .interrupted => .interrupted

end Call

/-- How often each kind of call was made. -/
structure Tally where
  inputReady : Nat
  readByte : Nat
  write : Nat
  flush : Nat
  interrupted : Nat
deriving DecidableEq

namespace Tally

def none : Tally := ⟨0, 0, 0, 0, 0⟩

def of (tally : Tally) : Call.Kind → Nat
  | .inputReady => tally.inputReady
  | .readByte => tally.readByte
  | .write => tally.write
  | .flush => tally.flush
  | .interrupted => tally.interrupted

def count (tally : Tally) : Call.Kind → Tally
  | .inputReady => { tally with inputReady := tally.inputReady + 1 }
  | .readByte => { tally with readByte := tally.readByte + 1 }
  | .write => { tally with write := tally.write + 1 }
  | .flush => { tally with flush := tally.flush + 1 }
  | .interrupted => { tally with interrupted := tally.interrupted + 1 }

end Tally

/-- The call of a kind to fail, counted from 1 and over failing calls too, and how it fails. -/
structure PlannedFailure where
  kind : Call.Kind
  number : Nat
  error : HostError
deriving DecidableEq

structure Faulty (C : Type) where
  console : C
  plan : List PlannedFailure
  made : Tally
  /-- The first poll to answer true, counted from 1 over the polls that do not fail; so 0 means all,
  like 1. -/
  interruptFrom : Option Nat
  polls : Nat

namespace Faulty

variable {C : Type} [Console C]

def ofConsole (plan : List PlannedFailure) (interruptFrom : Option Nat) (console : C) : Faulty C :=
  ⟨console, plan, .none, interruptFrom, 0⟩

/-- How the call that `made` counts last is planned to fail, if it is. -/
def planned? (faulty : Faulty C) (kind : Call.Kind) : Option HostError :=
  (faulty.plan.find? fun p => p.kind = kind ∧ p.number = faulty.made.of kind).map (·.error)

def pass (faulty : Faulty C) (q : Call) : q.Reply × Faulty C :=
  let (reply, console) := Console.answer q faulty.console
  (reply, { faulty with console })

def answer (q : Call) (faulty : Faulty C) : q.Reply × Faulty C :=
  let faulty := { faulty with made := faulty.made.count q.kind }
  match faulty.planned? q.kind with
  | some error => (.error (.host error), faulty)
  | none =>
    match q with
    | .interrupted =>
      let faulty := { faulty with polls := faulty.polls + 1 }
      if faulty.interruptFrom.any (· ≤ faulty.polls) then (.ok true, faulty)
      else faulty.pass .interrupted
    | q => faulty.pass q

instance : Console (Faulty C) where
  answer := answer
  hear n faulty := { faulty with console := Console.hear n faulty.console }

end Faulty

end LC3
