import LC3.HostError
import LC3.Terminal.Key

/-! The terminal device: what arrives from it, in order, and whether it is in raw mode, where keys
come as they are pressed and nothing is echoed. Either change of mode may be refused. -/

namespace LC3

inductive Arrival where
  | event (e : Event)
  /-- Nothing is there for now; more may come later. -/
  | gap
  | failure (error : HostError)
deriving DecidableEq

structure Tty where
  arrivals : List Arrival
  raw : Bool
  refusesRaw : Bool
  refusesRestore : Bool
deriving DecidableEq

namespace Tty

def exhausted : HostError := ⟨.other, "no more events"⟩

def enableRaw (tty : Tty) : Except HostError Tty :=
  if tty.refusesRaw then .error ⟨.other, "raw mode refused"⟩ else .ok { tty with raw := true }

/-- Leaves raw mode, unless that is refused. -/
def restore (tty : Tty) : Option HostError × Tty :=
  if tty.refusesRestore then (some ⟨.other, "restore refused"⟩, tty)
  else (none, { tty with raw := false })

end Tty

end LC3
