import LC3.Dialogue
import LC3.Terminal.Crlf
import LC3.Terminal.Tty

/-! The console of an interactive terminal. Keys that have arrived wait as bytes until the program
takes them; a request to stop wins over all of them, and is never forgotten. -/

namespace LC3

/-- What the keys taken so far amount to. -/
structure Inbox where
  pending : List Byte
  interrupted : Bool
deriving DecidableEq

namespace Inbox

def put (inbox : Inbox) (e : Event) : Inbox :=
  match e.meaning with
  | .text bytes => { inbox with pending := inbox.pending ++ bytes }
  | .interrupt => { inbox with interrupted := true }
  | .nothing => inbox

/-- Takes every event that is there now. A failure keeps the keys taken before it. -/
def drain (inbox : Inbox) : List Arrival → Except HostError Unit × Inbox × List Arrival
  | [] => (.ok (), inbox, [])
  | .gap :: rest => (.ok (), inbox, rest)
  | .failure error :: rest => (.error error, inbox, rest)
  | .event e :: rest => (inbox.put e).drain rest

/-- Takes a byte, waiting for events only while there is none. -/
def read (inbox : Inbox) (arrivals : List Arrival) : Except Fault Byte × Inbox × List Arrival :=
  match inbox.interrupted, inbox.pending, arrivals with
  | true, _, _ => (.error .interrupted, inbox, arrivals)
  | false, b :: rest, _ => (.ok b, { inbox with pending := rest }, arrivals)
  | false, [], [] => (.error (.host Tty.exhausted), inbox, [])
  | false, [], .gap :: rest => inbox.read rest
  | false, [], .failure error :: rest => (.error (.host error), inbox, rest)
  | false, [], .event e :: rest => (inbox.put e).read rest
termination_by structural arrivals

end Inbox

structure Terminal where
  tty : Tty
  inbox : Inbox
  output : Array Byte

namespace Terminal

def start (tty : Tty) : Except HostError Terminal :=
  tty.enableRaw.map fun tty => ⟨tty, ⟨[], false⟩, #[]⟩

def stop (terminal : Terminal) : Option HostError × Tty := terminal.tty.restore

def arrive (terminal : Terminal) (arrivals : List Arrival) : Terminal :=
  { terminal with tty := { terminal.tty with arrivals := terminal.tty.arrivals ++ arrivals } }

/-- Takes every event that is there now, then answers from the inbox. -/
def drained (terminal : Terminal) {α : Type} (reply : Inbox → Except Fault α) :
    Except Fault α × Terminal :=
  let (result, inbox, arrivals) := terminal.inbox.drain terminal.tty.arrivals
  let terminal := { terminal with tty := { terminal.tty with arrivals }, inbox }
  match result with
  | .error error => (.error (.host error), terminal)
  | .ok _ => (reply inbox, terminal)

def answer : (q : Call) → Terminal → q.Reply × Terminal
  | .inputReady, terminal =>
    terminal.drained fun inbox =>
      if inbox.interrupted then .error .interrupted else .ok (!inbox.pending.isEmpty)
  | .readByte, terminal =>
    let (reply, inbox, arrivals) := terminal.inbox.read terminal.tty.arrivals
    (reply, { terminal with tty := { terminal.tty with arrivals }, inbox })
  | .write bytes, ⟨tty, inbox, output⟩ => (.ok (), ⟨tty, inbox, writeLines output bytes⟩)
  | .flush, terminal => (.ok (), terminal)
  | .interrupted, terminal => terminal.drained fun inbox => .ok inbox.interrupted

instance : Console Terminal where
  answer := answer

end Terminal

end LC3
