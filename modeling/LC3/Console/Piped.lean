import LC3.Dialogue

/-! A console whose input is a pipe or a file. A reader of its own takes the source byte by byte and
queues what it gets, all of it before the run. A failure of the reader ends the input: the first
call that finds no byte before it reports it, and after that the input is closed. To see whether a
byte is ready, the next item is taken out of the queue; a byte is held back for the next read. -/

namespace LC3

/-- What one read of the source gives. No bytes are the end of the source. -/
inductive Chunk where
  | bytes (read : List Byte)
  | failure (error : HostError)
deriving DecidableEq

/-- What the reader queues: a byte, or the failure that ends its reading. -/
abbrev Supply : Type := Except HostError Byte

namespace Chunk

/-- The next byte, failure or end, and the source after it. A read that was interrupted is tried
again. -/
def next : List Chunk → Option Supply × List Chunk
  | [] => (none, [])
  | .bytes [] :: rest => (none, rest)
  | .bytes [b] :: rest => (some (.ok b), rest)
  | .bytes (b :: more) :: rest => (some (.ok b), .bytes more :: rest)
  | .failure error :: rest =>
    if error.kind = .interrupted then next rest else (some (.error error), rest)

def size : List Chunk → Nat
  | [] => 0
  | .bytes read :: rest => read.length + 1 + size rest
  | .failure _ :: rest => size rest + 1

theorem size_lt_of_next {source rest : List Chunk} {s : Supply}
    (h : next source = (some s, rest)) : size rest < size source := by
  fun_induction next source with
  | case1 => simp at h
  | case2 => simp at h
  | case3 b rest =>
    obtain ⟨-, rfl⟩ := Prod.mk.inj h
    simp only [size]
    omega
  | case4 b more rest =>
    obtain ⟨-, rfl⟩ := Prod.mk.inj h
    simp only [size, List.length_cons]
    omega
  | case5 error rest _ ih =>
    have := ih h
    simp only [size]
    omega
  | case6 error rest =>
    obtain ⟨-, rfl⟩ := Prod.mk.inj h
    simp only [size]
    omega

/-- Reads until the source ends or fails and queues what it gets behind `queued`, which stands in
reverse. Gives the queue and what is left of the source. -/
def send (queued : List Supply) (source : List Chunk) : List Supply × List Chunk :=
  match _read : next source with
  | (some (.ok b), rest) => send (.ok b :: queued) rest
  | (some (.error error), rest) => ((.error error :: queued).reverse, rest)
  | (none, rest) => (queued.reverse, rest)
termination_by size source
decreasing_by exact size_lt_of_next _read

end Chunk

structure Piped where
  queue : List Supply
  /-- Out of the queue to see whether a byte is ready, but not yet consumed. -/
  peeked : Option Supply
  /-- What the reader has left unread. -/
  source : List Chunk
  output : Array Byte

namespace Piped

def ofChunks (chunks : List Chunk) : Piped :=
  let (queue, source) := Chunk.send [] chunks
  ⟨queue, none, source, #[]⟩

def peek : Piped → Piped
  | ⟨item :: queue, none, source, output⟩ => ⟨queue, some item, source, output⟩
  | console => console

def answer : (q : Call) → Piped → q.Reply × Piped
  | .inputReady, console =>
    let console := console.peek
    match console.peeked with
    | some (.ok _) => (.ok true, console)
    | some (.error error) => (.error (.host error), { console with peeked := none })
    | none => (.ok false, console)
  | .readByte, console =>
    match console.peeked, console.queue with
    | some item, _ => (item.mapError .host, { console with peeked := none })
    | none, item :: queue => (item.mapError .host, { console with queue })
    | none, [] => (.error .inputClosed, console)
  | .write bytes, ⟨queue, peeked, source, output⟩ =>
    (.ok (), ⟨queue, peeked, source, output ++ bytes⟩)
  | .flush, console => (.ok (), console)
  | .interrupted, console => (.ok false, console)

instance : Console Piped where
  answer := answer

end Piped

end LC3
