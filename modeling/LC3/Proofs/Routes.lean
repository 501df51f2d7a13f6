import LC3.Proofs.Accesses

/-! The ways in which an instruction can come to take a byte from the keyboard. Two routines ask for
one, and any read over the bus may meet the keyboard's data: the fetch of the instruction itself,
that of a pointer, or a load. Which way it will be is told by the registers and the stored cells
alone, and an instruction that goes none of these ways takes nothing, whatever the console replies.
-/

namespace LC3

def Outcome.Gives {α : Type} (gives : α → Prop) (out : Outcome α) : Prop :=
  ∃ a, out = .ok a ∧ gives a

namespace Dialogue

variable {α β : Type} {d : Dialogue α} {gives : α → Prop}

def Abstains (d : Dialogue α) : Prop := d.Within (fun _ => True) (· ≠ .readByte)

/-- No byte is read, and unless a call fails it comes to a value that `gives` admits. -/
def AbstainsGiving (gives : α → Prop) (d : Dialogue α) : Prop :=
  d.Within (Outcome.Gives gives) (· ≠ .readByte)

/-- One byte is read, with nothing but output before it and no other byte after it, and unless a
call fails it comes to a value that `gives` admits for the byte. -/
def ReadsOnce (gives : Byte → α → Prop) : Dialogue α → Prop
  | ask .readByte next => ∀ b, (next b).AbstainsGiving (gives b)
  | ask (.write _) next => (next ()).ReadsOnce gives
  | ask .flush next => (next ()).ReadsOnce gives
  | note _ next => next.ReadsOnce gives
  | ask .inputReady _ | ask .interrupted _ | done _ | fault _ | endless => False

theorem AbstainsGiving.abstains (h : d.AbstainsGiving gives) : d.Abstains :=
  Within.mono h fun _ _ => trivial

theorem AbstainsGiving.bind {ends : Outcome β → Prop} {g : α → Dialogue β}
    (h : d.AbstainsGiving gives) (hg : ∀ a, gives a → (g a).Within ends (· ≠ .readByte)) :
    (d >>= g).Within ends (· ≠ .readByte) := by
  refine Within.bind h ?_ ?_ ?_
  · rintro a ⟨_, ⟨⟩, given⟩
    exact hg a given
  · rintro f ⟨_, ⟨⟩, -⟩
  · rintro ⟨_, ⟨⟩, -⟩

theorem abstainsGiving_pure {a : α} (h : gives a) : (pure a : Dialogue α).AbstainsGiving gives :=
  ⟨a, rfl, h⟩

theorem abstainsGiving_print (bytes : List Byte) : (print bytes).AbstainsGiving fun _ => True :=
  ⟨nofun, fun _ => ⟨nofun, fun _ => abstainsGiving_pure trivial⟩⟩

end Dialogue

open Dialogue

/-- A way in which an instruction takes a byte from the keyboard. -/
inductive Route where
  /-- The instruction is fetched from the keyboard's data. -/
  | fetch
  | ld (dst : Reg)
  | ldr (dst : Reg)
  /-- The pointer is in a stored cell and leads to the keyboard's data. -/
  | ldi (dst : Reg)
  /-- The pointer itself is read from the keyboard's data. -/
  | ldiPointer
  | stiPointer
  | getc
  | input
deriving DecidableEq

namespace Route

def destination? : Route → Option Reg
  | .ld dst | .ldr dst | .ldi dst => some dst
  | .getc | .input => some 0
  | .fetch | .ldiPointer | .stiPointer => none

/-- A byte that is for a register gets there, with zeros above it, and sets the flag. -/
def Gives (r : Route) (b : Byte) (e : Effect) : Prop :=
  ∀ dst, r.destination? = some dst → e = .load dst (.ofByte b)

end Route

/-- A byte is taken in this way, or none is taken at all. -/
def Dialogue.Follows (d : Dialogue Effect) : Option Route → Prop
  | none => d.Abstains
  | some r => d.ReadsOnce r.Gives

theorem Dialogue.follows_tell {d : Dialogue Effect} {r : Option Route} (n : Note)
    (h : d.Follows r) : (tell n >>= fun _ => d).Follows r := by
  cases r with
  | none => exact h
  | some r => exact h

namespace Bus

/-- The way of what begins by reading address `a`: `here` if that is the keyboard's data, and if it
is that of a stored cell, the way of what goes on with the word in it. -/
def route? (mem : Memory) (a : Word) (here : Route) (next : Word → Option Route) : Option Route :=
  match Device.at? a with
  | none => next (mem.get a)
  | some .keyboardData => some here
  | some .keyboardStatus | some .displayStatus | some .displayData => none

theorem route?_stored {mem : Memory} {a : Word} (h : Device.at? a = none) (here : Route)
    (next : Word → Option Route) : route? mem a here next = next (mem.get a) := by
  rw [route?, h]

theorem device_abstains {d : Device} (other : d ≠ .keyboardData) :
    d.read.AbstainsGiving Device.Supplies := by
  cases d with
  | keyboardStatus =>
    refine ⟨nofun, fun available => abstainsGiving_pure ?_⟩
    cases available with
    | true => exact .inl rfl
    | false => exact .inr (by decide)
  | keyboardData => exact absurd rfl other
  | displayStatus => exact abstainsGiving_pure (.inl rfl)
  | displayData => exact abstainsGiving_pure (.inr (by decide))

theorem write_abstains (a w : Word) : (write a w).AbstainsGiving fun _ => True := by
  unfold write
  split
  · exact abstainsGiving_pure trivial
  next d _ =>
    cases d with
    | displayData =>
      exact (abstainsGiving_print [w.low]).bind fun _ _ => abstainsGiving_pure trivial
    | _ => exact abstainsGiving_pure trivial

theorem read_bind_follows {mem : Memory} {a : Word} {g : Word → Dialogue Effect} {here : Route}
    {next : Word → Option Route} (stored : (g (mem.get a)).Follows (next (mem.get a)))
    (supplied : ∀ w, Device.Supplies w → (g w).Abstains)
    (taken : ∀ b, (g (.ofByte b)).AbstainsGiving (here.Gives b)) :
    (read mem a >>= g).Follows (route? mem a here next) := by
  unfold read route?
  cases Device.at? a with
  | none => exact stored
  | some d =>
    cases d with
    | keyboardData => exact taken
    | keyboardStatus => exact (device_abstains (d := .keyboardStatus) nofun).bind supplied
    | displayStatus => exact (device_abstains (d := .displayStatus) nofun).bind supplied
    | displayData => exact (device_abstains (d := .displayData) nofun).bind supplied

end Bus

theorem Routine.printString_abstains (mem : Memory) (a : Word) (bytes : Word → List Byte) :
    (printString mem a bytes).Abstains := by
  unfold printString
  split
  · trivial
  · exact (abstainsGiving_print _).bind fun _ _ => trivial

def Routine.route? : Routine → Option Route
  | .getc => some .getc
  | .input => some .input
  | .out | .puts | .putsp | .halt => none

theorem Routine.serve_follows (style : Style) (regs : Registers) (mem : Memory) (pc : Word)
    (r : Routine) : (r.serve style regs mem pc).Follows r.route? := by
  have load (r : Route) (h : r.destination? = some 0) (b : Byte) :
      r.Gives b (.load 0 (.ofByte b)) := by
    intro dst known
    obtain rfl : 0 = dst := Option.some.inj (h.symm.trans known)
    rfl
  cases r with
  | getc => exact fun b => abstainsGiving_pure (load .getc rfl b)
  | out => exact (abstainsGiving_print _).bind fun _ _ => trivial
  | puts => exact printString_abstains _ _ _
  | input =>
    intro b
    exact (abstainsGiving_print [b]).bind fun _ _ => abstainsGiving_pure (load .input rfl b)
  | putsp => exact printString_abstains _ _ _
  | halt => exact (abstainsGiving_print _).bind fun _ _ => trivial

namespace Processor

/-- The way of the instruction `w`, on a processor that has already advanced. -/
def routeOf? (cpu : Processor) (w : Word) : Option Route :=
  match Instruction.decode w with
  | .ld dst offset => Bus.route? cpu.mem (cpu.near offset) (.ld dst) fun _ => none
  | .ldr dst base offset => Bus.route? cpu.mem (cpu.based base offset) (.ldr dst) fun _ => none
  | .ldi dst offset =>
    Bus.route? cpu.mem (cpu.near offset) .ldiPointer fun pointer =>
      Bus.route? cpu.mem pointer (.ldi dst) fun _ => none
  | .sti _ offset => Bus.route? cpu.mem (cpu.near offset) .stiPointer fun _ => none
  | .trap vector => (Routine.ofVector? vector).bind Routine.route?
  | _ => none

def route? (cpu : Processor) : Option Route :=
  Bus.route? cpu.mem cpu.regs.pc .fetch cpu.advance.routeOf?

theorem load_follows {mem : Memory} {a : Word} {dst : Reg} {r : Route}
    (h : r.destination? = some dst) :
    (Bus.read mem a >>= fun w => pure (.load dst w)).Follows
      (Bus.route? mem a r fun _ => none) := by
  refine Bus.read_bind_follows trivial (fun _ _ => trivial) fun b => abstainsGiving_pure ?_
  intro dst' known
  obtain rfl : dst = dst' := Option.some.inj (h.symm.trans known)
  rfl

theorem execute_follows (style : Style) (cpu : Processor) (pc w : Word) :
    (cpu.execute style pc w).Follows (cpu.routeOf? w) := by
  unfold execute routeOf?
  cases Instruction.decode w with
  | ld dst offset => exact load_follows rfl
  | ldr dst base offset => exact load_follows rfl
  | ldi dst offset =>
    refine Bus.read_bind_follows (load_follows rfl) (fun pointer supplied => ?_) fun b => ?_
    · rw [Bus.read_stored (Device.at?_of_supplies supplied)]
      trivial
    · rw [Bus.read_stored (Device.at?_of_supplies (.inr (Device.toNat_ofByte_lt b)))]
      exact abstainsGiving_pure nofun
  | sti src offset =>
    refine Bus.read_bind_follows (Bus.write_abstains _ _).abstains
      (fun _ _ => (Bus.write_abstains _ _).abstains) fun b => ?_
    exact (Bus.write_abstains _ _).mono fun out ⟨e, ended, _⟩ => ⟨e, ended, nofun⟩
  | st src offset => exact (Bus.write_abstains _ _).abstains
  | str src base offset => exact (Bus.write_abstains _ _).abstains
  | trap vector =>
    cases known : Routine.ofVector? vector with
    | none =>
      simp only [known]
      trivial
    | some r =>
      simp only [known]
      exact r.serve_follows _ _ _ _
  | _ => trivial

theorem cycle_follows (style : Style) (cpu : Processor) :
    (cpu.cycle style).Follows cpu.route? := by
  have supplied (w : Word) (h : Device.Supplies w) :=
    cpu.advance.execute_of_supplies style cpu.regs.pc h
  refine Bus.read_bind_follows ?_ (fun w h => ?_) fun b => ?_
  · exact follows_tell _ (cpu.advance.execute_follows style cpu.regs.pc _)
  · change (cpu.advance.execute style cpu.regs.pc w).Abstains
    rw [supplied w h]
    split
    · trivial
    · trivial
  · change (cpu.advance.execute style cpu.regs.pc (.ofByte b)).AbstainsGiving _
    rw [supplied _ (.inr (Device.toNat_ofByte_lt b)), if_neg (Device.ofByte_ne_ready b)]
    exact abstainsGiving_pure nofun

end Processor

end LC3
