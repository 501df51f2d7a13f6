import LC3.Word

/-! What a key means to a running program: some bytes to read, a request to stop, or nothing.
Modifiers count exactly: control and `c` stop the program, control, shift and `c` do nothing. -/

namespace LC3

inductive KeyCode where
  | char (c : Char)
  | enter
  | tab
  | backTab
  | backspace
  | left
  | right
  | up
  | down
  | home
  | delete
  | escape
  | function (number : Nat)
  | null
  /-- Any other key, such as those that lock, page, play or only modify. -/
  | other
deriving DecidableEq

structure Modifiers where
  shift : Bool
  ctrl : Bool
  alt : Bool
  super : Bool
  hyper : Bool
  metaKey : Bool
deriving DecidableEq

namespace Modifiers

def none : Modifiers := ⟨false, false, false, false, false, false⟩

def onlyShift : Modifiers := { none with shift := true }

def onlyCtrl : Modifiers := { none with ctrl := true }

end Modifiers

inductive KeyMotion where
  | press
  | release
  /-- The key is held down and types again. -/
  | again
deriving DecidableEq

structure KeyEvent where
  code : KeyCode
  modifiers : Modifiers
  motion : KeyMotion
deriving DecidableEq

/-- What happens at a terminal; of these only keys mean anything to a program. -/
inductive Event where
  | key (event : KeyEvent)
  | resize
  | focus
  | mouse
  | paste (text : String)
deriving DecidableEq

inductive Meaning where
  | text (bytes : List Byte)
  | interrupt
  | nothing
deriving DecidableEq

def KeyEvent.meaning (event : KeyEvent) : Meaning :=
  if event.motion = .release then .nothing
  else
    match event.code with
    | .char c =>
      if c = 'c' ∧ event.modifiers = .onlyCtrl then .interrupt
      else if c = '\n' then .text [0x0A]
      else if event.modifiers = .none ∨ event.modifiers = .onlyShift then
        .text (String.utf8EncodeChar c)
      else .nothing
    | .enter => .text [0x0A]
    | .tab => .text [0x09]
    | .backspace => .text [0x08]
    | _ => .nothing

def Event.meaning : Event → Meaning
  | .key event => event.meaning
  | .resize | .focus | .mouse | .paste _ => .nothing

end LC3
