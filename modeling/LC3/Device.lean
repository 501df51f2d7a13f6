import LC3.Word

/-! Four addresses belong to devices. A read or write there talks to the console and never touches
the cell stored at that address. -/

namespace LC3

inductive Device where
  | keyboardStatus
  | keyboardData
  | displayStatus
  | displayData
deriving DecidableEq

namespace Device

def address : Device → Word
  | .keyboardStatus => 0xFE00#16
  | .keyboardData => 0xFE02#16
  | .displayStatus => 0xFE04#16
  | .displayData => 0xFE06#16

def at? (a : Word) : Option Device :=
  if a = keyboardStatus.address then some keyboardStatus
  else if a = keyboardData.address then some keyboardData
  else if a = displayStatus.address then some displayStatus
  else if a = displayData.address then some displayData
  else none

/-- What a status register shows when its device is ready. -/
def ready : Word := 0x8000#16

theorem at?_eq_some_iff {a : Word} {d : Device} : at? a = some d ↔ a = d.address := by
  constructor
  · intro h
    unfold at? at h
    repeat' split at h
    all_goals simp_all
  · rintro rfl
    cases d <;> rfl

end Device

end LC3
