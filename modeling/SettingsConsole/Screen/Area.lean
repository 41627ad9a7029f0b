/-!
# Areas of the screen

Rectangles of cells, and the way a popup is placed in the middle of one.
-/

namespace SettingsConsole

/-- A rectangle of cells, by its upper left corner and its size. -/
structure Area where
  x : Nat
  y : Nat
  width : Nat
  height : Nat
  deriving DecidableEq, Repr

namespace Area

/-- The largest coordinate of a screen. -/
def limit : Nat := 65535

/-- An area whose right and lower edges stay within the largest coordinate. -/
def within (x y width height : Nat) : Area :=
  ⟨x, y, min width (limit - x), min height (limit - y)⟩

/-- The column after the last one. -/
def right (a : Area) : Nat := a.x + a.width

/-- The row after the last one. -/
def bottom (a : Area) : Nat := a.y + a.height

/-- Whether the area has no cell. -/
def isEmpty (a : Area) : Bool := a.width = 0 || a.height = 0

/-- The area without `n` cells on each side. -/
def inset (n : Nat) (a : Area) : Area :=
  if a.width < 2 * n ∨ a.height < 2 * n then ⟨0, 0, 0, 0⟩
  else ⟨a.x + n, a.y + n, a.width - 2 * n, a.height - 2 * n⟩

/-- The area inside a border of one cell. -/
def insideBorder (a : Area) : Area :=
  ⟨min (a.x + 1) a.right, min (a.y + 1) a.bottom, a.width - 2, a.height - 2⟩

/-- The first `n` rows of an area, as far as there are any, and the others. -/
def splitTop (n : Nat) (a : Area) : Area × Area :=
  let top := min n a.height
  ({ a with height := top }, { a with y := a.y + top, height := a.height - top })

/-- The rows of an area but the last `n`, and these, as far as there are any. -/
def splitBottom (n : Nat) (a : Area) : Area × Area := a.splitTop (a.height - n)

/-- `n * percent / 100`, rounded to the nearest whole number, a half going up. -/
def share (n percent : Nat) : Nat := (2 * n * percent + 100) / 200

/-- The start and the length of the middle part, where the two outer parts of a length `n` take half
of the remaining percentage each, rounded down to a whole percentage. -/
def middle (n percent : Nat) : Nat × Nat :=
  let outer := (100 - percent) / 2
  (share n outer, share n (outer + percent) - share n outer)

/-- The area in the middle that takes the given percentages of the width and of the height, if both
are at most 100. -/
def centered? (percentX percentY : Nat) (a : Area) : Option Area :=
  if percentX ≤ 100 ∧ percentY ≤ 100 then
    let (left, width) := middle a.width percentX
    let (top, height) := middle a.height percentY
    some ⟨a.x + left, a.y + top, width, height⟩
  else none

end Area

end SettingsConsole
