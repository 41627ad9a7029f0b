import SettingsConsole.Console.State
import SettingsConsole.Screen.Paragraph

/-!
# Frames, lists, tables and tabs

The parts that the views are made of.
-/

namespace SettingsConsole

/-- The mark of a flag. -/
def checkbox (checked : Bool) : String := if checked then "[x]" else "[ ]"

/-- The mark of an option. -/
def radio (selected : Bool) : String := if selected then "(*)" else "( )"

/-! ## Frames -/

/-- A border with a title on its upper edge and one on its lower edge. -/
structure Frame where
  title : String := ""
  bottomTitle : String := ""
  style : Style := {}
  deriving DecidableEq, Repr

namespace Canvas

/-- Draws a border around an area. -/
def drawBorder (c : Canvas) (a : Area) : Canvas :=
  let right := a.right - 1
  let bottom := a.bottom - 1
  let c := (List.range a.height).foldl
    (fun c j => (c.put a.x (a.y + j) "│").put right (a.y + j) "│") c
  let c := (List.range a.width).foldl
    (fun c i => (c.put (a.x + i) a.y "─").put (a.x + i) bottom "─") c
  (((c.put right bottom "┘").put right a.y "┐").put a.x bottom "└").put a.x a.y "┌"

/-- Draws a title over an edge, between the corners, into the cells that are set aside for it. -/
def drawTitle (c : Canvas) (a : Area) (y : Nat) (title : String) : Canvas :=
  let spans := Span.ofLines title
  c.drawLine (a.x + 1) y (min (Span.total spans) (a.width - 2)) spans

/-- Draws a frame around an area; its style covers the whole area. -/
def drawFrame (c : Canvas) (a : Area) (f : Frame) : Canvas :=
  if a.isEmpty then c
  else
    let c := (c.style a f.style).drawBorder a
    (c.drawTitle a a.y f.title).drawTitle a (a.bottom - 1) f.bottomTitle

/-- Draws a paragraph in a frame; the style of the paragraph covers the frame too. -/
def drawFramed (c : Canvas) (a : Area) (f : Frame) (p : Paragraph) : Canvas :=
  ((c.style a p.style).drawFrame a f).drawParagraph a.insideBorder p

/-! ## Lists -/

/-- Draws one item a row, as many as fit the area. -/
def drawItems (c : Canvas) (a : Area) : List (List Span) → Nat → Canvas
  | [], _ => c
  | item :: rest, y =>
    if y < a.height then (c.drawLine a.x (a.y + y) a.width item).drawItems a rest (y + 1) else c

/-- Draws a list in a frame. -/
def drawList (c : Canvas) (a : Area) (f : Frame) (items : List (List Span)) : Canvas :=
  (c.drawFrame a f).drawItems a.insideBorder items 0

/-! ## Tabs -/

/-- Draws titles in a row from a column on, with a line between them; the selected one stands
out. -/
def drawTitles (c : Canvas) (a : Area) (selected : Style) : Nat → List (String × Bool) → Canvas
  | _, [] => c
  | x, (title, isSelected) :: rest =>
    if a.right ≤ x then c
    else
      let glyphs := Glyph.ofText title (if isSelected then selected else {})
      let fitting := Glyph.fitting (a.right - (x + 1)) glyphs
      let x := min (x + 1) a.right
      let c := c.drawRow x a.y fitting
      let x := min (x + Glyph.total fitting + 1) a.right
      if x = a.right ∨ rest.isEmpty then c
      else (c.put x a.y "│").drawTitles a selected (x + 1) rest

end Canvas

/-! ## Tables -/

/-- A row of a table with three columns. -/
structure TableRow where
  marker : String
  label : String
  state : String
  style : Style
  deriving DecidableEq, Repr

namespace Selection

/-- The selection when a table of `count` rows is drawn into `height` rows of the screen: a row that
does not exist gives way to the last one, and the first row shown moves as little as keeps the
selected row in sight. -/
def inTable (s : Selection) (count height : Nat) : Selection :=
  let selected := s.selected.map (min · (count - 1))
  let offset := min s.offset (count - 1)
  let offset := match selected with
    | some i => max (min offset i) (i + 1 - height)
    | none => offset
  ⟨selected, offset⟩

end Selection

namespace Canvas

/-- Draws the first line of a text into a cell of a table. -/
def drawCell (c : Canvas) (x y limit : Nat) (text : String) : Canvas :=
  c.drawLine x y limit [{ text := (Text.linesOf text).headD "" }]

/-- The width of the first column of a table whose columns take `width` cells: four, as long as two
blanks and ten cells of the last column are left. -/
def firstColumn (width : Nat) : Nat := min 4 (width - 12)

/-- The width of the middle column of a table whose columns take `width` cells: about seven tenths,
as long as the first column has four cells and the last one ten. -/
def middleColumn (width : Nat) : Nat := min (Area.share width 70) (width - 16)

/-- Draws a row of a table; the last column takes what the others leave.  The mark of the selected
row takes its cells even where the table is narrower. -/
def drawTableRow (c : Canvas) (a : Area) (y indent : Nat) (isSelected : Bool) (row : TableRow) :
    Canvas :=
  let line : Area := ⟨a.x, y, a.width, 1⟩
  let width := a.width - indent
  let second := firstColumn width + 1
  let third := second + middleColumn width + 1
  let c := c.style line row.style
  let c :=
    if isSelected then (c.style ⟨a.x, y, indent, 1⟩ row.style).drawCell a.x y indent ">> " else c
  let c := c.drawCell (a.x + indent) y (firstColumn width) row.marker
  let c := c.drawCell (a.x + indent + second) y (middleColumn width) row.label
  let c := c.drawCell (a.x + indent + third) y (width - third) row.state
  if isSelected then c.style line { reversed := true } else c

/-- Draws rows of a table downwards, as many as fit the area. -/
def drawTableRows (c : Canvas) (a : Area) (selected : Option Nat) :
    List TableRow → Nat → Nat → Canvas
  | [], _, _ => c
  | row :: rest, index, y =>
    if y < a.height then
      let indent := if selected.isSome then 3 else 0
      (c.drawTableRow a (a.y + y) indent (selected = some index) row).drawTableRows a selected rest
        (index + 1) (y + 1)
    else c

/-- Draws a table in a frame, and gives the selection afterwards. -/
def drawTable (c : Canvas) (a : Area) (f : Frame) (rows : List TableRow) (s : Selection) :
    Canvas × Selection :=
  let c := c.drawFrame a f
  let a := a.insideBorder
  if a.isEmpty then (c, s)
  else
    let s := s.inTable rows.length a.height
    (c.drawTableRows a s.selected (rows.drop s.offset) s.offset 0, s)

end Canvas

end SettingsConsole
