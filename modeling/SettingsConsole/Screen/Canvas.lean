import SettingsConsole.Screen.Area
import SettingsConsole.Text.Blank
import SettingsConsole.Text.Cluster
import SettingsConsole.Text.Lines

/-!
# The screen as a canvas of cells

A cell holds a symbol, two colours and four modifiers.  A style names what it changes and leaves the
rest of a cell alone.  A symbol may be wider than its cell; it then covers the cells after it, and
`shown` is the canvas as it looks.
-/

namespace SettingsConsole

/-- A colour; `reset` is the one of the terminal. -/
inductive Color where
  | reset
  | red
  | green
  | yellow
  | darkGray
  deriving DecidableEq, Repr

/-- What is added to the look of a cell. -/
structure Style where
  fg : Option Color := none
  bg : Option Color := none
  bold : Bool := false
  italic : Bool := false
  blink : Bool := false
  reversed : Bool := false
  deriving DecidableEq, Repr

/-- A cell of the screen. -/
structure Cell where
  symbol : String := " "
  fg : Color := .reset
  bg : Color := .reset
  bold : Bool := false
  italic : Bool := false
  blink : Bool := false
  reversed : Bool := false
  deriving DecidableEq, Repr, Inhabited

namespace Cell

/-- The cell in a style. -/
def styled (c : Cell) (s : Style) : Cell :=
  { c with fg := s.fg.getD c.fg
           bg := s.bg.getD c.bg
           bold := c.bold || s.bold
           italic := c.italic || s.italic
           blink := c.blink || s.blink
           reversed := c.reversed || s.reversed }

/-- Whether two cells look alike but for the symbol. -/
def looksLike (a b : Cell) : Bool := { a with symbol := b.symbol } = b

end Cell

/-- A screen of cells, row by row. -/
structure Canvas where
  width : Nat
  height : Nat
  rows : Array (Array Cell)
  deriving Repr

/-! ## Text in a style -/

/-- A cluster of characters in a style. -/
structure Glyph where
  symbol : String
  width : Nat
  style : Style
  deriving DecidableEq, Repr

namespace Glyph

/-- The glyphs of a text in one style. -/
def ofText (s : String) (style : Style := {}) : List Glyph :=
  (Text.clusters s.toList).map fun c => ⟨c.symbol, c.width, style⟩

/-- The number of cells that glyphs take. -/
def total : List Glyph → Nat
  | [] => 0
  | g :: rest => g.width + total rest

/-- Whether a glyph is a blank at which a line may be broken: the space of no width is, and the
no-break space is not. -/
def isBlank (g : Glyph) : Bool :=
  g.symbol.toList = ['\u200b'] ||
    (g.symbol.toList.all Text.isBlank && g.symbol.toList ≠ ['\u00a0'])

/-- The glyphs that fit a width, up to the first that does not. -/
def fitting (limit : Nat) : List Glyph → List Glyph
  | [] => []
  | g :: rest => if g.width ≤ limit then g :: fitting (limit - g.width) rest else []

end Glyph

/-- A part of a line in one style. -/
structure Span where
  text : String
  style : Style := {}
  deriving DecidableEq, Repr

namespace Span

/-- The width of the text as a whole; letters that are written as one make it less than the sum of
its glyphs. -/
def width (s : Span) : Nat := Text.width s.text.toList

/-- The glyphs of a span. -/
def glyphs (s : Span) : List Glyph := Glyph.ofText s.text s.style

/-- The number of cells that are set aside for spans. -/
def total : List Span → Nat
  | [] => 0
  | s :: rest => s.width + total rest

/-- The lines of a text, side by side. -/
def ofLines (s : String) : List Span := (Text.linesOf s).map fun line => { text := line }

end Span

/-! ## Drawing -/

namespace Canvas

/-- The empty screen. -/
def blank (width height : Nat) : Canvas :=
  ⟨width, height, Array.replicate height (Array.replicate width {})⟩

/-- The whole screen. -/
def area (c : Canvas) : Area := ⟨0, 0, c.width, c.height⟩

/-- Changes a cell; outside the screen nothing happens. -/
def modify (c : Canvas) (x y : Nat) (f : Cell → Cell) : Canvas :=
  { c with rows := c.rows.modify y fun row => row.modify x f }

/-- Changes the cells of an area. -/
def modifyArea (c : Canvas) (a : Area) (f : Cell → Cell) : Canvas :=
  (List.range a.height).foldl (fun c j =>
    (List.range a.width).foldl (fun c i => c.modify (a.x + i) (a.y + j) f) c) c

/-- Adds a style to the cells of an area. -/
def style (c : Canvas) (a : Area) (s : Style) : Canvas := c.modifyArea a (·.styled s)

/-- Empties the cells of an area. -/
def clear (c : Canvas) (a : Area) : Canvas := c.modifyArea a fun _ => {}

/-- Sets the symbol of a cell and adds a style to it. -/
def put (c : Canvas) (x y : Nat) (symbol : String) (s : Style := {}) : Canvas :=
  c.modify x y fun cell => { cell with symbol }.styled s

/-- Draws a row of a paragraph from a cell to the right.  A glyph without a cell is left out, and
the cells that a wide one covers stay as they are. -/
def drawRow (c : Canvas) (x y : Nat) : List Glyph → Canvas
  | [] => c
  | g :: rest =>
    if g.width = 0 then c.drawRow x y rest
    else (c.put x y g.symbol g.style).drawRow (x + g.width) y rest

/-- Empties the cells that a glyph covers after its first one. -/
def clearCovered (c : Canvas) (x y : Nat) (g : Glyph) : Canvas :=
  c.clear ⟨x + 1, y, g.width - 1, 1⟩

/-- Draws a glyph into a cell. -/
def drawGlyph (c : Canvas) (x y : Nat) (g : Glyph) : Canvas :=
  (c.put x y g.symbol g.style).clearCovered x y g

/-- Adds a glyph to what is in a cell. -/
def addGlyph (c : Canvas) (x y : Nat) (g : Glyph) : Canvas :=
  (c.modify x y fun cell => { cell with symbol := cell.symbol ++ g.symbol }.styled
    g.style).clearCovered x y g

/-- Draws the later glyphs of a span that starts at column `start`, up to the first that would go
beyond column `stop`.  A glyph without a cell is added to the cell before it, and as long as no
glyph had a cell all are added to the first one. -/
def drawMore (c : Canvas) (start stop x y : Nat) : List Glyph → Canvas
  | [] => c
  | g :: rest =>
    if stop < x + g.width then c
    else
      let c :=
        if x = start then c.addGlyph x y g
        else if g.width = 0 then c.addGlyph (x - 1) y g
        else c.drawGlyph x y g
      c.drawMore start stop (x + g.width) y rest

/-- Draws the glyphs of a span from a cell to the right, up to the first that would go beyond column
`stop`. -/
def drawGlyphs (c : Canvas) (stop x y : Nat) : List Glyph → Canvas
  | [] => c
  | g :: rest =>
    if stop < x + g.width then c
    else (c.drawGlyph x y g).drawMore x stop (x + g.width) y rest

/-- Draws spans side by side, none beyond column `stop`. -/
def drawSpans (c : Canvas) (stop x y : Nat) : List Span → Canvas
  | [] => c
  | s :: rest =>
    if s.width = 0 then c.drawSpans stop x y rest
    else if stop ≤ x then c
    else (c.drawGlyphs stop x y s.glyphs).drawSpans stop (x + s.width) y rest

/-- Draws as much of a line as fits a width and the screen. -/
def drawLine (c : Canvas) (x y limit : Nat) (line : List Span) : Canvas :=
  c.drawSpans (min (x + limit) c.width) x y line

/-! ## What is seen -/

/-- The cells of a row as they look; the first `covered` ones are covered by the symbol before
them. -/
def shownCells (covered : Nat) : List Cell → List Cell
  | [] => []
  | cell :: rest =>
    match covered with
    | 0 => cell :: shownCells (Text.cells cell.symbol.toList - 1) rest
    | covered + 1 => {} :: shownCells covered rest

/-- The canvas as it looks: cells that a wide symbol covers are empty. -/
def shown (c : Canvas) : Canvas :=
  { c with rows := c.rows.map fun row => (shownCells 0 row.toList).toArray }

end Canvas

end SettingsConsole
