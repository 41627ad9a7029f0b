import SettingsConsole.Screen.Canvas

/-!
# Paragraphs

Text in an area of the screen: cut at the right edge, or broken between words.  Breaking may drop
the blanks at the start of a row (trimming) or keep them.
-/

namespace SettingsConsole

/-! ## Breaking lines -/

/-- A line that is being broken into rows.  All lists of glyphs are kept last first. -/
structure LineBreaker where
  /-- The finished rows, the last one first. -/
  done : List (List Glyph)
  /-- The row that is being filled. -/
  row : List Glyph
  /-- The blanks after the row. -/
  blanks : List Glyph
  /-- The word after these blanks. -/
  word : List Glyph
  /-- Whether the glyph before belongs to a word. -/
  afterWord : Bool

namespace LineBreaker

/-- Nothing is read yet. -/
def start : LineBreaker := ⟨[], [], [], [], false⟩

variable (trim : Bool) (limit : Nat) (b : LineBreaker)

/-- The row with the pending blanks and the pending word; the blanks are dropped at the start of a
row that is trimmed. -/
def extended : List Glyph :=
  b.word ++ (if b.row.isEmpty && trim then [] else b.blanks ++ b.row)

/-- Whether what is pending has to go into an empty row before a glyph of some width, since it would
not fit later. -/
def overflows (width : Nat) : Bool :=
  b.row.isEmpty &&
    (if trim then
      limit < Glyph.total b.word + width || limit < Glyph.total b.blanks + width
    else limit < Glyph.total b.word + Glyph.total b.blanks + width)

/-- Whether the row is full, or what is pending fills it before a glyph of some width. -/
def isFull (width : Nat) : Bool :=
  limit ≤ Glyph.total b.row ||
    (0 < width && limit ≤ Glyph.total b.row + Glyph.total b.blanks + Glyph.total b.word)

/-- Drops the glyphs that fit a width from the start of a list. -/
def dropFitting : Nat → List Glyph → List Glyph
  | _, [] => []
  | limit, g :: rest => if g.width ≤ limit then dropFitting (limit - g.width) rest else g :: rest

/-- Finishes the row; pending blanks that would have fitted it are dropped. -/
def endRow : LineBreaker :=
  { b with done := b.row :: b.done
           row := []
           blanks := (dropFitting (limit - Glyph.total b.row) b.blanks.reverse).reverse }

/-- Adds a glyph to what is pending. -/
def add (g : Glyph) : LineBreaker :=
  if g.isBlank then { b with blanks := g :: b.blanks, afterWord := false }
  else { b with word := g :: b.word, afterWord := true }

/-- Reads a glyph; one that is wider than a row is left out. -/
def push (g : Glyph) : LineBreaker :=
  if limit < g.width then b
  else
    let b :=
      if (b.afterWord && g.isBlank) || b.overflows trim limit g.width then
        { b with row := b.extended trim, blanks := [], word := [] }
      else b
    if b.isFull limit g.width then
      let b := b.endRow limit
      if g.isBlank && b.blanks.isEmpty then b else b.add g
    else b.add g

/-- The rows of a line that has been read to its end. -/
def finish : List (List Glyph) :=
  let done :=
    if b.row.isEmpty && b.word.isEmpty && !b.blanks.isEmpty && trim then [] :: b.done else b.done
  let last := b.extended trim
  let done := if last.isEmpty then done else last :: done
  if done.isEmpty then [[]] else (done.map List.reverse).reverse

end LineBreaker

/-- The rows of a line that is broken between words. -/
def breakLine (trim : Bool) (limit : Nat) (line : List Glyph) : List (List Glyph) :=
  (line.foldl (LineBreaker.push trim limit) .start).finish trim

/-! ## Paragraphs -/

/-- How the lines of a paragraph are laid out. -/
inductive Layout where
  | cut
  | centered
  | broken (trim : Bool)
  deriving DecidableEq, Repr

/-- Text for an area of the screen. -/
structure Paragraph where
  lines : List (List Glyph)
  style : Style
  layout : Layout
  deriving DecidableEq, Repr

namespace Paragraph

/-- The lines of a text. -/
def ofText (s : String) (style : Style) (layout : Layout) : Paragraph :=
  ⟨(Text.linesOf s).map Glyph.ofText, style, layout⟩

/-- The part of a line that fits a width; glyphs that are wider than that are left out. -/
def cutLine (limit : Nat) (line : List Glyph) : List Glyph :=
  Glyph.fitting limit (line.filter (·.width ≤ limit))

/-- The rows of a paragraph in an area of some width. -/
def rows (p : Paragraph) (limit : Nat) : List (List Glyph) :=
  match p.layout with
  | .cut | .centered => p.lines.map (cutLine limit)
  | .broken trim => p.lines.flatMap (breakLine trim limit)

/-- The column at which a row starts, from the left edge of the area. -/
def start (p : Paragraph) (limit : Nat) (row : List Glyph) : Nat :=
  match p.layout with
  | .centered => limit / 2 - Glyph.total row / 2
  | .cut | .broken _ => 0

end Paragraph

namespace Canvas

/-- Draws rows of a paragraph downwards from a row of an area. -/
def drawRows (c : Canvas) (a : Area) (p : Paragraph) (y : Nat) : List (List Glyph) → Canvas
  | [] => c
  | row :: rest =>
    if y < a.height then
      (c.drawRow (a.x + p.start a.width row) (a.y + y) row).drawRows a p (y + 1) rest
    else c

/-- Draws a paragraph; its style covers the whole area. -/
def drawParagraph (c : Canvas) (a : Area) (p : Paragraph) : Canvas :=
  let c := c.style a p.style
  if a.isEmpty then c else c.drawRows a p 0 (p.rows a.width)

end Canvas

end SettingsConsole
