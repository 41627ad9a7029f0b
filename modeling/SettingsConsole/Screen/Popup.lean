import SettingsConsole.Screen.Widget

/-!
# Popups

How the dialog that is shown is drawn over the page: a frame in the middle, its content inside, and
the keys that answer it on the last row.
-/

namespace SettingsConsole

/-- A dialog as it is drawn. -/
structure Popup where
  title : String
  /-- The share of the screen it takes, in percent of the width and the height. -/
  percentX : Nat
  percentY : Nat
  content : Paragraph
  /-- The keys that answer it. -/
  help : String
  deriving DecidableEq, Repr

namespace Dialog

/-- A prompt: its message, and what is about to be removed. -/
def promptContent (p : Prompt) : Paragraph :=
  let message := if p.message.isEmpty then [] else [Glyph.ofText p.message]
  let items := match p.kind with
    | .removal => p.items.map fun item => Glyph.ofText ("  - " ++ item)
    | .terms _ => []
  ⟨message ++ items, {}, .broken true⟩

/-- The words that go with a page in the browser. -/
def redirectContent (url : String) : Paragraph :=
  ⟨[Glyph.ofText "Connecting an account happens in the browser. Open:",
    Glyph.ofText url { bold := true }], {}, .broken false⟩

/-- A text that is edited, with a cursor. -/
def editContent (buffer : String) : Paragraph :=
  ⟨[Glyph.ofText buffer ++ Glyph.ofText "_" { blink := true }], {}, .broken false⟩

/-- How a dialog is drawn. -/
def popup : Dialog → Popup
  | .confirm p =>
    ⟨p.title, 60, 40, promptContent p, "y/Enter: " ++ p.confirmLabel ++ " | n/Esc: Cancel"⟩
  | .alert a =>
    ⟨a.title, 50, 30, .ofText a.message { fg := some .red } (.broken true), "Enter/Esc: Close"⟩
  | .exitGuard warnings _ =>
    ⟨"Unsaved changes", 50, 30,
      ⟨warnings.map Glyph.ofText, { fg := some .yellow }, .broken true⟩,
      "y: Leave anyway | n/Esc/Enter: Stay"⟩
  | .redirect url => ⟨"Connect account", 60, 30, redirectContent url, "Enter/Esc: Close"⟩
  | .editText _ _ label buffer =>
    ⟨"Edit " ++ label, 60, 25, editContent buffer, "Enter: Apply | Esc: Cancel"⟩

end Dialog

namespace Canvas

/-- Draws a popup over what is there. -/
def drawPopup (c : Canvas) (p : Popup) : Canvas :=
  match c.area.centered? p.percentX p.percentY with
  | none => c
  | some a =>
    let c := (c.clear a).drawFrame a { title := p.title, style := { bg := some .darkGray } }
    let (content, help) := (a.insideBorder.inset 1).splitBottom 1
    (c.drawParagraph content p.content).drawParagraph help
      (.ofText p.help { italic := true } .centered)

end Canvas

end SettingsConsole
