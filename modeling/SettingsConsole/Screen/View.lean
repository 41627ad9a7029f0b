import SettingsConsole.Console.Row
import SettingsConsole.Screen.Popup

/-!
# The view of the console

`Console.draw` draws a console on an empty screen of a given size: a status line, the tabs, the
section that is shown, a footer, and the dialog over them.  Drawing settles which rows of a long
section are shown, so it gives the selection too.
-/

namespace SettingsConsole

namespace Console

variable (c : Console)

/-! ## Status and tabs -/

/-- The text of the status line. -/
def statusText : String :=
  "Project Settings | " ++ c.title.getD "Loading..." ++ " | Loaded: " ++
    ((c.loadedAt.map Timestamp.text).getD "never") ++
    " | 'q': quit, 'r': reload, 'Tab': next section"

/-- Draws the tabs. -/
def drawTabs (canvas : Canvas) (a : Area) : Canvas :=
  let canvas := canvas.drawFrame a {}
  let inner := a.insideBorder
  if inner.isEmpty then canvas
  else
    canvas.drawTitles inner { fg := some .yellow, bold := true } inner.x
      (Tab.all.map fun t => (t.title, t = c.tab))

/-! ## Sections -/

/-- A row as a row of a table. -/
def tableRow (r : Row) : TableRow where
  marker := match r.action with
    | .toggle => checkbox r.checked
    | .select _ => radio r.checked
    | .edit => ""
  label := r.label
  state := if r.busy then "Saving..." else if r.dirty then "unsaved" else ""
  style :=
    if r.busy then { fg := some .darkGray }
    else if r.dirty then { fg := some .yellow }
    else {}

/-- What is said on a tab without rows. -/
def emptyText : String :=
  match c.tab with
  | .institution => c.institutionMessage.getD "No institutions available."
  | .accounts => "No external accounts linked."
  | _ => "Nothing to configure."

/-- The present affiliation, on the lower edge of its tab. -/
def affiliationTitle : String :=
  match c.tab with
  | .institution =>
    match c.institutionLink with
    | some link => "Current: " ++ c.primaryLabel ++ " (" ++ link ++ ")"
    | none => "Current: " ++ c.primaryLabel
  | _ => ""

/-- Draws the settings of the tab. -/
def drawSettings (canvas : Canvas) (a : Area) (frame : Frame) : Canvas × Selection :=
  let rows := c.rows
  if rows.isEmpty then
    (canvas.drawFramed a frame (.ofText c.emptyText {} (.broken true)), c.selection)
  else
    canvas.drawTable a { frame with bottomTitle := c.affiliationTitle } (rows.map tableRow)
      c.selection

/-- A line of an outline; headings stand out. -/
def outlineSpans (l : Outline.Line) : List Span :=
  if l.isHeading then [⟨l.text, { bold := true }⟩] else Span.ofLines l.text

/-- Draws the lines of an outline, or what is said in their place. -/
def drawOutline (canvas : Canvas) (a : Area) (frame : Frame) (message : Option String)
    (lines : List Outline.Line) : Canvas :=
  match message with
  | some m => canvas.drawFramed a frame (.ofText m { fg := some .red } .cut)
  | none => canvas.drawList a frame (lines.map outlineSpans)

/-- The lines of the notification settings. -/
def subscriptionLines : List Outline.Line :=
  Outline.flatten Subscription.lines 0 [] c.subscriptions

/-- The lines of the wiki permissions. -/
def wikiLines : List Outline.Line := Outline.flatten WikiPermission.lines 0 [] c.wikiPermissions

/-- Draws the section that is shown. -/
def drawSection (canvas : Canvas) (a : Area) : Canvas × Selection :=
  let frame : Frame := { title := c.tab.title }
  match c.pageError with
  | some e =>
    (canvas.drawFramed a frame (.ofText ("Error: " ++ e) { fg := some .red } .cut), c.selection)
  | none =>
    if c.loading then
      (canvas.drawFramed a frame (.ofText "Loading settings..." { fg := some .yellow } .cut),
        c.selection)
    else
      match c.tab with
      | .notifications =>
        (drawOutline canvas a frame c.subscriptionsMessage c.subscriptionLines, c.selection)
      | .wiki =>
        let (top, rest) := a.splitTop 5
        let (canvas, selection) := c.drawSettings canvas top frame
        (drawOutline canvas rest { title := "Who can edit" } c.wikiMessage c.wikiLines, selection)
      | _ => c.drawSettings canvas a frame

/-! ## Footer -/

/-- The keys that matter on a tab. -/
def keyHelp : Tab → String
  | .details => "'j/k': move | 'Enter': edit/select | 's': save"
  | .addons | .comments | .institution => "'j/k': move | 'Space': toggle | 's': save"
  | .wiki | .accounts => "'j/k': move | 'Space': toggle (saves immediately)"
  | .notifications => "Read only"

/-- The number of unsaved changes in words, after what stands before it. -/
def unsavedText : Nat → String
  | 0 => ""
  | 1 => " | 1 unsaved change"
  | n => " | " ++ toString n ++ " unsaved changes"

/-- The footer: the notice of the group, else that it is being saved, else what there is to say
about the last input, else the keys. -/
def footer : String × Style :=
  let group := c.tab.group?.bind c.group?
  match c.tab.group?.bind c.notice? with
  | some notice => (notice, { fg := some .green })
  | none =>
    if group.any (·.isSaving) then ("Saving...", { fg := some .yellow })
    else
      match c.status with
      | some status => (status, { fg := some .red })
      | none =>
        let unsaved := (group.map (·.changes.size)).getD 0
        (keyHelp c.tab ++ unsavedText unsaved, { italic := true })

/-! ## The whole screen -/

/-- The rows of the status line: three, but half of the screen, rounded up, if the tabs cannot have
three rows too. -/
def statusHeight (height : Nat) : Nat := min 3 ((height + 1) / 2)

/-- Draws the console on an empty screen. -/
def draw (width height : Nat) : Canvas × Selection :=
  let canvas := Canvas.blank width height
  let (status, rest) := canvas.area.splitTop (statusHeight height)
  let (tabs, rest) := rest.splitTop 3
  let (main, bottom) := rest.splitBottom 3
  let canvas := canvas.drawFramed status { title := "Status" } (.ofText c.statusText {} .cut)
  let canvas := c.drawTabs canvas tabs
  let (canvas, selection) := c.drawSection canvas main
  let (text, style) := c.footer
  let canvas := canvas.drawFramed bottom {} (.ofText text style .cut)
  let canvas := match c.dialogs with
    | dialog :: _ => canvas.drawPopup dialog.popup
    | [] => canvas
  (canvas.shown, selection)

end Console

end SettingsConsole
