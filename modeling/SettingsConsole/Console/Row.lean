import SettingsConsole.Console.State

/-!
# Rows of a tab

The lines of a tab that can be selected.  A flag and a text have one row each, a choice has one for
every option, and one more if it can be cleared.
-/

namespace SettingsConsole

/-- What activating a row does. -/
inductive RowAction where
  | toggle
  | select (value : Option String)
  | edit
  deriving DecidableEq, Repr

/-- A line that can be selected. -/
structure Row where
  group : GroupId
  key : String
  action : RowAction
  label : String
  checked : Bool
  dirty : Bool
  busy : Bool
  deriving DecidableEq, Repr

namespace SettingGroup

/-- A row of a setting of the group. -/
def row (g : SettingGroup) (s : Setting) (action : RowAction) (label : String) (checked : Bool) :
    Row where
  group := g.id
  key := s.key
  action := action
  label := label
  checked := checked
  dirty := g.changes.contains s.key
  busy := g.isSaving

/-- The rows of a setting of the group. -/
def settingRows (g : SettingGroup) (s : Setting) : List Row :=
  match s.kind with
  | .boolean => [g.row s .toggle s.label (s.current = .flag true)]
  | .text _ => [g.row s .edit (s.label ++ ": " ++ s.labelFor s.current) false]
  | .enumerated options clearable =>
    let selected := s.current.selected?
    (options.map fun o => g.row s (.select (some o.value)) o.label (selected = some o.value)) ++
      (if clearable then [g.row s (.select none) "None" (selected = none)] else [])

/-- The rows of the group. -/
def rows (g : SettingGroup) : List Row := g.settings.flatMap g.settingRows

end SettingGroup

namespace Console

variable (c : Console)

/-- The names of the groups on the tab; of accounts with one provider each name stands for the
first. -/
def tabGroups : List GroupId :=
  match c.tab with
  | .accounts => (c.groups.map SettingGroup.id).filter GroupId.isAccount
  | tab => tab.group?.toList

/-- The rows of the tab that is shown. -/
def rows : List Row := (c.tabGroups.filterMap c.group?).flatMap SettingGroup.rows

/-- The row that is selected. -/
def selectedRow? : Option Row := c.selection.selected.bind fun i => c.rows[i]?

/-! ## Moving the selection -/

/-- The console with a row selected, or none. -/
def select (row : Option Nat) : Console := { c with selection := c.selection.select row }

/-- Selects a row that exists, as near as possible to the one selected. -/
def clampSelection : Console :=
  let n := c.rows.length
  c.select (if n = 0 then none
    else match c.selection.selected with
      | some i => some (min i (n - 1))
      | none => some 0)

/-- Selects the row below; the first one follows the last. -/
def nextRow : Console :=
  let n := c.rows.length
  if n = 0 then c
  else c.select (match c.selection.selected with
    | some i => if i + 1 < n then some (i + 1) else some 0
    | none => some 0)

/-- Selects the row above; the last one precedes the first. -/
def previousRow : Console :=
  let n := c.rows.length
  if n = 0 then c
  else c.select (match c.selection.selected with
    | some (i + 1) => some i
    | some 0 | none => some (n - 1))

/-- Shows another tab from its first row. -/
def showTab (tab : Tab) : Console := ({ c with tab }.select (some 0)).clampSelection

end Console

end SettingsConsole
