import SettingsConsole.Group.Profile

/-!
# Tabs of the console

The sections of the page, one shown at a time.
-/

namespace SettingsConsole

/-- A section of the page. -/
inductive Tab where
  | details
  | addons
  | wiki
  | comments
  | institution
  | accounts
  | notifications
  deriving DecidableEq, Repr

namespace Tab

/-- All tabs, from left to right. -/
def all : List Tab := [.details, .addons, .wiki, .comments, .institution, .accounts, .notifications]

/-- The title of a tab. -/
def title : Tab → String
  | .details => "Project"
  | .addons => "Add-ons"
  | .wiki => "Wiki"
  | .comments => "Commenting"
  | .institution => "Institution"
  | .accounts => "Accounts"
  | .notifications => "Notifications"

/-- The tab to the right; the first one follows the last. -/
def next : Tab → Tab
  | .details => .addons
  | .addons => .wiki
  | .wiki => .comments
  | .comments => .institution
  | .institution => .accounts
  | .accounts => .notifications
  | .notifications => .details

/-- The tab to the left; the last one precedes the first. -/
def previous : Tab → Tab
  | .details => .notifications
  | .addons => .details
  | .wiki => .addons
  | .comments => .wiki
  | .institution => .comments
  | .accounts => .institution
  | .notifications => .accounts

/-- The group a tab belongs to, if it belongs to one. -/
def group? : Tab → Option GroupId
  | .details => some .details
  | .addons => some .addons
  | .wiki => some .wiki
  | .comments => some .comments
  | .institution => some .institution
  | .accounts | .notifications => none

/-- The group that the save key saves on a tab. -/
def saveTarget? : Tab → Option GroupId
  | .details => some .details
  | .addons => some .addons
  | .comments => some .comments
  | .institution => some .institution
  | .wiki | .accounts | .notifications => none

@[simp] theorem next_previous (t : Tab) : t.previous.next = t := by cases t <;> rfl

@[simp] theorem previous_next (t : Tab) : t.next.previous = t := by cases t <;> rfl

end Tab

end SettingsConsole
