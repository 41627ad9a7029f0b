import SettingsConsole.Clock
import SettingsConsole.Console.Tab
import SettingsConsole.Group.Cycle
import SettingsConsole.Page.Content
import SettingsConsole.Page.Outline
import SettingsConsole.Service
import SettingsConsole.Table

/-!
# State of the console

Everything the console shows or remembers: the settings groups and the other areas of the page, each
with its own message, the notices, the queue of dialogs, a pending reload, and what is selected.
-/

namespace SettingsConsole

/-- What leaving the page is for. -/
inductive ExitAction where
  | quit
  | reload
  deriving DecidableEq, Repr

/-- A dialog over the page.  Only the one at the front of the queue is shown. -/
inductive Dialog where
  | confirm (prompt : Prompt)
  | alert (alert : Alert)
  /-- Asks before unsaved changes are given up. -/
  | exitGuard (warnings : List String) (action : ExitAction)
  /-- Points to a page in the browser. -/
  | redirect (url : String)
  | editText (group : GroupId) (key label buffer : String)
  deriving DecidableEq, Repr

/-- A notice with the time at which it goes away. -/
structure PostedNotice where
  text : String
  expiresAt : Nat
  deriving DecidableEq, Repr

/-- The notices of the groups. -/
abbrev Notices := Table GroupId.text PostedNotice

/-- The selected row and the first row that is shown. -/
structure Selection where
  selected : Option Nat
  offset : Nat
  deriving DecidableEq, Repr

namespace Selection

/-- Selects a row, or none, which also goes back to the first row. -/
def select (s : Selection) (row : Option Nat) : Selection :=
  ⟨row, if row.isNone then 0 else s.offset⟩

end Selection

/-- The console. -/
structure Console where
  /-- Whether there is a client to load and save with. -/
  online : Bool
  service : Service
  scope : Scope
  quitting : Bool
  /-- The title of the node. -/
  title : Option String
  loading : Bool
  pageError : Option String
  /-- When the content of the page arrived last. -/
  loadedAt : Option Timestamp
  groups : List SettingGroup
  subscriptions : List (Outline Subscription)
  subscriptionsMessage : Option String
  wikiPermissions : List (Outline String)
  wikiMessage : Option String
  institutionMessage : Option String
  /-- The page of the primary institution in the browser. -/
  institutionLink : Option String
  notices : Notices
  /-- The dialogs, the one shown first. -/
  dialogs : List Dialog
  /-- The outcome of the last input, if there is something to say about it. -/
  status : Option String
  /-- When the page is to be reloaded. -/
  reloadAt : Option Nat
  tab : Tab
  selection : Selection
  deriving DecidableEq, Repr

namespace Console

/-- The console before anything is loaded. -/
def initial (online : Bool) (service : Service) (scope : Scope) : Console where
  online
  service
  scope
  quitting := false
  title := none
  loading := false
  pageError := none
  loadedAt := none
  groups := []
  subscriptions := []
  subscriptionsMessage := none
  wikiPermissions := []
  wikiMessage := none
  institutionMessage := none
  institutionLink := none
  notices := ∅
  dialogs := []
  status := none
  reloadAt := none
  tab := .details
  selection := ⟨none, 0⟩

variable (c : Console)

/-! ## Groups -/

/-- The first group with a name. -/
def group? (id : GroupId) : Option SettingGroup := c.groups.find? (·.id = id)

/-- The groups with the first one of a name replaced by a group of that name. -/
def replaceGroup (g : SettingGroup) : List SettingGroup → List SettingGroup
  | [] => []
  | h :: rest => if h.id = g.id then g :: rest else h :: replaceGroup g rest

/-- Puts a group into the place of the first one of its name. -/
def putGroup (g : SettingGroup) : Console := { c with groups := replaceGroup g c.groups }

/-- The groups without the first one of a name. -/
def removeGroup (id : GroupId) : List SettingGroup → List SettingGroup
  | [] => []
  | g :: rest => if g.id = id then rest else g :: removeGroup id rest

/-- Whether a request of some group is out. -/
def isSaving : Bool := c.groups.any (·.isSaving)

/-- The warnings of the groups with unsaved changes, in order. -/
def unsavedWarnings : List String := c.groups.filterMap (·.unsavedWarning?)

/-- The primary institution in words, as last saved. -/
def primaryLabel : String :=
  match (c.group? .institution).bind (·.setting? Profile.institutionKey) with
  | some s => s.labelFor s.saved
  | none => "None"

/-! ## Notices, dialogs and reloads -/

/-- The text of the notice of a group. -/
def notice? (id : GroupId) : Option String := (c.notices.lookup id).map (·.text)

/-- Posts a notice of a group in place of the one it had. -/
def postNotice (id : GroupId) (n : Notice) (now : Nat) : Console :=
  { c with notices := c.notices.insert id ⟨n.text, now + n.life⟩ }

/-- Drops the notices whose time has come. -/
def expireNotices (now : Nat) : Console :=
  { c with notices := c.notices.filter (now < ·.expiresAt) }

/-- Puts a dialog at the end of the queue. -/
def pushDialog (d : Dialog) : Console := { c with dialogs := c.dialogs ++ [d] }

/-- Has the page reloaded after a delay, or earlier if that is due already. -/
def scheduleReload (delay now : Nat) : Console :=
  { c with reloadAt := some (match c.reloadAt with
    | some t => min t (now + delay)
    | none => now + delay) }

/-- Says why an input was refused. -/
def refuse (r : Refusal) : Console := { c with status := some r.message }

/-! ## Small facts -/

theorem find?_replaceGroup (g : SettingGroup) {groups : List SettingGroup}
    (h : g.id ∈ groups.map SettingGroup.id) :
    (replaceGroup g groups).find? (·.id = g.id) = some g := by
  induction groups with
  | nil => simp at h
  | cons x xs ih =>
    unfold replaceGroup
    split
    · simp
    · next hx =>
      simp only [List.map_cons, List.mem_cons] at h
      rw [List.find?_cons_of_neg (by simpa using hx)]
      exact ih (h.resolve_left (Ne.symm hx))

end Console

end SettingsConsole
