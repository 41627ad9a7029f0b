import SettingsConsole.Proofs.Console.Alerts
import SettingsConsole.Proofs.Console.Offered

/-!
# The rows of the tab

The rows of a tab are those of its groups, and the rows of a group those of its settings, one for
every action of their kind.  A row is checked by the value of its setting.  So the rows are counted
by the forms of the settings (`Console.length_rows_congr`), and what an edit makes of them is read
off the values it gives (`Mark`).
-/

namespace SettingsConsole

/-- The actions of the rows of a setting, from the first row to the last. -/
def Setting.Kind.actions : Setting.Kind → List RowAction
  | .boolean => [.toggle]
  | .text _ => [.edit]
  | .enumerated options clearable =>
    (options.map fun o => .select (some o.value)) ++ if clearable then [.select none] else []

/-- Whether a row is checked while its setting has a value. -/
def RowAction.isChecked (v : Setting.Value) : RowAction → Bool
  | .toggle => v = .flag true
  | .select selected => v.selected? = selected
  | .edit => false

/-- A row apart from its words and what is under way in its group. -/
structure Mark where
  group : GroupId
  key : String
  action : RowAction
  checked : Bool
  deriving DecidableEq, Repr

/-- The row apart from its words and what is under way in its group. -/
def Row.mark (r : Row) : Mark := ⟨r.group, r.key, r.action, r.checked⟩

/-- What is marked in the rows of a setting of a group. -/
def Setting.marks (group : GroupId) (s : Setting) : List Mark :=
  s.kind.actions.map fun a => ⟨group, s.key, a, a.isChecked s.current⟩

namespace SettingGroup

variable (g : SettingGroup)

/-- The group apart from the values of its settings and from what it waits for. -/
def plan : GroupId × List Setting.Form := (g.id, g.settings.map Setting.form)

/-- What is marked in the rows of the group. -/
def marks : List Mark := g.settings.flatMap (·.marks g.id)

theorem map_mark_settingRows (s : Setting) : (g.settingRows s).map Row.mark = s.marks g.id := by
  unfold settingRows Setting.marks
  cases s.kind with
  | boolean | text => rfl
  | enumerated options clearable =>
    cases clearable <;> simp [Setting.Kind.actions, row, Row.mark, RowAction.isChecked]

theorem map_mark_rows : g.rows.map Row.mark = g.marks := by
  unfold rows marks
  rw [List.map_flatMap]
  exact List.flatMap_congr fun s _ => g.map_mark_settingRows s

/-- The rows of the group are for the actions of its settings. -/
theorem map_action_rows :
    g.rows.map Row.action = g.plan.2.flatMap fun form => form.kind.actions := by
  have its : g.rows.map Row.action = g.marks.map Mark.action := by
    rw [← map_mark_rows, List.map_map]
    rfl
  rw [its]
  unfold marks plan Setting.marks
  rw [List.map_flatMap, List.flatMap_map]
  refine List.flatMap_congr fun s _ => ?_
  rw [List.map_map]
  exact List.map_id _

theorem plan_perform (op : Operation) : (op.perform g).1.plan = g.plan :=
  Prod.ext (g.id_perform op) (g.performed op).map_form

theorem plan_settle (result : Except String Unit) : (g.settle result).plan = g.plan := by
  cases result with
  | ok => exact Prod.ext rfl (map_form_acknowledged g.settings)
  | error => rfl

end SettingGroup

namespace Console

/-- The groups of the tab. -/
def shown (c : Console) : List SettingGroup := c.tabGroups.filterMap c.group?

/-- What is marked in the rows of the tab. -/
def marks (c : Console) : List Mark := c.rows.map Row.mark

variable {c c' : Console} {e : Event} {groups : List SettingGroup} {effects : List Effect}

theorem marks_eq (c : Console) : c.marks = c.shown.flatMap SettingGroup.marks := by
  unfold marks rows
  rw [List.map_flatMap]
  exact List.flatMap_congr fun g _ => g.map_mark_rows

/-- A row of the tab is one of a group of the tab, which is found by its name. -/
theorem exists_shown_of_mem_rows {row : Row} (member : row ∈ c.rows) :
    ∃ g ∈ c.shown, c.group? row.group = some g ∧ row ∈ g.rows := by
  obtain ⟨g, shown, its⟩ := List.mem_flatMap.1 member
  obtain ⟨id, -, found⟩ := List.mem_filterMap.1 shown
  have named : g.id = id := id_of_group? found
  exact ⟨g, shown, SettingGroup.group_of_mem_rows its ▸ named ▸ found, its⟩

theorem map_plan_group? (c : Console) (id : GroupId) :
    (c.group? id).map SettingGroup.plan = (c.groups.map SettingGroup.plan).find? (·.1 = id) := by
  unfold group?
  rw [List.find?_map]
  rfl

theorem tabGroups_congr (tab : c'.tab = c.tab)
    (same : c'.groups.map SettingGroup.plan = c.groups.map SettingGroup.plan) :
    c'.tabGroups = c.tabGroups := by
  have names (c : Console) :
      c.groups.map SettingGroup.id = (c.groups.map SettingGroup.plan).map Prod.fst := by
    rw [List.map_map]
    rfl
  unfold tabGroups
  rw [tab, names, names, same]

/-- The groups of a tab are the same apart from their values, if all groups are. -/
theorem map_plan_shown (tab : c'.tab = c.tab)
    (same : c'.groups.map SettingGroup.plan = c.groups.map SettingGroup.plan) :
    c'.shown.map SettingGroup.plan = c.shown.map SettingGroup.plan := by
  unfold shown
  rw [tabGroups_congr tab same, List.map_filterMap, List.map_filterMap]
  simp only [map_plan_group?, same]

theorem map_action_rows (c : Console) : c.rows.map Row.action =
    (c.shown.map SettingGroup.plan).flatMap fun plan =>
      plan.2.flatMap fun form => form.kind.actions := by
  show (c.shown.flatMap SettingGroup.rows).map Row.action = _
  rw [List.map_flatMap, List.flatMap_map]
  exact List.flatMap_congr fun g _ => g.map_action_rows

/-- The rows of a tab are as many, whatever the values of the settings. -/
theorem length_rows_congr (tab : c'.tab = c.tab)
    (same : c'.groups.map SettingGroup.plan = c.groups.map SettingGroup.plan) :
    c'.rows.length = c.rows.length := by
  have actions : c'.rows.map Row.action = c.rows.map Row.action := by
    rw [map_action_rows, map_action_rows, map_plan_shown tab same]
  simpa using congrArg List.length actions

/-- An event that brings no groups leaves them the same apart from their values, unless they are
given up. -/
theorem Regrouped.map_plan (h : Regrouped c e groups effects) (unfetched : e.area? = none)
    (stays : .load ∉ effects) :
    groups.map SettingGroup.plan = c.groups.map SettingGroup.plan := by
  cases h with
  | kept => rfl
  | reloaded => exact absurd List.mem_cons_self stays
  | pageInstalled => cases unfetched
  | institutionsInstalled => cases unfetched
  | @operated key id op g asked loaded =>
    rw [← id_of_group? loaded, ← g.id_perform op] at loaded
    exact map_replaceGroup _ loaded (g.plan_perform op)
  | @settled id result g loaded =>
    rw [← id_of_group? loaded, ← g.id_settle result] at loaded
    exact map_replaceGroup _ loaded (g.plan_settle result)

end Console

end SettingsConsole
