import SettingsConsole.Console.Step
import SettingsConsole.Proofs.Group.Operation

/-!
# What a settled request leaves

A request that settles is read off the group of its name and the outcome (`Console.settlement`).
The group itself is put back, its notice is posted, an alert goes to the end of the queue, and a
reload may be due; nothing else on the page changes (`Console.saveSettled_eq`).
-/

namespace SettingsConsole

namespace SettingGroup

/-- The group after the outcome of its request. -/
def settle (g : SettingGroup) : Except String Unit → SettingGroup
  | .ok () => g.succeed.1
  | .error _ => g.fail.1

theorem id_settle (g : SettingGroup) (result : Except String Unit) :
    (g.settle result).id = g.id := by
  cases result <;> rfl

end SettingGroup

/-- What a settled request leaves on the page. -/
structure Settlement where
  /-- The group that waited for it, as it is from then on. -/
  group : Option SettingGroup
  notice : Option PostedNotice
  alerts : List Alert
  /-- The time by which the page is reloaded. -/
  reloadBy : Option Nat

namespace Console

/-- The alert when a save of a group failed. -/
def failureAlert (c : Console) (id : GroupId) : Alert :=
  match c.group? id with
  | some g => g.failureAlert
  | none => .requestFailed "Sorry, we had trouble saving your settings." c.scope.support

/-- How long the page stays after a successful save of a group. -/
def reloadDelay (c : Console) (id : GroupId) : Nat :=
  match c.group? id with
  | some g => if g.isSaving then g.profile.reloadDelay else 0
  | none => 0

/-- The group of a name, if it waits for the outcome of its request. -/
def waiting? (c : Console) (id : GroupId) : Option SettingGroup :=
  (c.group? id).filter (·.isSaving)

/-- What a request of a group leaves, as it settles. -/
def settlement (c : Console) (id : GroupId) (result : Except String Unit) (now : Nat) :
    Settlement :=
  let group := (c.waiting? id).map (·.settle result)
  match result with
  | .ok () =>
    { group
      notice := ((c.waiting? id).bind (·.successNotice)).map fun n => ⟨n.text, now + n.life⟩
      alerts := []
      reloadBy := some (now + c.reloadDelay id) }
  | .error _ => { group, notice := none, alerts := [c.failureAlert id], reloadBy := none }

/-- The console with what a request of a group leaves. -/
def absorb (c : Console) (id : GroupId) (s : Settlement) : Console :=
  { c with
    groups := s.group.elim c.groups (replaceGroup · c.groups)
    notices := s.notice.elim c.notices (c.notices.insert id)
    dialogs := c.dialogs ++ s.alerts.map .alert
    reloadAt := c.reloadAt.merge min s.reloadBy }

theorem scheduleReload_eq (c : Console) (delay now : Nat) :
    c.scheduleReload delay now =
      { c with reloadAt := c.reloadAt.merge min (some (now + delay)) } := by
  unfold scheduleReload
  cases c.reloadAt <;> rfl

/-- Whatever has become of the group, this is all that a request does as it settles. -/
theorem saveSettled_eq (c : Console) (id : GroupId) (result : Except String Unit) (now : Nat) :
    c.saveSettled id result now = c.absorb id (c.settlement id result now) := by
  unfold saveSettled absorb settlement waiting? reloadDelay failureAlert
  cases c.group? id with
  | none =>
    cases result with
    | ok => simp [scheduleReload_eq]
    | error => simp [pushDialog]
  | some g =>
    rw [Option.filter_some]
    cases saving : g.isSaving with
    | false =>
      cases result with
      | ok => simp [saving, scheduleReload_eq]
      | error => simp [saving, pushDialog]
    | true =>
      cases result with
      | error => simp [saving, pushDialog, putGroup, SettingGroup.settle, SettingGroup.fail]
      | ok =>
        cases notice : g.successNotice with
        | none =>
          simp [saving, scheduleReload_eq, putGroup, SettingGroup.settle, SettingGroup.succeed,
            notice]
        | some n =>
          simp [saving, scheduleReload_eq, putGroup, SettingGroup.settle, SettingGroup.succeed,
            notice, postNotice]

/-! ## The group that is put back -/

theorem id_of_group? {c : Console} {id : GroupId} {g : SettingGroup} (h : c.group? id = some g) :
    g.id = id := by
  simpa using List.find?_some h

theorem waiting?_eq_some_iff {c : Console} {id : GroupId} {g : SettingGroup} :
    c.waiting? id = some g ↔ c.group? id = some g ∧ g.isSaving :=
  Option.filter_eq_some_iff

theorem waiting?_eq_none_iff {c : Console} {id : GroupId} :
    c.waiting? id = none ↔ ∀ g ∈ c.group? id, ¬ g.isSaving :=
  Option.filter_eq_none_iff

theorem failureAlert_of_group? {c : Console} {id : GroupId} {g : SettingGroup}
    (loaded : c.group? id = some g) : c.failureAlert id = g.failureAlert := by
  unfold failureAlert
  rw [loaded]

theorem group_settlement (c : Console) (id : GroupId) (result : Except String Unit) (now : Nat) :
    (c.settlement id result now).group = (c.waiting? id).map (·.settle result) := by
  cases result <;> rfl

theorem groups_saveSettled (c : Console) (id : GroupId) (result : Except String Unit) (now : Nat) :
    (c.saveSettled id result now).groups =
      ((c.waiting? id).map (·.settle result)).elim c.groups (replaceGroup · c.groups) := by
  rw [saveSettled_eq, ← group_settlement]
  rfl

theorem named_settlement (c : Console) (id : GroupId) (result : Except String Unit) (now : Nat) :
    ∀ g ∈ (c.settlement id result now).group, g.id = id := by
  intro g put
  rw [group_settlement] at put
  obtain ⟨h, waits, rfl⟩ := Option.map_eq_some_iff.1 put
  rw [SettingGroup.id_settle]
  exact id_of_group? (waiting?_eq_some_iff.1 waits).1

/-- The first group of a name gives way, and all others stay in their places. -/
theorem replaceGroup_eq_append {g h : SettingGroup} {groups : List SettingGroup}
    (found : groups.find? (·.id = h.id) = some g) :
    ∃ before after, groups = before ++ g :: after ∧ (∀ x ∈ before, x.id ≠ h.id) ∧
      replaceGroup h groups = before ++ h :: after := by
  obtain ⟨named, before, after, rfl, others⟩ := List.find?_eq_some_iff_append.1 found
  replace others : ∀ x ∈ before, x.id ≠ h.id := fun x member => by simpa using others x member
  refine ⟨before, after, rfl, others, ?_⟩
  clear found
  induction before with
  | nil => exact if_pos (of_decide_eq_true named)
  | cons x before ih =>
    obtain ⟨other, others⟩ := List.forall_mem_cons.1 others
    rw [List.cons_append, List.cons_append, replaceGroup, if_neg other, ih others]

theorem replaceGroup_self {g : SettingGroup} {groups : List SettingGroup}
    (found : groups.find? (·.id = g.id) = some g) : replaceGroup g groups = groups := by
  obtain ⟨before, after, rfl, -, replaced⟩ := replaceGroup_eq_append found
  exact replaced

/-- A request that settles changes the first group of its name at most. -/
theorem kept_or_settled (c : Console) (id : GroupId) (result : Except String Unit) (now : Nat) :
    (c.saveSettled id result now).groups = c.groups ∨
      ∃ before g after, c.groups = before ++ g :: after ∧ (∀ x ∈ before, x.id ≠ id) ∧ g.id = id ∧
        (c.saveSettled id result now).groups = before ++ g.settle result :: after := by
  rw [groups_saveSettled]
  cases waits : c.waiting? id with
  | none => exact .inl rfl
  | some g =>
    have loaded := (waiting?_eq_some_iff.1 waits).1
    have named : (g.settle result).id = id := (g.id_settle result).trans (id_of_group? loaded)
    obtain ⟨before, after, groups, others, replaced⟩ :=
      replaceGroup_eq_append (h := g.settle result) (named ▸ loaded)
    exact .inr ⟨before, g, after, groups, named ▸ others, id_of_group? loaded, replaced⟩

end Console

end SettingsConsole
