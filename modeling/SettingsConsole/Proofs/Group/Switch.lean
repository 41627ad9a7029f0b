import SettingsConsole.Page.Groups
import SettingsConsole.Proofs.Group.History

/-!
# Groups of one flag

The wiki and the account groups have a single setting, a flag without terms.  Such a switch stays
one in every history; where it can only be switched on elsewhere, it is on only if that is saved
(`History.isSwitch`).
-/

namespace SettingsConsole

namespace SettingGroup

variable {g g' : SettingGroup} {op : Operation} {key label url : String} {on was : Bool}

/-- The group has one setting, a flag without terms that is shown as `on` and saved as `was`. -/
def IsSwitch (g : SettingGroup) (key label : String) (on was : Bool) : Prop :=
  g.settings = [{ Setting.flag key label was with current := .flag on }]

namespace IsSwitch

theorem eq_of_setting? (switch : g.IsSwitch key label on was) {k : String} {s : Setting}
    (found : g.setting? k = some s) :
    k = key ∧ s = { Setting.flag key label was with current := .flag on } := by
  have member := List.mem_of_find?_eq_some found
  rw [switch, List.mem_singleton] at member
  rw [← key_of_setting? found, member]
  exact ⟨rfl, rfl⟩

theorem assign (switch : g.IsSwitch key label on was) (v : Bool) :
    (g.assign key (.flag v)).IsSwitch key label v was := by
  unfold IsSwitch SettingGroup.assign
  rw [switch]
  exact if_pos rfl

theorem unique {on' was' : Bool} (switch : g.IsSwitch key label on was)
    (other : g.IsSwitch key label on' was') : on = on' ∧ was = was' := by
  simpa [Setting.flag, Setting.ofValue] using switch.symm.trans other

theorem isEmpty_iff (switch : g.IsSwitch key label on was) : g.changes.isEmpty ↔ on = was := by
  unfold changes
  rw [Changes.isEmpty_ofSettings_iff, switch]
  simp [Setting.isDirty, Setting.flag, Setting.ofValue]

theorem turnedOff_iff (switch : g.IsSwitch key label on was) :
    g.changes.turnedOff ≠ [] ↔ on = false ∧ was = true := by
  show Changes.keysOf g.settings .off ≠ [] ↔ _
  rw [Ne, Changes.keysOf_eq_nil_iff, switch]
  simp [Setting.direction?_eq_off_iff, Setting.flag, Setting.ofValue, Setting.Value.isEnabled,
    and_comm]

theorem setting?_eq (switch : g.IsSwitch key label on was) :
    g.setting? key = some { Setting.flag key label was with current := .flag on } := by
  unfold setting?
  rw [switch]
  exact List.find?_cons_of_pos (decide_eq_true rfl)

/-- Where a flag is switched on by request, a switch goes over to the other value. -/
theorem toggle (switch : g.IsSwitch key label on was) (idle : g.phase = .idle)
    (here : g.profile.enableUrl = none) : g.toggle key = (g.assign key (.flag !on)).afterEdit := by
  unfold SettingGroup.toggle
  rw [obstacle?_of_idle idle, switch.setting?_eq, here]
  cases on <;> rfl

theorem assign_assign (switch : g.IsSwitch key label on was) (v : Bool) :
    (g.assign key (.flag v)).assign key (.flag on) = g := by
  have settings : ((g.assign key (.flag v)).assign key (.flag on)).settings = g.settings :=
    ((switch.assign v).assign on).trans switch.symm
  obtain ⟨profile, _, phase⟩ := g
  exact congrArg (SettingGroup.mk profile · phase) settings

/-- A flag that is off and can only be switched on elsewhere leads there, unless the group cannot be
edited now. -/
theorem toggle_elsewhere (switch : g.IsSwitch key label false was)
    (elsewhere : g.profile.enableUrl = some url) :
    g.toggle key = (g, match g.obstacle? with
      | none => .ok (.redirect url)
      | some r => .error r) := by
  unfold SettingGroup.toggle
  cases g.obstacle? with
  | none => rw [switch.setting?_eq, elsewhere]
  | some r => rfl

/-! ## Along a history -/

theorem edited (switch : g.IsSwitch key label on was) {g₁ : SettingGroup} (h : Edited g op g₁) :
    ∃ on', g₁.IsSwitch key label on' was ∧
      (on' = true → on = true ∨ was = true ∨ g.profile.enableUrl = none) := by
  cases h with
  | assigned _ _ found accepts =>
    obtain ⟨rfl, rfl⟩ := switch.eq_of_setting? found
    cases accepts with
    | off => exact ⟨false, switch.assign false, nofun⟩
    | on _ here => exact ⟨true, switch.assign true, fun _ => .inr (.inr here)⟩
    | option kind => cases kind
    | cleared kind => cases kind
    | text kind => cases kind
  | agreed => exact ⟨on, switch, .inl⟩
  | untouched => exact ⟨on, switch, .inl⟩

/-- An operation keeps a switch and what is saved of it, and switches it on only by request or back
to what is saved. -/
theorem performed (switch : g.IsSwitch key label on was) {g' : SettingGroup}
    {result : Except Refusal EditOutcome} (h : Performed g op g' result) :
    ∃ on', g'.IsSwitch key label on' was ∧
      (on' = true → on = true ∨ was = true ∨ g.profile.enableUrl = none) := by
  cases h with
  | refused => exact ⟨on, switch, .inl⟩
  | forgotten => exact ⟨on, switch, .inl⟩
  | redirected => exact ⟨on, switch, .inl⟩
  | asked _ found _ _ asks =>
    obtain ⟨rfl, rfl⟩ := switch.eq_of_setting? found
    cases asks
  | edited edit => exact switch.edited edit
  | saved edit _ save =>
    obtain ⟨on', switch', only⟩ := switch.edited edit
    exact ⟨on', save.settings.trans switch', only⟩
  | declined _ found =>
    obtain ⟨rfl, rfl⟩ := switch.eq_of_setting? found
    exact ⟨false, IsSwitch.assign (g := { g with phase := .idle }) switch false, nofun⟩
  | confirmed => exact ⟨on, switch, .inl⟩
  | takenBack =>
    let s := { Setting.flag key label was with current := .flag on }
    have settings : g.takenBack.settings =
        [if key ∈ g.changes.turnedOff then s.restored else s] := by
      unfold SettingGroup.takenBack
      rw [switch]
      rfl
    by_cases declined : key ∈ g.changes.turnedOff
    · rw [if_pos declined] at settings
      exact ⟨was, settings, fun e => .inr (.inl e)⟩
    · rw [if_neg declined] at settings
      exact ⟨on, settings, .inl⟩

theorem captureBaseline (switch : g.IsSwitch key label on was) :
    g.captureBaseline.IsSwitch key label on on := by
  unfold SettingGroup.captureBaseline IsSwitch
  rw [switch]
  rfl

theorem wiki (content : PageContent) (service : Service) (scope : Scope) :
    (content.wikiGroup service scope).IsSwitch Profile.wikiKey "Wiki" content.wikiEnabled
      content.wikiEnabled :=
  rfl

theorem account (service : Service) (scope : Scope) (a : Account) :
    (PageContent.accountGroup service scope a).IsSwitch Profile.connectedKey a.label a.connected
      a.connected :=
  rfl

end IsSwitch

/-- A group that starts as a switch stays one, and is on only if that is saved or is done by
request. -/
theorem History.isSwitch {p : Profile} {settings : List Setting} {log : List Entry}
    (h : History p settings log g) {first : Bool}
    (created : (create p settings).IsSwitch key label first first) :
    ∃ on was, g.IsSwitch key label on was ∧
      (on = true → was = true ∨ g.profile.enableUrl = none) := by
  induction h with
  | created => exact ⟨first, first, created, .inl⟩
  | @moved log g m _ ih =>
    obtain ⟨on, was, switch, only⟩ := ih
    rw [profile_apply]
    cases m with
    | operate op =>
      obtain ⟨on', switch', only'⟩ := switch.performed (g.performed op)
      refine ⟨on', was, switch', fun e => ?_⟩
      rcases only' e with before | saved | here
      · exact only before
      · exact .inl saved
      · exact .inr here
    | succeed => exact ⟨on, on, switch.captureBaseline, .inl⟩
    | fail => exact ⟨on, was, switch, only⟩
    | capture => exact ⟨on, on, switch.captureBaseline, .inl⟩

end SettingGroup

end SettingsConsole
