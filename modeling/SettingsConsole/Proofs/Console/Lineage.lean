import SettingsConsole.Proofs.Console.Rebuild
import SettingsConsole.Proofs.Group.History

/-!
# Where the loaded groups come from

A group that is loaded was built from what was fetched, and since then the console has moved it in
an orderly way only (`Run.lived`).  So whatever holds after every orderly history of a group holds
of the groups of a console.
-/

namespace SettingsConsole

namespace SettingGroup

/-- The group is as it is built from what was fetched. -/
def IsBuilt (g : SettingGroup) (service : Service) (scope : Scope) : Prop :=
  (∃ content : PageContent, g ∈ content.groups service scope) ∨
    ∃ choices : InstitutionChoices, g = choices.group service scope

/-- The group was built from what was fetched, and moved in an orderly way since. -/
def Lived (g : SettingGroup) (service : Service) (scope : Scope) : Prop :=
  ∃ p settings log, (create p settings).IsBuilt service scope ∧ History p settings log g ∧
    Orderly log

variable {g : SettingGroup} {service : Service} {scope : Scope}

theorem IsBuilt.isFresh (h : g.IsBuilt service scope) : g.IsFresh := by
  rcases h with ⟨content, listed⟩ | ⟨choices, rfl⟩
  · exact (PageContent.groups_created listed).2
  · exact isFresh_create _ _

/-- A fresh group is as it was created. -/
theorem IsFresh.create_eq (fresh : g.IsFresh) : create g.profile g.settings = g := by
  obtain ⟨profile, settings, phase⟩ := g
  obtain ⟨rfl, clean⟩ : phase = .idle ∧ ∀ s ∈ settings, ¬ s.isDirty := fresh
  have acknowledged (s : Setting) (member : s ∈ settings) : s.acknowledged = s := by
    have same : s.current = s.saved := by simpa [Setting.isDirty] using clean s member
    cases s
    cases same
    rfl
  unfold create
  rw [List.map_congr_left acknowledged, List.map_id']

theorem IsBuilt.lived (h : g.IsBuilt service scope) : g.Lived service scope := by
  have same := h.isFresh.create_eq
  have history : History g.profile g.settings [] (create g.profile g.settings) := .created
  rw [same] at history
  exact ⟨g.profile, g.settings, [], same.symm ▸ h, history, List.forall_mem_nil _⟩

theorem Lived.moved (h : g.Lived service scope) {m : Move} (orderly : m.isOrderly g) :
    (m.apply g).Lived service scope := by
  obtain ⟨p, settings, log, built, history, before⟩ := h
  exact ⟨p, settings, _, built, .moved m history, List.forall_mem_cons.2 ⟨orderly, before⟩⟩

theorem Lived.settle (h : g.Lived service scope) (out : g.isSaving)
    (result : Except String Unit) : (g.settle result).Lived service scope := by
  cases result with
  | ok => exact h.moved (m := .succeed) out
  | error => exact h.moved (m := .fail) out

end SettingGroup

namespace Console

/-- Where a group that is loaded after an event comes from. -/
inductive Origin (c : Console) : Event → SettingGroup → Prop
  | built {e g} : g.IsBuilt c.service c.scope → Origin c e g
  | stayed {e g} : g ∈ c.groups → Origin c e g
  | operated {key op g} : g ∈ c.groups → c.operation? key = some (g.id, op) →
      Origin c (.key key) (op.perform g).1
  | settled {result g} : g ∈ c.groups → g.isSaving →
      Origin c (.saveSettled g.id result) (g.settle result)

theorem mem_of_mem_replaceGroup {g h : SettingGroup} {groups : List SettingGroup}
    (member : g ∈ replaceGroup h groups) : g = h ∨ g ∈ groups := by
  induction groups with
  | nil => cases member
  | cons x rest ih =>
    unfold replaceGroup at member
    split at member
    · exact (List.mem_cons.1 member).imp_right (List.mem_cons_of_mem _)
    · rcases List.mem_cons.1 member with rfl | behind
      · exact .inr List.mem_cons_self
      · exact (ih behind).imp_right (List.mem_cons_of_mem _)

variable {c : Console} {e : Event} {g : SettingGroup}

theorem Regrouped.origin {groups : List SettingGroup} {effects : List Effect}
    (h : Regrouped c e groups effects) (member : g ∈ groups) : Origin c e g := by
  cases h with
  | kept => exact .stayed member
  | reloaded => cases member
  | pageInstalled =>
    rcases List.mem_append.1 member with listed | kept
    · exact .built (.inl ⟨_, listed⟩)
    · exact .stayed (List.mem_of_find?_eq_some (Option.mem_toList.1 kept))
  | institutionsInstalled =>
    rcases List.mem_append.1 member with kept | built
    · rw [removeGroup_eq_eraseP] at kept
      exact .stayed (List.mem_of_mem_eraseP kept)
    · exact .built (.inr ⟨_, List.mem_singleton.1 built⟩)
  | operated asked loaded =>
    obtain rfl := id_of_group? loaded
    rcases mem_of_mem_replaceGroup member with rfl | stays
    · exact .operated (List.mem_of_find?_eq_some loaded) asked
    · exact .stayed stays
  | settled loaded out =>
    obtain rfl := id_of_group? loaded
    rcases mem_of_mem_replaceGroup member with rfl | stays
    · exact .settled (List.mem_of_find?_eq_some loaded) out
    · exact .stayed stays

/-- A group keeps to an orderly history, whatever the event. -/
theorem Origin.lived (h : Origin c e g) (lived : ∀ g ∈ c.groups, g.Lived c.service c.scope) :
    g.Lived c.service c.scope := by
  cases h with
  | built it => exact it.lived
  | stayed member => exact lived g member
  | @operated _ op _ member => exact (lived _ member).moved (m := .operate op) rfl
  | settled member out => exact (lived _ member).settle out _

/-- Whatever events come, every loaded group was built from what was fetched and moved in an orderly
way since. -/
theorem Reached.lived {first : Console} (h : Reached first c) (unloaded : first.groups = []) :
    ∀ g ∈ c.groups, g.Lived first.service first.scope := by
  suffices traced : c.service = first.service ∧ c.scope = first.scope ∧
      ∀ g ∈ c.groups, g.Lived c.service c.scope by
    obtain ⟨service, scope, lived⟩ := traced
    rwa [service, scope] at lived
  induction h with
  | opened =>
    rw [unloaded]
    exact ⟨rfl, rfl, List.forall_mem_nil _⟩
  | @handled c e now _ ih =>
    obtain ⟨service, scope, lived⟩ := ih
    have step := c.handled e now
    have same_service : (c.handle e now).1.service = c.service := step.service
    have same_scope : (c.handle e now).1.scope = c.scope := step.scope
    rw [same_service, same_scope]
    exact ⟨service, scope, fun g member => (step.regrouped.origin member).lived lived⟩

end Console

namespace Session

variable {online : Bool} {service : Service} {scope : Scope} {log : List Entry} {s : Session}

/-- Along a run, every loaded group was built from what was fetched and moved in an orderly way
since. -/
theorem Run.lived (h : Run (start online service scope) log s) :
    ∀ g ∈ s.console.groups, g.Lived service scope := by
  have lived := h.reached.lived (groups_start online service scope)
  have service_start : (start online service scope).console.service = service := by
    cases online <;> rfl
  have scope_start : (start online service scope).console.scope = scope := by
    cases online <;> rfl
  rwa [service_start, scope_start] at lived

end Session

end SettingsConsole
