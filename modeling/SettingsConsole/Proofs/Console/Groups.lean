import SettingsConsole.Proofs.Console.Handled
import SettingsConsole.Proofs.Group.Changes

/-!
# What an event makes of the groups

An event either leaves the groups alone, gives them up for a reload, installs groups that were
fetched, or does to one group what a key asks for or a settled request calls for.  `handle_groups`
says so for every event, with the effects that go along; the rest of a console never matters to its
groups.
-/

namespace SettingsConsole

namespace SettingGroup

theorem perform_of_isSaving {g : SettingGroup} (out : g.isSaving) (op : Operation) :
    (op.perform g).1 = g :=
  ((g.performed op).of_saving (of_decide_eq_true out)).1

/-- An operation sends nothing, or the request that the group waits for from then on. -/
theorem sends_perform (g : SettingGroup) (op : Operation) :
    sends (op.perform g).2 = [] ∨
      ∃ request, sends (op.perform g).2 = [.send request] ∧ request.group = g.id ∧
        ¬ g.isSaving ∧ (op.perform g).1.isSaving := by
  have step := g.performed op
  cases answer : (op.perform g).2 with
  | error r => exact .inl rfl
  | ok outcome =>
    rw [answer] at step
    cases outcome with
    | save outcome =>
      cases outcome with
      | submit request =>
        obtain ⟨waits, carried, -⟩ := step.of_submit
        refine .inr ⟨request, rfl, ?_, fun out => ?_, decide_eq_true waits⟩
        · rw [carried]
          exact g.id_perform op
        · obtain ⟨-, r, refused⟩ := step.of_saving (of_decide_eq_true out)
          cases refused
      | _ => exact .inl rfl
    | _ => exact .inl rfl

end SettingGroup

namespace Console

/-- The events on which a reload starts: nothing is unsaved, or the user gives it up. -/
inductive Leaves (c : Console) : Event → Prop
  | due : c.unsavedWarnings = [] → Leaves c .tick
  | asked : c.dialogs = [] → c.unsavedWarnings = [] → Leaves c (.key (.char 'r'))
  | agreed {warnings rest} : c.dialogs = .exitGuard warnings .reload :: rest →
      Leaves c (.key (.char 'y'))

/-- What an event makes of the groups, and what it asks for. -/
inductive Regrouped (c : Console) : Event → List SettingGroup → List Effect → Prop
  | kept (e) : Regrouped c e c.groups []
  | reloaded {e} : Leaves c e → ¬ c.isSaving → Regrouped c e [] [.load]
  | pageInstalled {content} : Regrouped c (.pageFetched (.ok content))
      (content.groups c.service c.scope ++ (c.group? .institution).toList) []
  | institutionsInstalled {choices} : Regrouped c (.institutionsFetched (.ok choices))
      (removeGroup .institution c.groups ++ [choices.group c.service c.scope]) []
  | operated {key id op g} : c.operation? key = some (id, op) → c.group? id = some g →
      Regrouped c (.key key) (replaceGroup (op.perform g).1 c.groups) (sends (op.perform g).2)
  | settled {id result g} : c.group? id = some g → g.isSaving →
      Regrouped c (.saveSettled id result) (replaceGroup (g.settle result) c.groups) []

variable {c : Console} {e : Event} {core : Core} {effects : List Effect}

theorem unsavedWarnings_eq_nil_iff : c.unsavedWarnings = [] ↔ ∀ g ∈ c.groups, ¬ g.isDirty := by
  unfold unsavedWarnings
  simp only [← SettingGroup.isSome_unsavedWarning?, Option.not_isSome_iff_eq_none,
    List.filterMap_eq_nil_iff]

theorem Leaving.leaves (h : Leaving c e .reload) (clean : c.unsavedWarnings = []) :
    Leaves c e := by
  cases h with
  | due => exact .due clean
  | reload free => exact .asked free clean

theorem Handled.regrouped (h : Handled c e core effects) :
    Regrouped c e core.groups effects := by
  cases h with
  | reloaded leaving clean saving => exact .reloaded (leaving.leaves clean) saving
  | abandoned front saving => exact .reloaded (.agreed front) saving
  | operated asked loaded => exact .operated asked loaded
  | settled loaded out => exact .settled loaded out
  | pageInstalled => exact .pageInstalled
  | institutionsInstalled => exact .institutionsInstalled
  | kept | guarded | typed | opened | closed | reported => exact .kept _

/-- What every event makes of the groups, and what it asks for. -/
theorem handle_groups (c : Console) (e : Event) (now : Moment) :
    Regrouped c e (c.handle e now).1.groups (c.handle e now).2 :=
  (c.handled e now).regrouped

end Console

end SettingsConsole
