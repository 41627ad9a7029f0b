import SettingsConsole.Proofs.Console.Rebuild

/-!
# Requests that are sent

A request goes out only when the user has something saved (`Console.Saves`): a key activates a row
or saves the tab while no dialog is shown, or it accepts the question or the text that is shown.
One event sends one request at most, and the group that it is for waits for it from then on and
did not before (`sent_only_on_request`).  Time, fetches and settled requests send nothing, so no
request is ever tried again by itself.
-/

namespace SettingsConsole

variable {request : Submission}

theorem mem_sends_iff {result : Except Refusal EditOutcome} :
    .send request ∈ sends result ↔ result = .ok (.save (.submit request)) := by
  constructor
  · intro sent
    unfold sends at sent
    split at sent
    · cases List.mem_singleton.1 sent
      rfl
    · cases sent
  · rintro rfl
    exact List.mem_singleton.2 rfl

theorem length_sends_le (result : Except Refusal EditOutcome) : (sends result).length ≤ 1 := by
  unfold sends
  split <;> simp

namespace SettingGroup

variable {g g' : SettingGroup} {op : Operation}

theorem Edited.not_declines (h : Edited g op g') : ¬ op.declines := by
  cases h with
  | assigned _ edits => cases op <;> simp_all [Operation.edits?, Operation.declines]
  | agreed => exact Bool.false_ne_true
  | untouched => exact Bool.false_ne_true

/-- No request comes of an answer with no. -/
theorem Performed.not_declines_of_submit
    (h : Performed g op g' (.ok (.save (.submit request)))) : ¬ op.declines := by
  cases h with
  | saved edit => exact edit.not_declines
  | confirmed => exact Bool.false_ne_true

end SettingGroup

namespace Console

/-- The events by which the user has something saved. -/
inductive Saves (c : Console) : Event → Prop
  | activated {key row} : c.dialogs = [] → key = .char ' ' ∨ key = .enter →
      c.selectedRow? = some row → Saves c (.key key)
  | savedTab : c.dialogs = [] → Saves c (.key (.char 's'))
  | agreed {key prompt rest} : c.dialogs = .confirm prompt :: rest →
      key = .char 'y' ∨ key = .enter → Saves c (.key key)
  | typed {id name label buffer rest} : c.dialogs = .editText id name label buffer :: rest →
      Saves c (.key .enter)

variable {c : Console} {e : Event} {groups : List SettingGroup} {effects : List Effect}

theorem eq_of_dialogAnswer?_confirm {prompt : Prompt} {key : Key}
    (h : dialogAnswer? (.confirm prompt) key = some true) : key = .char 'y' ∨ key = .enter := by
  unfold dialogAnswer? at h
  split at h <;> simp_all

/-- The user has something saved by whatever a key asks for, except by an answer with no. -/
theorem saves_of_operation? {key : Key} {id : GroupId} {op : Operation}
    (asked : c.operation? key = some (id, op)) (agrees : ¬ op.declines) : c.Saves (.key key) := by
  cases c.asked_of_operation? asked with
  | @answered _ prompt _ accepted front answer =>
    cases accepted with
    | true => exact .agreed front (eq_of_dialogAnswer?_confirm answer)
    | false => cases kind : prompt.kind <;> rw [kind] at agrees <;> exact absurd rfl agrees
  | typed front => exact .typed front
  | toggled free press selected => exact .activated free press selected
  | selected free press selected => exact .activated free press selected
  | saved free => exact .savedTab free

theorem Regrouped.length_effects_le (h : Regrouped c e groups effects) : effects.length ≤ 1 := by
  cases h with
  | operated => exact length_sends_le _
  | _ => simp

/-- A request that is sent was asked for, and it carries the state of the group that waits for it
from then on. -/
theorem Regrouped.of_sent (h : Regrouped c e groups effects) (sent : .send request ∈ effects) :
    c.Saves e ∧ ∃ g g', c.group? request.group = some g ∧ ¬ g.isSaving ∧
      groups.find? (·.id = request.group) = some g' ∧ g'.isSaving ∧ request = g'.submission := by
  cases h with
  | @operated key id op g asked loaded =>
    have accepted := mem_sends_iff.1 sent
    have step := g.performed op
    rw [accepted] at step
    obtain ⟨waits, carried, -⟩ := step.of_submit
    have idle : ¬ g.isSaving := fun out => by
      obtain ⟨-, r, refused⟩ := step.of_saving (of_decide_eq_true out)
      cases refused
    obtain rfl := id_of_group? loaded
    have name : (op.perform g).1.id = g.id := step.id
    have named : request.group = (op.perform g).1.id := by
      rw [carried]
      rfl
    have listed : (op.perform g).1.id ∈ c.groups.map SettingGroup.id :=
      name ▸ mem_loaded_of_group? loaded
    refine ⟨saves_of_operation? asked step.not_declines_of_submit, g, (op.perform g).1, ?_, idle,
      ?_, decide_eq_true waits, carried⟩
    · rw [named, name]
      exact loaded
    · rw [named]
      exact find?_replaceGroup _ listed
  | reloaded => cases List.mem_singleton.1 sent
  | _ => cases sent

/-- An event sends one request at most, and only if the user has something saved by it; the request
is that of the loaded group of its name, which waits for it after the event and did not before. -/
theorem sent_only_on_request (c : Console) (e : Event) (now : Moment) :
    ((c.handle e now).2.filterMap Effect.saves?).length ≤ 1 ∧
      ∀ request, .send request ∈ (c.handle e now).2 → c.Saves e ∧
        ∃ g g', c.group? request.group = some g ∧ ¬ g.isSaving ∧
          (c.handle e now).1.group? request.group = some g' ∧ g'.isSaving ∧
          request = g'.submission := by
  have step := c.handle_groups e now
  refine ⟨?_, fun request sent => step.of_sent sent⟩
  exact Nat.le_trans (List.length_filterMap_le _ _) step.length_effects_le

/-- The removal of an add-on is confirmed while the alert about another save stands behind the
question. -/
theorem sent_only_on_request_addons :
    let page := { Session.smallPage with addons := [⟨"dropbox", "Dropbox", true, none⟩] }
    let c := (Session.smallRun [.saveSettled .wiki (.error "timeout"), .key (.char 's'),
      .key (.char ' '), .key .backTab, .key (.char ' '), .key .tab, .key .tab,
      .pageFetched (.ok page)]).2.console
    let step := c.handle (.key .enter) ⟨0, 2026, 3, 14, 9, 0⟩
    let request : Submission := ⟨.addons, .post,
      "https://osf.example/api/v1/project/abc12/settings/addons/",
      some (.object [("dropbox", .bool false)])⟩
    c.dialogs.length = 2 ∧ .send request ∈ step.2 ∧ c.Saves (.key .enter) ∧
      ∃ g', step.1.group? .addons = some g' ∧ g'.isSaving ∧ request = g'.submission := by
  intro page c step request
  have sent : .send request ∈ step.2 := by decide
  obtain ⟨saves, -, g', -, -, found, waits, carried⟩ := (sent_only_on_request c _ _).2 request sent
  exact ⟨by decide, sent, saves, g', found, waits, carried⟩

end Console

end SettingsConsole
