import SettingsConsole.Proofs.Group.History

/-!
# The saved values

What is saved is never touched by an edit, a question, a request or its failure.  Only a success
moves it, to the values that are shown at that moment; so the saved values are at any time those
that were shown at the last success, or at the start (`baseline_moves_only_on_success`).
-/

namespace SettingsConsole

namespace SettingGroup

/-- The saved value of every setting, under its key. -/
def savedValues (g : SettingGroup) : List (String × Setting.Value) :=
  g.settings.map fun s => (s.key, s.saved)

/-- The value of every setting as it is shown, under its key. -/
def shownValues (settings : List Setting) : List (String × Setting.Value) :=
  settings.map fun s => (s.key, s.current)

/-- Whether a move takes the values that are shown as saved. -/
def Move.takesBaseline : Move → Bool
  | .succeed | .capture => true
  | .operate _ | .fail => false

/-- The group after moves, the first one first. -/
def applyAll (g : SettingGroup) (moves : List Move) : SettingGroup := moves.foldl Move.apply g

/-- The settings as they were when a request last succeeded, or those the group was created with. -/
def settingsAtLastSuccess (settings : List Setting) (log : List Entry) : List Setting :=
  match log.find? (·.move = .succeed) with
  | some e => e.before.settings
  | none => settings

variable {p : Profile} {settings : List Setting} {log : List Entry} {g : SettingGroup} {m : Move}

theorem savedValues_perform (g : SettingGroup) (op : Operation) :
    (op.perform g).1.savedValues = g.savedValues :=
  (g.performed op).map_eq fun _ _ => rfl

theorem savedValues_captureBaseline (g : SettingGroup) :
    g.captureBaseline.savedValues = shownValues g.settings :=
  List.map_map

theorem savedValues_apply (keeps : ¬ m.takesBaseline) :
    (m.apply g).savedValues = g.savedValues := by
  cases m with
  | operate op => exact g.savedValues_perform op
  | succeed => exact absurd rfl keeps
  | fail => rfl
  | capture => exact absurd rfl keeps

theorem savedValues_applyAll {moves : List Move} (keep : ∀ m ∈ moves, ¬ m.takesBaseline)
    (g : SettingGroup) : (g.applyAll moves).savedValues = g.savedValues := by
  induction moves generalizing g with
  | nil => rfl
  | cons m moves ih =>
    have later := ih (fun m' member => keep m' (List.mem_cons_of_mem _ member)) (m.apply g)
    exact later.trans (savedValues_apply (keep m List.mem_cons_self))

/-- What is saved is what was shown at the last success, or at the start. -/
theorem History.savedValues (h : History p settings log g)
    (reported : ∀ e ∈ log, e.move ≠ .capture) :
    g.savedValues = shownValues (settingsAtLastSuccess settings log) := by
  induction h with
  | created => exact List.map_map
  | @moved log g m _ ih =>
    have before := ih fun e older => reported e (List.mem_cons_of_mem _ older)
    by_cases success : m = .succeed
    · have latest : settingsAtLastSuccess settings (⟨g, m⟩ :: log) = g.settings := by
        unfold settingsAtLastSuccess
        rw [List.find?_cons_of_pos (by simpa using success)]
      rw [latest, success]
      exact g.savedValues_captureBaseline
    · have older : settingsAtLastSuccess settings (⟨g, m⟩ :: log) =
          settingsAtLastSuccess settings log := by
        unfold settingsAtLastSuccess
        rw [List.find?_cons_of_neg (by simpa using success)]
      have keeps : ¬ m.takesBaseline := by
        cases m with
        | succeed => exact absurd rfl success
        | capture => exact absurd rfl (reported _ List.mem_cons_self)
        | operate | fail => exact Bool.false_ne_true
      rw [older, savedValues_apply keeps, before]

/-- Whatever state a group is in, operations and failures never change what is saved of any setting;
and in every history the saved values are those that were shown at the last success, or those the
group was created with if nothing has succeeded. -/
theorem baseline_moves_only_on_success :
    (∀ (g : SettingGroup) (moves : List Move), (∀ m ∈ moves, ¬ m.takesBaseline) →
      (g.applyAll moves).savedValues = g.savedValues) ∧
    ∀ {p : Profile} {settings : List Setting} {log : List Entry} {g : SettingGroup},
      History p settings log g → (∀ e ∈ log, e.move ≠ .capture) →
      g.savedValues = shownValues (settingsAtLastSuccess settings log) :=
  ⟨fun g _ keep => savedValues_applyAll keep g, fun h reported => h.savedValues reported⟩

/-- A title is saved as "Synth"; what is typed, sent and refused after that leaves it so. -/
theorem baseline_moves_only_on_success_title :
    let p := Profile.details "https://api.osf.example/v2/" "abc12" "support@osf.io"
    let settings := [Setting.text "title" "Title" "Demo" true,
      .text "description" "Description" "" false]
    let (log, g) := played p settings [.operate (.editText "title" "Late"), .succeed,
      .operate .beginSave, .operate (.editText "title" "Synth")]
    let later : List Move := [.operate .beginSave, .fail, .operate (.editText "title" ""),
      .operate (.editText "description" "More")]
    (∀ e ∈ log, e.move ≠ .capture) ∧ (∀ m ∈ later, ¬ m.takesBaseline) ∧
      g.savedValues = [("title", .text "Synth"), ("description", .text "")] ∧
      (g.applyAll later).savedValues = g.savedValues ∧
      shownValues (g.applyAll later).settings =
        [("title", .text "Late"), ("description", .text "More")] := by
  intro p settings
  obtain ⟨unmoved, atLastSuccess⟩ := baseline_moves_only_on_success
  have history := history_played p settings [.operate (.editText "title" "Late"), .succeed,
    .operate .beginSave, .operate (.editText "title" "Synth")]
  exact ⟨by decide, by decide, atLastSuccess history (by decide),
    unmoved _ _ (by decide), by decide⟩

end SettingGroup

end SettingsConsole
