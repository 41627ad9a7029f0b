import SettingsConsole.Proofs.Console.Prompts

/-!
# Texts that are taken over

A text is edited in a dialog, and the dialog stays while time passes and outcomes come in.  Once it
is taken over, it is either what the setting shows or refused with a message, as long as its group
is loaded (`text_applied_or_refused_unless_dropped`).  The group may be gone by then: a reload that
became due has given it up, or the content that came in since has no place for it.  What was typed
is dropped then, and nothing is said about it (`text_dropped_without_word`).
-/

namespace SettingsConsole

namespace SettingGroup

variable {g g' : SettingGroup} {key content : String} {outcome : EditOutcome}

/-- A text that is accepted is shown by its setting. -/
theorem Performed.of_editText (h : Performed g (.editText key content) g' (.ok outcome)) :
    ∃ x, g'.setting? key = some x ∧ x.current = .text content := by
  have edited {g₁ : SettingGroup} (edit : Edited g (.editText key content) g₁) :
      ∃ x, g₁.setting? key = some x ∧ x.current = .text content := by
    cases edit with
    | assigned _ edits found accepts =>
      cases edits
      cases accepts with
      | text => exact ⟨_, Setting.find?_assign_self found _, rfl⟩
  cases h with
  | edited edit => exact edited edit
  | saved edit _ save =>
    obtain ⟨x, found, shown⟩ := edited edit
    refine ⟨x, ?_, shown⟩
    unfold setting?
    rw [save.settings]
    exact found

end SettingGroup

namespace Console

variable {c : Console} {e : Event} {now : Moment} {id : GroupId} {key label buffer : String}
  {rest : List Dialog} {g : SettingGroup} {core : Core} {effects : List Effect}

/-! ## Taking a text over -/

theorem group?_eq_none_iff : c.group? id = none ↔ id ∉ c.loaded := by
  simp [group?, loaded]

theorem handle_enter (front : c.dialogs = .editText id key label buffer :: rest) (now : Moment) :
    (c.handle (.key .enter) now).1 = match c.group? id with
      | none => { c with dialogs := rest }
      | some g =>
        (concludeEdit { c with dialogs := rest } (g.editText key buffer) now.millis).1 := by
  have untyped : c.typed? .enter = none := by
    unfold typed?
    rw [front]
    rfl
  have found : group? { c with dialogs := rest } id = c.group? id := rfl
  show (c.pressed .enter now.millis).1 = _
  unfold pressed
  rw [untyped, front]
  show (c.answerDialog true now.millis).1 = _
  unfold answerDialog
  rw [front]
  simp only [if_true, found]
  cases c.group? id with
  | none => rfl
  | some g => rfl

/-- A text that a loaded group is given is shown by its setting, or a refusal is shown. -/
theorem applied_or_refused (loaded : c.group? id = some g) (key buffer : String) (now : Nat) :
    (∃ g' x, (c.concludeEdit (g.editText key buffer) now).1.group? id = some g' ∧
      g'.setting? key = some x ∧ x.current = .text buffer) ∨
    ∃ r, (g.editText key buffer).2 = .error r ∧
      (c.concludeEdit (g.editText key buffer) now).1.status = some r.message := by
  have step := g.editText_performed key buffer
  have name : (g.editText key buffer).1.id = id := step.id.trans (id_of_group? loaded)
  have groups : (c.concludeEdit (g.editText key buffer) now).1.groups =
      replaceGroup (g.editText key buffer).1 c.groups :=
    congrArg Core.groups (c.core_concludeEdit (g.editText key buffer) now)
  cases answer : (g.editText key buffer).2 with
  | error r =>
    refine .inr ⟨r, rfl, ?_⟩
    simp only [concludeEdit, answer, refuse]
  | ok outcome =>
    rw [answer] at step
    obtain ⟨x, found, shown⟩ := step.of_editText
    refine .inl ⟨_, x, ?_, found, shown⟩
    unfold group?
    rw [groups, ← name]
    exact find?_replaceGroup _ (name ▸ mem_loaded_of_group? loaded)

/-! ## While a text is edited -/

/-- Whether an event with its effects takes a group away from under a text: a reload starts, or
content comes in that has no place for it. -/
def givesUp (c : Console) (id : GroupId) (e : Event) (effects : List Effect) : Bool :=
  match e with
  | .tick => .load ∈ effects
  | .pageFetched (.ok content) => id ∉ (content.groups c.service c.scope).map SettingGroup.id
  | _ => false

theorem editText_not_mem_opens {result : Except Refusal EditOutcome} :
    Dialog.editText id key label buffer ∉ opens result := by
  unfold opens
  split <;> simp

theorem editText_not_mem_reports {result : Except String Unit} :
    Dialog.editText id key label buffer ∉ g.reports result := by
  cases result <;> simp [SettingGroup.reports]

theorem commits_of_front (front : c.dialogs = .editText id key label buffer :: rest) :
    c.commits id (.key .enter) := by
  simp [commits, front]

theorem commits_of_append {pushed : List Dialog}
    (front : c.dialogs ++ pushed = .editText id key label buffer :: rest)
    (others : .editText id key label buffer ∉ pushed) : c.commits id (.key .enter) := by
  cases shown : c.dialogs with
  | nil =>
    rw [shown, List.nil_append] at front
    exact absurd (front ▸ List.mem_cons_self) others
  | cons first later =>
    rw [shown, List.cons_append] at front
    exact commits_of_front (shown.trans (congrArg (· :: later) (List.cons.inj front).1))

/-- Where a text is edited after an event and its group is not loaded, it was edited before, and the
group was not loaded before either, or the event has taken it away. -/
theorem Handled.commits_or_givesUp (h : Handled c e core effects)
    (behind : ∀ d ∈ c.dialogs.tail, ¬ d.isImmediate)
    (front : core.dialogs = .editText id key label buffer :: rest)
    (gone : id ∉ core.groups.map SettingGroup.id) :
    c.commits id (.key .enter) ∧ (id ∉ c.loaded ∨ c.givesUp id e effects) := by
  have not_behind : .editText id key label buffer ∉ c.dialogs.tail :=
    fun member => behind _ member rfl
  have shown : .editText id key label buffer ∈ core.dialogs := front ▸ List.mem_cons_self
  cases h with
  | kept => exact ⟨commits_of_front front, .inl gone⟩
  | guarded => exact ⟨commits_of_append front (by simp), .inl gone⟩
  | reloaded leaving =>
    refine ⟨commits_of_front front, .inr ?_⟩
    cases leaving with
    | due => simp [givesUp]
    | reload free => cases free.symm.trans front
  -- No text comes to the front: it is shown as soon as it is opened.
  | abandoned before | closed before =>
    rw [before] at not_behind
    exact absurd shown not_behind
  | typed before =>
    cases front
    exact ⟨commits_of_front before, .inl gone⟩
  | opened _ loaded =>
    cases front
    exact absurd (mem_loaded_of_group? loaded) gone
  | operated =>
    exact absurd (List.mem_append.1 shown) (not_or.2 ⟨not_behind, editText_not_mem_opens⟩)
  | settled =>
    rw [map_id_replaceGroup] at gone
    exact ⟨commits_of_append front editText_not_mem_reports, .inl gone⟩
  | reported => exact ⟨commits_of_append front (by simp), .inl gone⟩
  | pageInstalled =>
    rw [List.map_append, List.mem_append, not_or] at gone
    exact ⟨commits_of_front front, .inr (decide_eq_true gone.1)⟩
  | institutionsInstalled =>
    rw [List.map_append, map_id_removeGroup, List.mem_append, not_or] at gone
    have other : id ≠ .institution := fun it => gone.2 (it ▸ List.mem_cons_self)
    rw [List.mem_erase_of_ne other] at gone
    exact ⟨commits_of_front front, .inl gone.1⟩

end Console

namespace Session

/-- Whether a group was taken away while the text was edited that is shown now. -/
def droppedWhileEdited (id : GroupId) : List Entry → Bool
  | [] => false
  | x :: earlier =>
    x.session.console.commits id (.key .enter) &&
      (x.session.console.givesUp id x.event (x.session.console.handle x.event x.now).2 ||
        droppedWhileEdited id earlier)

variable {online : Bool} {service : Service} {scope : Scope} {log : List Entry} {s : Session}
  {id : GroupId} {key label buffer : String} {rest : List Dialog}

/-- The group of a text that is edited is loaded, unless it was taken away meanwhile. -/
theorem Run.dropped_of_not_loaded (h : Run (start online service scope) log s)
    (front : s.console.dialogs = .editText id key label buffer :: rest)
    (gone : id ∉ s.console.loaded) : droppedWhileEdited id log := by
  induction h generalizing key label buffer rest with
  | opened =>
    rw [dialogs_start] at front
    cases front
  | @handled log s e now run accepted ih =>
    obtain ⟨edited, before | taken⟩ :=
      (s.console.handled e now).commits_or_givesUp run.inStep.1.behind front gone
    · obtain ⟨key, label, buffer, rest, front⟩ := Console.exists_editText_of_commits edited
      simp [droppedWhileEdited, edited, ih front before]
    · simp [droppedWhileEdited, edited, taken]

/-- Whatever happened while a text was edited, once it is taken over it is what the setting of the
loaded group shows, or the reason why not is shown; unless the group was taken away meanwhile: then
the dialog is closed and nothing else happens. -/
theorem text_applied_or_refused_unless_dropped (h : Run (start online service scope) log s)
    (front : s.console.dialogs = .editText id key label buffer :: rest) (now : Moment) :
    (∃ g x, (s.after (.key .enter) now).console.group? id = some g ∧
      g.setting? key = some x ∧ x.current = .text buffer) ∨
    (∃ g r, s.console.group? id = some g ∧ (g.editText key buffer).2 = .error r ∧
      (s.after (.key .enter) now).console.status = some r.message) ∨
    (s.console.group? id = none ∧ droppedWhileEdited id log ∧
      (s.after (.key .enter) now).console = { s.console with dialogs := rest }) := by
  rw [console_after, Console.handle_enter front]
  cases loaded : s.console.group? id with
  | none =>
    have dropped := h.dropped_of_not_loaded front (Console.group?_eq_none_iff.1 loaded)
    exact .inr (.inr ⟨rfl, dropped, rfl⟩)
  | some g =>
    have found : Console.group? { s.console with dialogs := rest } id = some g := loaded
    exact (Console.applied_or_refused found key buffer now.millis).imp_right
      fun ⟨r, refused, said⟩ => .inl ⟨g, r, rfl, refused, said⟩

/-- What leads to a title that is edited when the reload is due that follows the save of the
add-ons. -/
def editedAfterSave : List Event :=
  [.key (.char 'X'), .key (.char ' '), .key .backTab, .saveSettled .addons (.ok ()),
    .key (.char 's'), .key (.char ' '), .key .tab, .pageFetched (.ok smallPage)]

/-- The title is taken over before the reload starts. -/
theorem text_applied_or_refused_unless_dropped_title :
    let (log, s) := smallRun editedAfterSave
    let after := (s.after (.key .enter) ⟨0, 2026, 3, 14, 9, 0⟩).console
    Run smallStart log s ∧
      s.console.dialogs = [.editText .details "title" "Title" "DemoX"] ∧ after.dialogs = [] ∧
      ∃ g x, after.group? .details = some g ∧ g.setting? "title" = some x ∧
        x.current = .text "DemoX" := by
  have run : Run smallStart (smallRun editedAfterSave).1 (smallRun editedAfterSave).2 :=
    run_smallRun (by decide)
  have front : (smallRun editedAfterSave).2.console.dialogs =
    [.editText .details "title" "Title" "DemoX"] := by decide
  have unsaid : ((smallRun editedAfterSave).2.after (.key .enter)
    ⟨0, 2026, 3, 14, 9, 0⟩).console.status = none := by decide
  refine ⟨run, front, by decide, ?_⟩
  rcases text_applied_or_refused_unless_dropped run front ⟨0, 2026, 3, 14, 9, 0⟩ with
    applied | ⟨g, r, -, -, said⟩ | ⟨gone, -⟩
  · exact applied
  · cases unsaid.symm.trans said
  · exact absurd gone (by decide)

/-- The reload starts first, and the title is dropped without a word. -/
theorem text_dropped_without_word :
    let (log, s) := smallRun (.tick :: editedAfterSave)
    let after := (s.after (.key .enter) ⟨0, 2026, 3, 14, 9, 0⟩).console
    Run smallStart log s ∧
      s.console.dialogs = [.editText .details "title" "Title" "DemoX"] ∧ after.dialogs = [] ∧
      after.group? .details = none ∧ after.status = none := by
  have run : Run smallStart (smallRun (.tick :: editedAfterSave)).1
    (smallRun (.tick :: editedAfterSave)).2 := run_smallRun (by decide)
  exact ⟨run, by decide, by decide, by decide, by decide⟩

end Session

end SettingsConsole
