import SettingsConsole.Proofs.Console.Lineage
import SettingsConsole.Proofs.Group.SaveCycle

/-!
# The warning before the page is left

The warning lists what is unsaved when it joins the queue of dialogs, and it is answered when it has
come to the front.  In between only a text that is taken over in front of it can become unsaved
(`exitGuard_names_unsaved`): a question is asked after the change that it is about, a request that
is out is about a change too, and what is fetched comes in as it is saved.  The warning before the
console quits never stands behind a text.
-/

namespace SettingsConsole

namespace SettingGroup

variable {g g' : SettingGroup} {op : Operation} {result : Except Refusal EditOutcome} {w : String}

theorem not_isEmpty_of_unsavedWarning? (unsaved : g.unsavedWarning? = some w) :
    ¬ g.changes.isEmpty := by
  intro clean
  unfold unsavedWarning? isDirty at unsaved
  rw [clean] at unsaved
  cases unsaved

theorem unsavedWarning?_eq (profile : g'.profile = g.profile) (dirty' : ¬ g'.changes.isEmpty)
    (dirty : ¬ g.changes.isEmpty) : g'.unsavedWarning? = g.unsavedWarning? := by
  unfold unsavedWarning? isDirty
  rw [Bool.eq_false_iff.2 dirty', Bool.eq_false_iff.2 dirty, profile]

/-- A group becomes unsaved by an edit only: where an answer is asked for, or a request out, it is
unsaved already. -/
theorem Performed.unsaved_before (h : Performed g op g' result) (grounded : g.Grounded)
    (unedited : op.edits? = none) (dirty : ¬ g'.changes.isEmpty) : ¬ g.changes.isEmpty := by
  have untouched {g₁ : SettingGroup} (edit : Edited g op g₁) : g₁.settings = g.settings := by
    cases edit with
    | assigned _ edits => cases unedited.symm.trans edits
    | agreed => rfl
    | untouched => rfl
  cases h with
  | refused => exact dirty
  | forgotten => exact dirty
  | redirected => cases unedited
  | asked => cases unedited
  | edited edit =>
    unfold changes at dirty
    rwa [untouched edit] at dirty
  | saved edit _ save =>
    unfold changes at dirty
    rwa [save.settings, untouched edit] at dirty
  -- What an answer takes back was unsaved when it was asked about.
  | declined waits => exact grounded.unsaved (by rw [waits]; nofun)
  | confirmed => exact dirty
  | takenBack waits => exact grounded.unsaved (by rw [waits]; nofun)

theorem Lived.grounded {service : Service} {scope : Scope} (h : g.Lived service scope) :
    g.Grounded := by
  obtain ⟨p, settings, log, -, history, orderly⟩ := h
  exact history.grounded orderly

theorem IsFresh.isEmpty (fresh : g.IsFresh) : g.changes.isEmpty := by
  unfold changes
  exact (Changes.isEmpty_ofSettings_iff _).2 fresh.2

end SettingGroup

namespace Console

variable {c : Console} {e : Event} {core : Core} {effects : List Effect} {g : SettingGroup}
  {warnings : List String} {action : ExitAction}

/-- Whether an event takes over the text that was typed for a group. -/
def commits (c : Console) (id : GroupId) : Event → Bool
  | .key .enter =>
    match c.dialogs with
    | .editText named _ _ _ :: _ => named = id
    | _ => false
  | _ => false

theorem exists_editText_of_commits {id : GroupId} (h : c.commits id e) :
    ∃ name label buffer rest, c.dialogs = .editText id name label buffer :: rest := by
  unfold commits at h
  split at h
  · split at h
    next front =>
      obtain rfl := of_decide_eq_true h
      exact ⟨_, _, _, _, front⟩
    · cases h
  · cases h

/-- While a dialog is shown, the only edit is a text that is taken over. -/
theorem commits_of_edits {key : Key} {id : GroupId} {op : Operation}
    (asked : c.operation? key = some (id, op)) (edits : op.edits? ≠ none)
    (shown : c.dialogs ≠ []) : c.commits id (.key key) := by
  cases c.asked_of_operation? asked with
  | @answered _ prompt =>
    cases kind : prompt.kind <;> rw [kind] at edits <;> exact absurd rfl edits
  | typed front =>
    unfold commits
    rw [front]
    exact decide_eq_true rfl
  | toggled free | selected free | saved free => exact absurd free shown

/-- While a dialog is shown, a group that is unsaved after an event was so before, unless its text
is taken over. -/
theorem Origin.warned (h : Origin c e g) (grounded : ∀ g ∈ c.groups, g.Grounded)
    (shown : c.dialogs ≠ []) {w : String} (unsaved : g.unsavedWarning? = some w) :
    (∃ before ∈ c.groups, before.id = g.id ∧ before.unsavedWarning? = some w) ∨
      c.commits g.id e := by
  have dirty := SettingGroup.not_isEmpty_of_unsavedWarning? unsaved
  cases h with
  | built it => exact absurd it.isFresh.isEmpty dirty
  | stayed member => exact .inl ⟨g, member, rfl, unsaved⟩
  | @operated key op g member asked =>
    have step := g.performed op
    rw [step.id]
    by_cases edits : op.edits? = none
    · have before := step.unsaved_before (grounded g member) edits dirty
      rw [SettingGroup.unsavedWarning?_eq step.profile dirty before] at unsaved
      exact .inl ⟨g, member, rfl, unsaved⟩
    · exact .inr (commits_of_edits asked edits shown)
  | @settled result g member out =>
    cases result with
    | ok => exact absurd g.isEmpty_changes_captureBaseline dirty
    | error => exact .inl ⟨g, member, rfl, unsaved⟩

/-! ## Warnings in the queue -/

theorem exitGuard_not_mem_opens {result : Except Refusal EditOutcome} :
    Dialog.exitGuard warnings action ∉ opens result := by
  unfold opens
  split <;> simp

theorem exitGuard_not_mem_reports {result : Except String Unit} :
    Dialog.exitGuard warnings action ∉ g.reports result := by
  cases result <;> simp [SettingGroup.reports]

/-- A warning that is in the queue after an event was there before, or lists what is unsaved. -/
theorem Handled.exitGuard_mem (h : Handled c e core effects)
    (waits : .exitGuard warnings action ∈ core.dialogs) :
    .exitGuard warnings action ∈ c.dialogs ∨
      warnings = c.unsavedWarnings ∧ core.groups = c.groups := by
  cases h with
  | kept | reloaded | pageInstalled | institutionsInstalled => exact .inl waits
  | abandoned front | closed front =>
    rw [front]
    exact .inl (List.mem_cons_of_mem _ waits)
  | typed front =>
    rw [front]
    exact .inl (List.mem_cons_of_mem _ ((List.mem_cons.1 waits).resolve_left nofun))
  | opened => cases List.mem_singleton.1 waits
  | guarded =>
    rcases List.mem_append.1 waits with waited | pushed
    · exact .inl waited
    · cases List.mem_singleton.1 pushed
      exact .inr ⟨rfl, rfl⟩
  | operated =>
    rcases List.mem_append.1 waits with waited | opened
    · exact .inl (List.mem_of_mem_tail waited)
    · exact absurd opened exitGuard_not_mem_opens
  | settled =>
    rcases List.mem_append.1 waits with waited | reported
    · exact .inl waited
    · exact absurd reported exitGuard_not_mem_reports
  | reported =>
    rcases List.mem_append.1 waits with waited | reported
    · exact .inl waited
    · cases List.mem_singleton.1 reported

theorem mem_tail_append {α : Type} {x : α} {l l' : List α} (h : x ∈ (l ++ l').tail) :
    x ∈ l.tail ∨ x ∈ l' := by
  cases l with
  | nil => exact .inr (List.mem_of_mem_tail h)
  | cons => exact List.mem_append.1 h

/-- No warning before the console quits comes to stand behind another dialog. -/
theorem Handled.quit_mem_tail (h : Handled c e core effects)
    (behind : .exitGuard warnings .quit ∈ core.dialogs.tail) :
    .exitGuard warnings .quit ∈ c.dialogs.tail := by
  cases h with
  | kept | reloaded | pageInstalled | institutionsInstalled => exact behind
  | abandoned front | closed front =>
    rw [front]
    exact List.mem_of_mem_tail behind
  | typed front =>
    rw [front]
    exact behind
  | opened => cases behind
  | guarded leaving =>
    rcases mem_tail_append behind with before | pushed
    · exact before
    · cases List.mem_singleton.1 pushed
      -- The console asks before it quits only while no dialog is shown.
      cases leaving with
      | quit free =>
        rw [free] at behind
        cases behind
  | operated =>
    rcases List.mem_append.1 (List.mem_of_mem_tail behind) with before | opened
    · exact before
    · exact absurd opened exitGuard_not_mem_opens
  | settled =>
    rcases mem_tail_append behind with before | reported
    · exact before
    · exact absurd reported exitGuard_not_mem_reports
  | reported =>
    rcases mem_tail_append behind with before | reported
    · exact before
    · cases List.mem_singleton.1 reported

end Console

namespace Session

/-- Whether a text of a group was taken over while a dialog stood behind it that has been in the
queue ever since. -/
def committedBehind (d : Dialog) (id : GroupId) : List Entry → Bool
  | [] => false
  | x :: earlier =>
    d ∈ x.session.console.dialogs &&
      (x.session.console.commits id x.event || committedBehind d id earlier)

variable {online : Bool} {service : Service} {scope : Scope} {log : List Entry} {s : Session}
  {warnings : List String} {action : ExitAction}

theorem dialogs_start (online : Bool) (service : Service) (scope : Scope) :
    (start online service scope).console.dialogs = [] := by
  cases online <;> rfl

theorem Run.quit_not_mem_tail (h : Run (start online service scope) log s) :
    .exitGuard warnings .quit ∉ s.console.dialogs.tail := by
  refine h.invariant (fun s => .exitGuard warnings .quit ∉ s.console.dialogs.tail) ?_ ?_ s
    List.mem_cons_self
  · rw [dialogs_start]
    exact List.not_mem_nil
  · intro x _ _ never behind
    exact never ((x.session.console.handled x.event x.now).quit_mem_tail behind)

/-- Only the warning before a reload can stand behind a text. -/
theorem Run.reload_of_committedBehind (h : Run (start online service scope) log s) {id : GroupId}
    (behind : committedBehind (.exitGuard warnings action) id log) : action = .reload := by
  induction h with
  | opened => cases behind
  | @handled log s e now run accepted ih =>
    unfold committedBehind at behind
    rw [Bool.and_eq_true, Bool.or_eq_true] at behind
    obtain ⟨waits, commits | earlier⟩ := behind
    · obtain ⟨name, label, buffer, rest, front⟩ := Console.exists_editText_of_commits commits
      have waits := of_decide_eq_true waits
      rw [front] at waits
      cases action with
      | reload => rfl
      | quit =>
        have never : .exitGuard warnings .quit ∉ s.console.dialogs.tail := run.quit_not_mem_tail
        rw [front] at never
        exact absurd ((List.mem_cons.1 waits).resolve_left nofun) never
    · exact ih earlier

theorem Run.grounded (h : Run (start online service scope) log s) :
    ∀ g ∈ s.console.groups, g.Grounded :=
  fun g member => (h.lived g member).grounded

/-- A warning in the queue lists every group that is unsaved, unless its text was taken over in
front of the warning. -/
theorem Run.exitGuard_lists (h : Run (start online service scope) log s)
    (waits : .exitGuard warnings action ∈ s.console.dialogs) {g : SettingGroup}
    (member : g ∈ s.console.groups) {w : String} (unsaved : g.unsavedWarning? = some w) :
    w ∈ warnings ∨ committedBehind (.exitGuard warnings action) g.id log := by
  induction h generalizing g with
  | opened =>
    rw [dialogs_start] at waits
    cases waits
  | @handled log s e now run accepted ih =>
    have step := s.console.handled e now
    -- The warning was in the queue already, or the event has put it there.
    rcases step.exitGuard_mem waits with waited | ⟨rfl, same⟩
    · have shown : s.console.dialogs ≠ [] := List.ne_nil_of_mem waited
      unfold committedBehind
      rw [decide_eq_true waited, Bool.true_and, Bool.or_eq_true]
      rcases (step.regrouped.origin member).warned run.grounded shown unsaved with
        ⟨before, member, name, unsaved⟩ | commits
      · rcases ih waited member unsaved with listed | behind
        · exact .inl listed
        · exact .inr (.inr (name ▸ behind))
      · exact .inr (.inl commits)
    · left
      have member : g ∈ s.console.groups := same ▸ member
      exact List.mem_filterMap.2 ⟨g, member, unsaved⟩

/-- The warning that is shown before the page is left lists every group that is unsaved then, unless
it is shown before a reload and a text of the group was taken over in front of it. -/
theorem exitGuard_names_unsaved (h : Run (start online service scope) log s) {rest : List Dialog}
    (front : s.console.dialogs = .exitGuard warnings action :: rest) {g : SettingGroup}
    (member : g ∈ s.console.groups) {w : String} (unsaved : g.unsavedWarning? = some w) :
    w ∈ warnings ∨
      action = .reload ∧ committedBehind (.exitGuard warnings action) g.id log := by
  have waits : .exitGuard warnings action ∈ s.console.dialogs := by
    rw [front]
    exact List.mem_cons_self
  exact (h.exitGuard_lists waits member unsaved).imp_right fun behind =>
    ⟨h.reload_of_committedBehind behind, behind⟩

/-- What leads to a warning behind a text: a reload is asked for while the wiki is being saved, an
add-on is switched on, and the reload becomes due while the title is being edited. -/
def warnedBehindText : List Event :=
  [.tick, .saveSettled .wiki (.ok ()), .key (.char 'X'), .key (.char ' '), .key (.char 'r'),
    .key .backTab, .key (.char ' '), .key .backTab, .key (.char ' '), .key .tab, .key .tab,
    .institutionsFetched (.ok ⟨[], none⟩), .wikiFetched (.ok []), .subscriptionsFetched (.ok []),
    .pageFetched (.ok smallPage)]

/-- The text is given up, and then the warning is shown. -/
theorem exitGuard_names_unsaved_addons :
    let (log, s) := smallRun (.key .escape :: warnedBehindText)
    let w := "The changes on addon setting are not submitted!"
    Run smallStart log s ∧ ∃ warnings, s.console.dialogs = [.exitGuard warnings .reload] ∧
      ∃ g ∈ s.console.groups, g.id = .addons ∧ g.unsavedWarning? = some w ∧ w ∈ warnings := by
  have run : Run smallStart (smallRun (.key .escape :: warnedBehindText)).1
    (smallRun (.key .escape :: warnedBehindText)).2 := run_smallRun (by decide)
  have front : (smallRun (.key .escape :: warnedBehindText)).2.console.dialogs =
    [.exitGuard ["The changes on addon setting are not submitted!"] .reload] := by decide
  have edited : ∃ g ∈ (smallRun (.key .escape :: warnedBehindText)).2.console.groups,
    g.id = .addons ∧
      g.unsavedWarning? = some "The changes on addon setting are not submitted!" := by decide
  obtain ⟨g, member, name, unsaved⟩ := edited
  refine ⟨run, _, front, g, member, name, unsaved, ?_⟩
  refine (exitGuard_names_unsaved run front member unsaved).resolve_right fun ⟨_, behind⟩ => ?_
  rw [name] at behind
  exact absurd behind (by decide)

/-- The text is taken over, so that the warning does not list it, and the user agrees to leave. -/
theorem unsaved_unnamed_behind_text :
    let (log, s) := smallRun (.key .enter :: warnedBehindText)
    let warnings := ["The changes on addon setting are not submitted!"]
    let left := s.after (.key (.char 'y')) ⟨0, 2026, 3, 14, 9, 0⟩
    Run smallStart log s ∧ (∀ t ∈ states log s, t.awaited.Nodup) ∧
      s.console.dialogs = [.exitGuard warnings .reload] ∧
      (∃ g ∈ s.console.groups, g.unsavedWarning?.any (· ∉ warnings)) ∧
      left.console.groups = [] ∧ left.awaited = PageArea.all := by
  have run : Run smallStart (smallRun (.key .enter :: warnedBehindText)).1
    (smallRun (.key .enter :: warnedBehindText)).2 := run_smallRun (by decide)
  exact ⟨run, by decide, by decide, by decide, by decide, by decide⟩

end Session

end SettingsConsole
