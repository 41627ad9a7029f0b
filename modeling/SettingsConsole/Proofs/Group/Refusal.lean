import SettingsConsole.Proofs.Group.Operation

/-!
# Why an operation is refused

An operation is refused because the group waits for something else, because nothing was asked that
it answers, or because its setting does not take the value (`refuses_of_error`).  The save that
follows an edit is never refused.  The words for a refusal tell the open question apart from
everything else that can be in the way (`Refusal.eq_promptOpen`).
-/

namespace SettingsConsole

theorem any_head?_append {p : Char → Bool} {text : String} (starts : text.toList.head?.any p)
    (more : String) : (text ++ more).toList.head?.any p := by
  rw [String.toList_append, List.head?_append]
  cases first : text.toList.head? with
  | none => simp [first] at starts
  | some ch => rwa [first] at starts

/-- A text that starts with another letter does not ask for the open question to be answered. -/
theorem ne_promptOpen_of_head? {text : String} (starts : text.toList.head?.any (· ≠ 'A')) :
    text ≠ Refusal.promptOpen.message := by
  rintro rfl
  exact absurd starts (by decide)

/-- Only an open question is refused in these words. -/
theorem Refusal.eq_promptOpen {r : Refusal} (same : r.message = Refusal.promptOpen.message) :
    r = .promptOpen := by
  -- The texts start with different letters, except that a label may come first; then the last
  -- letter differs.
  cases r with
  | promptOpen => rfl
  | saving => exact absurd same (by decide)
  | nothingAsked => exact absurd same (by decide)
  | unknownSetting key =>
    refine absurd same (ne_promptOpen_of_head? ?_)
    unfold Refusal.message
    exact any_head?_append (any_head?_append (by decide) key) _
  | wrongKind key =>
    refine absurd same (ne_promptOpen_of_head? ?_)
    unfold Refusal.message
    exact any_head?_append (any_head?_append (by decide) key) _
  | notAnOption key value =>
    refine absurd same (ne_promptOpen_of_head? ?_)
    unfold Refusal.message
    exact any_head?_append (any_head?_append (any_head?_append (any_head?_append
      (by decide) _) _) key) _
  | blank label =>
    have last := congrArg (·.toList.getLast?) same
    have ends : " cannot be blank".toList.getLast? = some 'k' := by decide
    unfold Refusal.message at last
    simp only [String.toList_append, List.getLast?_append, ends, Option.some_or] at last
    exact absurd last (by decide)

/-- Whether an operation answers a question. -/
def Operation.answers : Operation → Bool
  | .answerTerms _ | .resolveRemoval _ => true
  | .toggle _ | .select _ _ | .editText _ _ | .beginSave => false

/-- Whether a setting takes the values that an operation gives. -/
def Operation.Fits (s : Setting) : Operation → Prop
  | .toggle _ => ∃ on, s.current = .flag on
  | .select _ _ => ∃ options clearable, s.kind = .enumerated options clearable
  | .editText _ _ => ∃ required, s.kind = .text required
  | .answerTerms _ | .beginSave | .resolveRemoval _ => True

namespace SettingGroup

/-- Why an operation on a group is refused. -/
inductive Refuses (g : SettingGroup) : Operation → Refusal → Prop
  | busy {op r} : ¬ op.answers → g.obstacle? = some r → Refuses g op r
  | noRemoval {confirmed} : g.phase ≠ .confirming →
      Refuses g (.resolveRemoval confirmed) .nothingAsked
  | noTerms {accepted} : (∀ key, g.phase ≠ .consenting key) →
      Refuses g (.answerTerms accepted) .nothingAsked
  | unknown {op key} : op.edits? = some key → g.setting? key = none →
      Refuses g op (.unknownSetting key)
  /-- The question was about a setting that does not exist. -/
  | forgotten {key} : g.phase = .consenting key → g.setting? key = none →
      Refuses g (.answerTerms false) (.unknownSetting key)
  | unfit {op key s} : op.edits? = some key → g.setting? key = some s → ¬ op.Fits s →
      Refuses g op (.wrongKind key)
  | notAnOption {key v s options clearable} : g.setting? key = some s →
      s.kind = .enumerated options clearable → ¬ options.any (·.value = v) →
      Refuses g (.select key (some v)) (.notAnOption key (some v))
  | notClearable {key s options} : g.setting? key = some s →
      s.kind = .enumerated options false → Refuses g (.select key none) (.notAnOption key none)
  | blank {key content s} : g.setting? key = some s → s.kind = .text true →
      Text.saysNothing content → Refuses g (.editText key content) (.blank s.label)

variable {g : SettingGroup} {r : Refusal}

theorem beginSave_ne_error (idle : g.phase = .idle) : g.beginSave.2 ≠ .error r := by
  obtain ⟨g', outcome, begun, -⟩ := beginSave_saved idle
  rw [begun]
  nofun

theorem afterEdit_ne_error (idle : g.phase = .idle) : g.afterEdit.2 ≠ .error r := by
  unfold afterEdit
  by_cases saves : g.profile.savesOnEdit
  · obtain ⟨g', outcome, begun, -⟩ := beginSave_saved idle
    simp [saves, begun, Except.map]
  · simp [saves]

theorem idle_of_obstacle? (free : g.obstacle? = none) : g.phase = .idle :=
  (obstacle?_eq_none_iff g).1 free

theorem toggle_refuses {key : String} (refused : (g.toggle key).2 = .error r) :
    g.Refuses (.toggle key) r := by
  unfold toggle at refused
  split at refused
  next obstacle =>
    cases refused
    exact .busy Bool.false_ne_true obstacle
  next free =>
  have idle := idle_of_obstacle? free
  split at refused
  next missing =>
    cases refused
    exact .unknown rfl missing
  next s found =>
  split at refused
  · exact absurd refused (afterEdit_ne_error idle)
  · split at refused
    · cases refused
    · dsimp only at refused
      split at refused
      · split at refused
        · exact absurd refused (afterEdit_ne_error idle)
        · cases refused
      · exact absurd refused (afterEdit_ne_error idle)
  next not_on not_off =>
    cases refused
    refine .unfit rfl found ?_
    rintro ⟨on, flag⟩
    cases on with
    | true => exact not_on flag
    | false => exact not_off flag

theorem select_refuses {key : String} {value : Option String}
    (refused : (g.select key value).2 = .error r) : g.Refuses (.select key value) r := by
  unfold select at refused
  split at refused
  next obstacle =>
    cases refused
    exact .busy Bool.false_ne_true obstacle
  next free =>
  have idle := idle_of_obstacle? free
  split at refused
  next missing =>
    cases refused
    exact .unknown rfl missing
  next s found =>
  split at refused
  next options clearable kind =>
    cases value with
    | some v =>
      by_cases member : options.any (·.value = v)
      · simp only [if_pos member] at refused
        exact absurd refused (afterEdit_ne_error idle)
      · simp only [if_neg member] at refused
        cases refused
        exact .notAnOption found kind member
    | none =>
      cases clearable with
      | true => exact absurd refused (afterEdit_ne_error idle)
      | false =>
        cases refused
        exact .notClearable found kind
  next not_enumerated =>
    cases refused
    refine .unfit rfl found ?_
    rintro ⟨options, clearable, kind⟩
    exact not_enumerated options clearable kind

theorem editText_refuses {key content : String} (refused : (g.editText key content).2 = .error r) :
    g.Refuses (.editText key content) r := by
  unfold editText at refused
  split at refused
  next obstacle =>
    cases refused
    exact .busy Bool.false_ne_true obstacle
  next free =>
  have idle := idle_of_obstacle? free
  split at refused
  next missing =>
    cases refused
    exact .unknown rfl missing
  next s found =>
  split at refused
  next required kind =>
    split at refused
    next blank =>
      cases refused
      rw [blank.1] at kind
      exact .blank found kind blank.2
    · exact absurd refused (afterEdit_ne_error idle)
  next not_text =>
    cases refused
    refine .unfit rfl found ?_
    rintro ⟨required, kind⟩
    exact not_text required kind

theorem answerTerms_refuses {accepted : Bool} (refused : (g.answerTerms accepted).2 = .error r) :
    g.Refuses (.answerTerms accepted) r := by
  unfold answerTerms at refused
  split at refused
  next key waits =>
    cases accepted with
    | true =>
      exact absurd refused (afterEdit_ne_error (g := { g with phase := .idle }) rfl)
    | false =>
      rw [if_neg Bool.false_ne_true] at refused
      split at refused
      next missing =>
        cases refused
        exact .forgotten waits missing
      · cases refused
  next unasked =>
    cases refused
    exact .noTerms unasked

theorem beginSave_refuses (refused : g.beginSave.2 = .error r) : g.Refuses .beginSave r := by
  cases obstacle : g.obstacle? with
  | none => exact absurd refused (beginSave_ne_error (idle_of_obstacle? obstacle))
  | some r' =>
    unfold beginSave at refused
    rw [obstacle] at refused
    cases refused
    exact .busy Bool.false_ne_true obstacle

theorem resolveRemoval_refuses {confirmed : Bool}
    (refused : (g.resolveRemoval confirmed).2 = .error r) :
    g.Refuses (.resolveRemoval confirmed) r := by
  unfold resolveRemoval at refused
  split at refused
  · split at refused <;> cases refused
  next unasked =>
    cases refused
    exact .noRemoval unasked

/-- A refused operation is refused for one of these reasons. -/
theorem refuses_of_error {op : Operation} (refused : (op.perform g).2 = .error r) :
    g.Refuses op r := by
  have of_asEdit {answer : Answer SaveOutcome} (h : (Operation.asEdit answer).2 = .error r) :
      answer.2 = .error r := by
    unfold Operation.asEdit at h
    cases result : answer.2 with
    | ok => simp [result, Except.map] at h
    | error => simpa [result, Except.map] using h
  cases op with
  | toggle key => exact toggle_refuses refused
  | select key value => exact select_refuses refused
  | editText key content => exact editText_refuses refused
  | answerTerms accepted => exact answerTerms_refuses refused
  | beginSave => exact beginSave_refuses (of_asEdit refused)
  | resolveRemoval confirmed => exact resolveRemoval_refuses (of_asEdit refused)

end SettingGroup

end SettingsConsole
