import SettingsConsole.Group.Cycle

/-!
# Operations on a settings group

What a user can do to a group is one type, `Operation`, and `Operation.perform` carries it out.
`Performed` says once what an operation can lead to, guards included: it is refused, it points
elsewhere, it edits a value and perhaps saves, or it answers a question.  Every invariant of a group
is read off `performed`; no later proof unfolds the operations.
-/

namespace SettingsConsole

/-- What a user does to a group. -/
inductive Operation where
  | toggle (key : String)
  | select (key : String) (value : Option String)
  | editText (key content : String)
  | answerTerms (accepted : Bool)
  | beginSave
  | resolveRemoval (confirmed : Bool)
  deriving DecidableEq, Repr

namespace Operation

/-- What a save leads to, in the form of what an edit leads to. -/
def asEdit (answer : Answer SaveOutcome) : Answer EditOutcome := (answer.1, answer.2.map .save)

/-- Carries an operation out.  A request has the same form whether a save or an edit hands it
out. -/
def perform (op : Operation) (g : SettingGroup) : Answer EditOutcome :=
  match op with
  | .toggle key => g.toggle key
  | .select key value => g.select key value
  | .editText key content => g.editText key content
  | .answerTerms accepted => g.answerTerms accepted
  | .beginSave => asEdit g.beginSave
  | .resolveRemoval confirmed => asEdit (g.resolveRemoval confirmed)

/-- Carries operations out one after the other. -/
def performAll (ops : List Operation) (g : SettingGroup) : SettingGroup :=
  ops.foldl (fun g op => (op.perform g).1) g

/-- The key of the setting that an operation edits. -/
def edits? : Operation → Option String
  | .toggle key | .select key _ | .editText key _ => some key
  | .answerTerms _ | .beginSave | .resolveRemoval _ => none

/-- Whether an operation answers a question with no. -/
def declines : Operation → Bool
  | .answerTerms accepted => !accepted
  | .resolveRemoval confirmed => !confirmed
  | .toggle _ | .select _ _ | .editText _ _ | .beginSave => false

end Operation

namespace Setting

/-- What a setting is apart from its values. -/
structure Form where
  key : String
  label : String
  kind : Kind
  terms : Option String

/-- The setting apart from its values. -/
def form (s : Setting) : Form := ⟨s.key, s.label, s.kind, s.terms⟩

theorem map_key_eq (settings : List Setting) :
    settings.map key = (settings.map form).map Form.key := by
  rw [List.map_map]
  rfl

/-- A setting is found by its key, whatever its values. -/
theorem map_form_find? (settings : List Setting) (key : String) :
    (find? settings key).map form = (settings.map form).find? (·.key = key) := by
  rw [List.find?_map]
  rfl

end Setting

namespace SettingGroup

/-- The settings that were switched off. -/
def switchedOff (g : SettingGroup) : List Setting :=
  g.settings.filter fun s => s.direction? = some .off

/-- Whether a save asks before it sends anything. -/
def AsksRemoval (g : SettingGroup) : Prop :=
  g.profile.confirmsRemoval ∧ ¬ g.changes.turnedOff.isEmpty

/-- The group with a declined removal taken back. -/
def takenBack (g : SettingGroup) : SettingGroup :=
  { g with
    settings := g.settings.map fun s => if s.key ∈ g.changes.turnedOff then s.restored else s
    phase := .idle }

/-! ## What an operation leads to -/

/-- What a save of an idle group leads to. -/
inductive Saved (g : SettingGroup) : SettingGroup → SaveOutcome → Prop
  | unchanged : g.changes.isEmpty → Saved g g (.unchanged g.successNotice)
  | asked : ¬ g.changes.isEmpty → g.AsksRemoval →
      Saved g { g with phase := .confirming } (.confirm g.removalPrompt)
  | sent : ¬ g.changes.isEmpty → ¬ g.AsksRemoval → Saved g g.startSaving (.submit g.submission)

/-- The values that an edit may give a setting. -/
inductive Accepts (p : Profile) (s : Setting) : Operation → Setting.Value → Prop
  | off {key} : s.current = .flag true → Accepts p s (.toggle key) (.flag false)
  | on {key} : s.current = .flag false → p.enableUrl = none →
      (s.terms = none ∨ s.saved.isEnabled) → Accepts p s (.toggle key) (.flag true)
  | option {key v options clearable} : s.kind = .enumerated options clearable →
      options.any (·.value = v) → Accepts p s (.select key (some v)) (.choice (some v))
  | cleared {key options} : s.kind = .enumerated options true →
      Accepts p s (.select key none) (.choice none)
  | text {key content required} : s.kind = .text required →
      ¬ (required ∧ Text.saysNothing content) →
      Accepts p s (.editText key content) (.text content)

/-- The part of an operation before a save: an idle group with one value edited, without its
question about terms, or as it was. -/
inductive Edited (g : SettingGroup) : Operation → SettingGroup → Prop
  | assigned {op key s value} : g.phase = .idle → op.edits? = some key →
      g.setting? key = some s → Accepts g.profile s op value → Edited g op (g.assign key value)
  | agreed {key} : g.phase = .consenting key →
      Edited g (.answerTerms true) { g with phase := .idle }
  | untouched : g.phase = .idle → Edited g .beginSave g

/-- What an operation leads to. -/
inductive Performed (g : SettingGroup) :
    Operation → SettingGroup → Except Refusal EditOutcome → Prop
  | refused (op r) : Performed g op g (.error r)
  /-- The question was about a setting that does not exist. -/
  | forgotten {key} : g.phase = .consenting key → g.setting? key = none →
      Performed g (.answerTerms false) { g with phase := .idle } (.error (.unknownSetting key))
  | redirected {key s url} : g.phase = .idle → g.setting? key = some s →
      s.current = .flag false → g.profile.enableUrl = some url →
      Performed g (.toggle key) g (.ok (.redirect url))
  | asked {key s terms} : g.phase = .idle → g.setting? key = some s →
      s.current = .flag false → g.profile.enableUrl = none → s.terms = some terms →
      ¬ s.saved.isEnabled →
      Performed g (.toggle key) { g.assign key (.flag true) with phase := .consenting key }
        (.ok (.prompt (g.termsPrompt s terms)))
  | edited {op g₁} : Edited g op g₁ → op ≠ .beginSave → ¬ g.profile.savesOnEdit →
      Performed g op g₁ (.ok .updated)
  | saved {op g₁ g' outcome} : Edited g op g₁ → op = .beginSave ∨ g.profile.savesOnEdit →
      Saved g₁ g' outcome → Performed g op g' (.ok (.save outcome))
  | declined {key s} : g.phase = .consenting key → g.setting? key = some s →
      Performed g (.answerTerms false) ({ g with phase := .idle }.assign key (.flag false))
        (.ok .updated)
  | confirmed : g.phase = .confirming →
      Performed g (.resolveRemoval true) g.startSaving (.ok (.save (.submit g.submission)))
  | takenBack : g.phase = .confirming →
      Performed g (.resolveRemoval false) g.takenBack
        (.ok (.save (.rolledBack g.changes.turnedOff)))

/-! ## Every operation leads to one of these -/

theorem obstacle?_of_idle {g : SettingGroup} (idle : g.phase = .idle) : g.obstacle? = none :=
  (obstacle?_eq_none_iff g).2 idle

theorem key_of_setting? {g : SettingGroup} {key : String} {s : Setting}
    (h : g.setting? key = some s) : s.key = key := by
  simpa using List.find?_some h

theorem beginSave_saved {g : SettingGroup} (idle : g.phase = .idle) :
    ∃ g' outcome, g.beginSave = (g', .ok outcome) ∧ Saved g g' outcome := by
  unfold beginSave
  rw [obstacle?_of_idle idle]
  by_cases clean : g.changes.isEmpty
  · exact ⟨_, _, if_pos clean, .unchanged clean⟩
  · by_cases asks : g.AsksRemoval
    · exact ⟨_, _, by rw [if_neg clean]; exact if_pos asks, .asked clean asks⟩
    · exact ⟨_, _, by rw [if_neg clean]; exact if_neg asks, .sent clean asks⟩

theorem Edited.profile {g g₁ : SettingGroup} {op : Operation} (h : Edited g op g₁) :
    g₁.profile = g.profile := by
  cases h <;> rfl

theorem Edited.idle {g g₁ : SettingGroup} {op : Operation} (h : Edited g op g₁) :
    g₁.phase = .idle := by
  cases h with
  | assigned idle => exact idle
  | agreed => rfl
  | untouched idle => exact idle

theorem Edited.performed {g g₁ : SettingGroup} {op : Operation} (h : Edited g op g₁)
    (edit : op ≠ .beginSave) : Performed g op g₁.afterEdit.1 g₁.afterEdit.2 := by
  unfold afterEdit
  by_cases saves : g₁.profile.savesOnEdit
  · obtain ⟨g', outcome, begun, saved⟩ := beginSave_saved h.idle
    simp only [if_pos saves, begun]
    exact .saved h (.inr (h.profile ▸ saves)) saved
  · rw [if_neg saves]
    exact .edited h edit (h.profile ▸ saves)

theorem toggle_performed (g : SettingGroup) (key : String) :
    Performed g (.toggle key) (g.toggle key).1 (g.toggle key).2 := by
  unfold toggle
  split
  · exact .refused _ _
  next free =>
  have idle := (obstacle?_eq_none_iff g).1 free
  split
  · exact .refused _ _
  next s found =>
  split
  next on => exact (Edited.assigned idle rfl found (.off on)).performed nofun
  next off =>
    split
    next url elsewhere => exact .redirected idle found off elsewhere
    next here =>
    dsimp only
    split
    next terms asks =>
      split
      next known =>
        exact (Edited.assigned idle rfl found (.on off here (.inr known))).performed nofun
      next unknown =>
        rw [key_of_setting? found]
        exact .asked idle found off here asks unknown
    next silent =>
      exact (Edited.assigned idle rfl found (.on off here (.inl silent))).performed nofun
  · exact .refused _ _

theorem select_performed (g : SettingGroup) (key : String) (value : Option String) :
    Performed g (.select key value) (g.select key value).1 (g.select key value).2 := by
  unfold select
  split
  · exact .refused _ _
  next free =>
  have idle := (obstacle?_eq_none_iff g).1 free
  split
  · exact .refused _ _
  next s found =>
  split
  next options clearable kind =>
    cases value with
    | some v =>
      by_cases member : options.any (·.value = v)
      · simp only [if_pos member]
        exact (Edited.assigned idle rfl found (.option kind member)).performed nofun
      · simp only [if_neg member]
        exact .refused _ _
    | none =>
      cases clearable with
      | true => exact (Edited.assigned idle rfl found (.cleared kind)).performed nofun
      | false => exact .refused _ _
  · exact .refused _ _

theorem editText_performed (g : SettingGroup) (key content : String) :
    Performed g (.editText key content) (g.editText key content).1
      (g.editText key content).2 := by
  unfold editText
  split
  · exact .refused _ _
  next free =>
  have idle := (obstacle?_eq_none_iff g).1 free
  split
  · exact .refused _ _
  next s found =>
  split
  next required kind =>
    split
    · exact .refused _ _
    next filled => exact (Edited.assigned idle rfl found (.text kind filled)).performed nofun
  · exact .refused _ _

theorem answerTerms_performed (g : SettingGroup) (accepted : Bool) :
    Performed g (.answerTerms accepted) (g.answerTerms accepted).1 (g.answerTerms accepted).2 := by
  unfold answerTerms
  split
  next key asked =>
    cases accepted with
    | true => exact (Edited.agreed asked).performed nofun
    | false =>
      rw [if_neg nofun]
      split
      next missing => exact .forgotten asked missing
      next s found => exact .declined asked found
  · exact .refused _ _

theorem beginSave_performed (g : SettingGroup) :
    Performed g .beginSave g.beginSave.1 (g.beginSave.2.map .save) := by
  cases free : g.obstacle? with
  | some r =>
    simp only [beginSave, free]
    exact .refused _ _
  | none =>
    have idle := (obstacle?_eq_none_iff g).1 free
    obtain ⟨g', outcome, begun, saved⟩ := beginSave_saved idle
    rw [begun]
    exact .saved (.untouched idle) (.inl rfl) saved

theorem resolveRemoval_performed (g : SettingGroup) (confirmed : Bool) :
    Performed g (.resolveRemoval confirmed) (g.resolveRemoval confirmed).1
      ((g.resolveRemoval confirmed).2.map .save) := by
  unfold resolveRemoval
  split
  next asked =>
    cases confirmed with
    | true => exact .confirmed asked
    | false => exact .takenBack asked
  · exact .refused _ _

/-- Every operation leads to what `Performed` says. -/
theorem performed (op : Operation) (g : SettingGroup) :
    Performed g op (op.perform g).1 (op.perform g).2 := by
  cases op with
  | toggle key => exact g.toggle_performed key
  | select key value => exact g.select_performed key value
  | editText key content => exact g.editText_performed key content
  | answerTerms accepted => exact g.answerTerms_performed accepted
  | beginSave => exact g.beginSave_performed
  | resolveRemoval confirmed => exact g.resolveRemoval_performed confirmed

/-! ## What every operation keeps -/

theorem Saved.profile {g g' : SettingGroup} {outcome : SaveOutcome} (h : Saved g g' outcome) :
    g'.profile = g.profile := by
  cases h <;> rfl

theorem Saved.settings {g g' : SettingGroup} {outcome : SaveOutcome} (h : Saved g g' outcome) :
    g'.settings = g.settings := by
  cases h <;> rfl

variable {g g' : SettingGroup} {op : Operation} {result : Except Refusal EditOutcome}

theorem Performed.profile (h : Performed g op g' result) : g'.profile = g.profile := by
  cases h with
  | edited edit => exact edit.profile
  | saved edit _ save => exact save.profile.trans edit.profile
  | _ => rfl

theorem Performed.id (h : Performed g op g' result) : g'.id = g.id :=
  congrArg Profile.id h.profile

theorem id_perform (g : SettingGroup) (op : Operation) : (op.perform g).1.id = g.id :=
  (g.performed op).id

/-- An operation changes nothing of a setting but the value shown. -/
theorem Performed.map_eq {α : Type} {f : Setting → α}
    (unseen : ∀ s v, f { s with current := v } = f s) (h : Performed g op g' result) :
    g'.settings.map f = g.settings.map f := by
  have edited {g₁ : SettingGroup} (edit : Edited g op g₁) :
      g₁.settings.map f = g.settings.map f := by
    cases edit with
    | assigned => exact Setting.map_assign unseen ..
    | agreed => rfl
    | untouched => rfl
  cases h with
  | asked => exact Setting.map_assign unseen ..
  | edited edit => exact edited edit
  | saved edit _ save => rw [save.settings, edited edit]
  | declined => exact Setting.map_assign unseen ..
  | takenBack =>
    simp only [SettingGroup.takenBack, List.map_map]
    refine List.map_congr_left fun s _ => ?_
    dsimp only [Function.comp]
    split
    · exact unseen s s.saved
    · rfl
  | _ => rfl

theorem Performed.map_form (h : Performed g op g' result) :
    g'.settings.map Setting.form = g.settings.map Setting.form :=
  h.map_eq fun _ _ => rfl

theorem Performed.map_key (h : Performed g op g' result) :
    g'.settings.map Setting.key = g.settings.map Setting.key := by
  rw [Setting.map_key_eq, Setting.map_key_eq, h.map_form]

theorem Edited.getElem?_settings {g₁ : SettingGroup} (h : Edited g op g₁) {i : Nat}
    {s : Setting} (at_i : g.settings[i]? = some s) (other : op.edits? ≠ some s.key) :
    g₁.settings[i]? = some s := by
  cases h with
  | assigned _ key => exact Setting.getElem?_assign_of_ne at_i (fun e => other (e ▸ key)) _
  | agreed => exact at_i
  | untouched => exact at_i

/-- An operation changes the setting it edits and those it gives up, and no other. -/
theorem Performed.getElem?_settings (h : Performed g op g' result) {i : Nat} {s : Setting}
    (at_i : g.settings[i]? = some s) (other : op.edits? ≠ some s.key) (keeps : ¬ op.declines) :
    g'.settings[i]? = some s := by
  cases h with
  | asked => exact Setting.getElem?_assign_of_ne at_i (fun e => other (e ▸ rfl)) _
  | edited edit => exact edit.getElem?_settings at_i other
  | saved edit _ save => rw [save.settings, edit.getElem?_settings at_i other]
  | forgotten => exact at_i
  | declined => exact absurd rfl keeps
  | takenBack => exact absurd rfl keeps
  | _ => exact at_i

/-! ## Requests -/

/-- While a request is out, an operation is refused and changes nothing. -/
theorem Performed.of_saving (h : Performed g op g' result) (out : g.phase = .saving) :
    g' = g ∧ ∃ r, result = .error r := by
  have busy {p : Phase} (other : g.phase = p) (ne : p ≠ .saving) : False :=
    ne (other.symm.trans out)
  have unedited {g₁ : SettingGroup} (edit : Edited g op g₁) : False := by
    cases edit with
    | assigned idle => exact busy idle nofun
    | agreed asked => exact busy asked nofun
    | untouched idle => exact busy idle nofun
  cases h with
  | refused op r => exact ⟨rfl, r, rfl⟩
  | forgotten asked => exact (busy asked nofun).elim
  | redirected idle => exact (busy idle nofun).elim
  | asked idle => exact (busy idle nofun).elim
  | edited edit => exact (unedited edit).elim
  | saved edit => exact (unedited edit).elim
  | declined asked => exact (busy asked nofun).elim
  | confirmed asked => exact (busy asked nofun).elim
  | takenBack asked => exact (busy asked nofun).elim

/-- A request carries the state of the group that is left with it, and what was switched off is in
it only after the question about it. -/
theorem Performed.of_submit {request : Submission}
    (h : Performed g op g' (.ok (.save (.submit request)))) :
    g'.phase = .saving ∧ request = g'.submission ∧
      (¬ g'.AsksRemoval ∨
        op = .resolveRemoval true ∧ g.phase = .confirming ∧ g' = g.startSaving) := by
  cases h with
  | saved _ _ save =>
    cases save with
    | sent _ unasked => exact ⟨rfl, rfl, .inl unasked⟩
  | confirmed asked => exact ⟨rfl, rfl, .inr ⟨rfl, asked, rfl⟩⟩

end SettingGroup

end SettingsConsole
