import SettingsConsole.Proofs.Group.Baseline
import SettingsConsole.Proofs.Group.Removal
import SettingsConsole.Proofs.Group.SaveCycle

/-!
# A question that is declined

The answer no takes back what was asked about and nothing else
(`decline_undoes_what_was_asked`).  A removal is undone setting by setting, back to what is saved;
the settings are found again by their keys, so it matters that no two have the same.  A setting
whose terms are declined is switched off again, and the group is the one it was before.  While a
question is open nothing else can be done to the group, so what was tried meanwhile does not matter.

A question about a removal is about something unless the values were taken as saved by hand since it
was asked (`History.turnedOff_eq_nil_iff`); then a no has nothing to take back.
-/

namespace SettingsConsole

namespace Setting

/-- The setting, back at its saved value if it was switched off. -/
def switchedBack (s : Setting) : Setting := if s.direction? = some .off then s.restored else s

variable {s : Setting}

theorem key_switchedBack (s : Setting) : s.switchedBack.key = s.key := by
  unfold switchedBack
  split <;> rfl

theorem direction?_restored (s : Setting) : s.restored.direction? = none :=
  (direction?_eq_none_iff _).2 s.isDirty_restored

theorem direction?_switchedBack_ne_off (s : Setting) : s.switchedBack.direction? ≠ some .off := by
  unfold switchedBack
  split
  · rw [direction?_restored]
    nofun
  next other => exact other

/-- What was not switched off keeps its change. -/
theorem direction?_switchedBack_eq_iff {d : Direction} (other : d ≠ .off) :
    s.switchedBack.direction? = some d ↔ s.direction? = some d := by
  unfold switchedBack
  split
  next off =>
    rw [direction?_restored, off]
    exact ⟨nofun, fun same => absurd (Option.some.inj same).symm other⟩
  next => rfl

theorem assign_assign_of_find? {key : String} {settings : List Setting}
    (found : find? settings key = some s) (v : Value) :
    assign key s.current (assign key v settings) = settings := by
  induction settings with
  | nil => rfl
  | cons first rest ih =>
    unfold find? at found ih
    by_cases here : first.key = key
    · rw [List.find?_cons_of_pos (by simpa using here)] at found
      obtain rfl := Option.some.inj found
      have assigned : assign key v (first :: rest) = { first with current := v } :: rest :=
        if_pos here
      rw [assigned]
      exact if_pos here
    · rw [List.find?_cons_of_neg (by simpa using here)] at found
      simp [assign, here, ih found]

end Setting

namespace Changes

theorem keysOf_switchedBack_off (settings : List Setting) :
    keysOf (settings.map Setting.switchedBack) .off = [] := by
  rw [keysOf_eq_nil_iff]
  intro s member
  obtain ⟨t, -, rfl⟩ := List.mem_map.1 member
  exact t.direction?_switchedBack_ne_off

theorem keysOf_switchedBack_of_ne {d : Setting.Direction} (other : d ≠ .off)
    (settings : List Setting) :
    keysOf (settings.map Setting.switchedBack) d = keysOf settings d := by
  unfold keysOf
  rw [List.filter_map, List.map_map]
  have same : Setting.key ∘ Setting.switchedBack = Setting.key :=
    funext Setting.key_switchedBack
  rw [same]
  congr 1
  refine List.filter_congr fun s _ => ?_
  exact decide_eq_decide.2 (Setting.direction?_switchedBack_eq_iff other)

end Changes

namespace Operation

/-- Whether each of the operations is refused by the group that the ones before it leave. -/
def allRefused : List Operation → SettingGroup → Bool
  | [], _ => true
  | op :: rest, g => (op.perform g).2.toOption.isNone && allRefused rest (op.perform g).1

/-- Whether an operation answers the question about terms. -/
def answersTerms : Operation → Bool
  | .answerTerms _ => true
  | .toggle _ | .select _ _ | .editText _ _ | .beginSave | .resolveRemoval _ => false

end Operation

namespace SettingGroup

open Operation

variable {p : Profile} {settings : List Setting} {log : List Entry} {g g' g₁ : SettingGroup}
  {op : Operation} {result : Except Refusal EditOutcome} {key : String} {r : Refusal}

/-! ## While a question is open -/

/-- Whether the values were taken as saved by hand since the open question about a removal was
asked. -/
def capturedSinceAsked : List Entry → Bool
  | [] => false
  | e :: earlier =>
    e.before.phase = .confirming && (e.move = .capture || capturedSinceAsked earlier)

theorem Edited.ne_confirming (h : Edited g op g₁) : g.phase ≠ .confirming := by
  cases h with
  | assigned idle => simp [idle]
  | agreed waits => simp [waits]
  | untouched idle => simp [idle]

/-- An operation during which the question about a removal stays open did nothing. -/
theorem Performed.eq_of_confirming (h : Performed g op g' result) (before : g.phase = .confirming)
    (after : g'.phase = .confirming) : g' = g := by
  cases h with
  | refused => rfl
  | redirected => rfl
  | edited edit => exact absurd before edit.ne_confirming
  | saved edit => exact absurd before edit.ne_confirming
  | asked | forgotten | declined | confirmed | takenBack => cases after

/-- What is refused while the question about a removal is open changes nothing. -/
theorem performAll_of_confirming (waits : g.phase = .confirming) {ops : List Operation}
    (refused : allRefused ops g) : performAll ops g = g := by
  induction ops with
  | nil => rfl
  | cons op rest ih =>
    unfold allRefused at refused
    rw [Bool.and_eq_true] at refused
    have step := g.performed op
    have same : (op.perform g).1 = g := by
      cases answer : (op.perform g).2 with
      | ok => simp [answer, Except.toOption] at refused
      | error r =>
        rw [answer] at step
        generalize (op.perform g).1 = g' at step ⊢
        cases step with
        | refused => rfl
        | forgotten other => cases waits.symm.trans other
    show performAll rest (op.perform g).1 = g
    rw [same] at refused ⊢
    exact ih refused.2

/-- While the terms of a setting are asked about, only an answer to that question does anything. -/
theorem Performed.eq_of_consenting (h : Performed g op g' result)
    (waits : g.phase = .consenting key) (other : ¬ op.answersTerms) : g' = g := by
  have busy {phase : Phase} (same : g.phase = phase) (ne : phase ≠ .consenting key) : False :=
    ne (same.symm.trans waits)
  have unedited {g₁ : SettingGroup} (edit : Edited g op g₁) : False := by
    cases edit with
    | assigned idle => exact busy idle nofun
    | agreed => exact other rfl
    | untouched idle => exact busy idle nofun
  cases h with
  | refused => rfl
  | redirected => rfl
  | forgotten => exact absurd rfl other
  | declined => exact absurd rfl other
  | asked idle => exact (busy idle nofun).elim
  | edited edit => exact (unedited edit).elim
  | saved edit => exact (unedited edit).elim
  | confirmed asked => exact (busy asked nofun).elim
  | takenBack asked => exact (busy asked nofun).elim

theorem performAll_of_consenting (waits : g.phase = .consenting key) {ops : List Operation}
    (others : ∀ op ∈ ops, ¬ op.answersTerms) : performAll ops g = g := by
  induction ops with
  | nil => rfl
  | cons op rest ih =>
    obtain ⟨other, others⟩ := List.forall_mem_cons.1 others
    show performAll rest (op.perform g).1 = g
    rw [(g.performed op).eq_of_consenting waits other, ih others]

/-! ## Removals -/

/-- What a question about a removal is about is there, unless the values were taken as saved by hand
since it was asked. -/
theorem History.turnedOff_eq_nil_iff (h : History p settings log g)
    (waits : g.phase = .confirming) : g.changes.turnedOff = [] ↔ capturedSinceAsked log := by
  induction h with
  | created => cases waits
  | @moved log g m h ih =>
    unfold capturedSinceAsked
    cases m with
    | operate op =>
      by_cases before : g.phase = .confirming
      · have same : Move.apply g (.operate op) = g :=
          (g.performed op).eq_of_confirming before waits
        rw [same, ih before]
        simp [before]
      · obtain ⟨asks, -⟩ | ⟨same, -⟩ := (g.performed op).of_confirming waits
        · have removes : (Move.apply g (.operate op)).changes.turnedOff ≠ [] :=
            (asksRemoval_iff.1 asks).2
          simp [before, removes]
        · have same : Move.apply g (.operate op) = g := same
          exact absurd (same ▸ waits) before
    | succeed => cases waits
    | fail => cases waits
    | capture =>
      have before : g.phase = .confirming := waits
      have clean : g.captureBaseline.changes.turnedOff = [] := by
        have unchanged := g.isEmpty_changes_captureBaseline
        simp only [Changes.isEmpty, Bool.and_eq_true, List.isEmpty_iff] at unchanged
        exact unchanged.1.1
      have clean : (Move.apply g .capture).changes.turnedOff = [] := clean
      simp [before, clean]

/-- With distinct keys a declined removal restores the settings that were switched off. -/
theorem takenBack_eq (distinct : (g.settings.map Setting.key).Nodup) :
    g.takenBack = { g with settings := g.settings.map Setting.switchedBack, phase := .idle } := by
  have settings : (g.settings.map fun s => if s.key ∈ g.changes.turnedOff then s.restored else s) =
      g.settings.map Setting.switchedBack := by
    refine List.map_congr_left fun s member => ?_
    unfold Setting.switchedBack
    simp only [mem_turnedOff_iff distinct member]
  unfold SettingGroup.takenBack
  rw [settings]

theorem changes_switchedBack (g : SettingGroup) (phase : Phase) :
    changes { g with settings := g.settings.map Setting.switchedBack, phase } =
      { g.changes with turnedOff := [] } := by
  have on := Changes.keysOf_switchedBack_of_ne (d := .on) (by decide) g.settings
  have across := Changes.keysOf_switchedBack_of_ne (d := .across) (by decide) g.settings
  simp only [changes, Changes.ofSettings, Changes.keysOf_switchedBack_off, on, across]

/-! ## Terms -/

/-- A no to the terms of a setting leaves the group as it was before the setting was switched on. -/
theorem answerTerms_false_of_toggle {question : Prompt}
    (asked : g.toggle key = (g', .ok (.prompt question))) :
    g'.phase = .consenting key ∧ g'.answerTerms false = (g, .ok .updated) := by
  have step := g.toggle_performed key
  rw [asked] at step
  cases step with
  | @asked _ s _ idle found off =>
    refine ⟨rfl, ?_⟩
    have lit : Setting.find? (Setting.assign key (.flag true) g.settings) key =
        some { s with current := .flag true } := Setting.find?_assign_self found _
    have back : Setting.assign key (.flag false) (Setting.assign key (.flag true) g.settings) =
        g.settings := off ▸ Setting.assign_assign_of_find? found (.flag true)
    obtain ⟨profile, settings, phase⟩ := g
    obtain rfl : phase = .idle := idle
    simp only [answerTerms, assign, setting?, lit, back, Bool.false_eq_true, if_false]

/-- After any history, a no takes back exactly what was asked about, whatever was refused or tried
while the question was open.

A removal: the answer names the settings that were switched off, in their order, and these go back
to what is saved; no other setting, no saved value and no other change is touched, nothing is sent,
and the next save does not ask.  The list is empty only if the values were taken as saved by hand
since the question was asked.

Terms: the group is again the one that it was before the setting was switched on. -/
theorem decline_undoes_what_was_asked (distinct : (settings.map Setting.key).Nodup)
    (h : History p settings log g) :
    (g.phase = .confirming → ∀ ops, allRefused ops g →
      ∃ g', (performAll ops g).resolveRemoval false =
          (g', .ok (.rolledBack (g.switchedOff.map Setting.key))) ∧
        (g.switchedOff.map Setting.key = [] ↔ capturedSinceAsked log) ∧
        g' = { g with settings := g.settings.map Setting.switchedBack, phase := .idle } ∧
        g'.savedValues = g.savedValues ∧
        g'.changes = ⟨[], g.changes.turnedOn, g.changes.changed⟩ ∧
        ∃ outcome, g'.beginSave.2 = .ok outcome ∧ ∀ question, outcome ≠ .confirm question) ∧
    ∀ {key question asking}, g.toggle key = (asking, .ok (.prompt question)) →
      ∀ ops, (∀ op ∈ ops, ¬ op.answersTerms) →
        (performAll ops asking).answerTerms false = (g, .ok .updated) := by
  constructor
  · intro waits ops refused
    rw [performAll_of_confirming waits refused]
    have distinct : (g.settings.map Setting.key).Nodup := h.map_key ▸ distinct
    have answered : g.resolveRemoval false =
        (g.takenBack, .ok (.rolledBack (g.switchedOff.map Setting.key))) := if_pos waits
    have changes : g.takenBack.changes = ⟨[], g.changes.turnedOn, g.changes.changed⟩ := by
      rw [takenBack_eq distinct]
      exact g.changes_switchedBack .idle
    refine ⟨g.takenBack, answered, h.turnedOff_eq_nil_iff waits, takenBack_eq distinct, ?_,
      changes, ?_⟩
    · have kept := g.savedValues_perform (.resolveRemoval false)
      have same : ((Operation.resolveRemoval false).perform g).1 = g.takenBack :=
        congrArg Prod.fst answered
      rwa [same] at kept
    · obtain ⟨g'', outcome, begun, saved⟩ := beginSave_saved (g := g.takenBack) rfl
      refine ⟨outcome, by rw [begun], ?_⟩
      rintro question rfl
      cases saved with
      | asked _ asks => exact absurd (congrArg Changes.turnedOff changes) (asksRemoval_iff.1 asks).2
  · intro key question asking asked ops others
    obtain ⟨waits, undone⟩ := answerTerms_false_of_toggle asked
    rw [performAll_of_consenting waits others, undone]

/-- Two add-ons are switched off and one on, and the removal is declined; then the terms of a fourth
one are. -/
theorem decline_undoes_what_was_asked_addons :
    let p := Profile.addons "https://osf.example/api/v1/project/abc12/" "support@osf.io"
    let settings := [Setting.flag "dropbox" "Dropbox" true, .flag "github" "GitHub" false,
      .flag "figshare" "figshare" true,
      { Setting.flag "s3" "Amazon S3" false with terms := some "Data is stored abroad." }]
    let moves : List Move := [.operate .beginSave, .operate (.toggle "figshare"),
      .operate (.toggle "github"), .operate (.toggle "dropbox")]
    let g := (played p settings moves).2
    let tried : List Operation := [.toggle "s3", .answerTerms false, .beginSave]
    (settings.map Setting.key).Nodup ∧ g.phase = .confirming ∧ allRefused tried g ∧
      ∃ g', (performAll tried g).resolveRemoval false =
          (g', .ok (.rolledBack ["dropbox", "figshare"])) ∧
        g'.changes = ⟨[], ["github"], []⟩ ∧
        (∃ outcome, g'.beginSave.2 = .ok outcome ∧ ∀ question, outcome ≠ .confirm question) ∧
        (g'.toggle "s3").1.phase = .consenting "s3" ∧
        (performAll [.toggle "github", .resolveRemoval true] (g'.toggle "s3").1).answerTerms false =
          (g', .ok .updated) := by
  intro p settings moves g tried
  have distinct : (settings.map Setting.key).Nodup := by decide
  have history : History p settings (played p settings moves).1 g := history_played p settings moves
  have waits : g.phase = .confirming := by decide
  have refused : allRefused tried g := by decide
  have listed : g.switchedOff.map Setting.key = ["dropbox", "figshare"] := by decide
  have left : g.changes = ⟨["dropbox", "figshare"], ["github"], []⟩ := by decide
  obtain ⟨g', answered, -, back, -, changes, next⟩ :=
    (decline_undoes_what_was_asked distinct history).1 waits tried refused
  rw [listed] at answered
  rw [left] at changes
  have restored : g' = (g.resolveRemoval false).1 := by
    rw [← performAll_of_confirming waits refused, answered]
  have later : History p settings
      (⟨g, .operate (.resolveRemoval false)⟩ :: (played p settings moves).1) g' := by
    rw [restored]
    exact .moved (.operate (.resolveRemoval false)) history
  have shown : (g'.toggle "s3").2 = .ok (.prompt ⟨.addons, .terms "s3", "Enable Amazon S3?",
      "Data is stored abroad.", ["Amazon S3"], "Confirm"⟩) := by
    rw [restored]
    decide
  have asks : (g'.toggle "s3").1.phase = .consenting "s3" := by
    rw [restored]
    decide
  have undone := (decline_undoes_what_was_asked distinct later).2 (Prod.ext rfl shown)
    [.toggle "github", .resolveRemoval true] (by decide)
  exact ⟨distinct, waits, refused, g', answered, changes, next, asks, undone⟩

/-- The removal of an add-on is asked about and the values are taken as saved by hand; then a no
takes nothing back, and the add-on stays off. -/
theorem rolledBack_nothing_after_capture :
    let p := Profile.addons "https://osf.example/api/v1/project/abc12/" "support@osf.io"
    let settings := [Setting.flag "dropbox" "Dropbox" true]
    let moves : List Move := [.capture, .operate .beginSave, .operate (.toggle "dropbox")]
    let g := (played p settings moves).2
    (settings.map Setting.key).Nodup ∧ History p settings (played p settings moves).1 g ∧
      g.phase = .confirming ∧
      g.resolveRemoval false = ({ g with phase := .idle }, .ok (.rolledBack [])) := by
  intro p settings moves g
  exact ⟨by decide, history_played p settings moves, by decide, by decide⟩

end SettingGroup

end SettingsConsole
