import Mathlib.Data.List.Nodup
import SettingsConsole.Proofs.Group.SaveCycle

/-!
# Terms are accepted first

A flag with terms gets into a request as switched on only after its terms were shown and accepted.
It may have been switched back and forth, taken back, saved and failed before; what counts is the
latest time it was switched on.  As long as it is on and not saved so, its terms are asked about
still (`Asked`) or were accepted since (`Agreed`), and a group that asks sends nothing.
-/

namespace SettingsConsole

namespace Setting

theorem find?_of_mem {settings : List Setting} (distinct : (settings.map key).Nodup) {s : Setting}
    (member : s ∈ settings) : find? settings s.key = some s := by
  cases found : find? settings s.key with
  | none => exact absurd (decide_eq_true rfl) (List.find?_eq_none.1 found s member)
  | some t =>
    have same : t.key = s.key := by simpa using List.find?_some found
    have listed : t ∈ settings := List.mem_of_find?_eq_some found
    rw [List.inj_on_of_nodup_map distinct listed member same]

end Setting

namespace SettingGroup

variable {p : Profile} {settings : List Setting} {log later : List Entry}
  {g g' g₁ : SettingGroup} {op : Operation} {result : Except Refusal EditOutcome}
  {key terms : String} {s s' : Setting} {e ask : Entry}

/-! ## Switching on -/

/-- The value of the setting with a key. -/
def valueOf? (g : SettingGroup) (key : String) : Option Setting.Value :=
  (g.setting? key).map Setting.current

/-- The group after the move. -/
def Entry.after (e : Entry) : SettingGroup := e.move.apply e.before

theorem Entry.after_mk (g : SettingGroup) (m : Move) : Entry.after ⟨g, m⟩ = m.apply g := rfl

/-- Whether the move is a toggle that switched the setting with the key on. -/
def Entry.switchesOn (key : String) (e : Entry) : Bool :=
  e.move = .operate (.toggle key) && e.before.valueOf? key = some (.flag false) &&
    e.after.valueOf? key = some (.flag true)

/-- The move switched the setting on and opened the question that shows its terms. -/
structure Entry.AsksTerms (key terms : String) (e : Entry) : Prop where
  switched : e.switchesOn key
  shown : ∃ question, e.outcome? = some (.prompt question) ∧ question.kind = .terms key ∧
    question.message = terms
  waits : e.after.phase = .consenting key

/-- The latest move that switched the setting on asked about its terms; `later` came after it. -/
structure LastAsked (key terms : String) (log later : List Entry) (ask : Entry) : Prop where
  split : ∃ earlier, log = later ++ ask :: earlier
  asks : ask.AsksTerms key terms
  latest : ∀ e ∈ later, ¬ e.switchesOn key

/-- The setting was last switched on with the question about its terms, and the group still is as
that left it. -/
def Asked (key terms : String) (log : List Entry) (g : SettingGroup) : Prop :=
  ∃ later ask, LastAsked key terms log later ask ∧ g = ask.after

/-- The setting was last switched on with the question about its terms, and the answer to it was
yes. -/
def Agreed (key terms : String) (log : List Entry) : Prop :=
  ∃ later ask, LastAsked key terms log later ask ∧
    ∃ answer ∈ later, answer.move = .operate (.answerTerms true) ∧ answer.before = ask.after

theorem LastAsked.cons (h : LastAsked key terms log later ask) (other : ¬ e.switchesOn key) :
    LastAsked key terms (e :: log) (e :: later) ask := by
  obtain ⟨earlier, split⟩ := h.split
  refine ⟨⟨earlier, by rw [split, List.cons_append]⟩, h.asks, ?_⟩
  exact List.forall_mem_cons.2 ⟨other, h.latest⟩

theorem Agreed.cons (h : Agreed key terms log) (other : ¬ e.switchesOn key) :
    Agreed key terms (e :: log) := by
  obtain ⟨later, ask, last, answer, member, accepts⟩ := h
  exact ⟨_, ask, last.cons other, answer, List.mem_cons_of_mem _ member, accepts⟩

theorem Asked.agreed (h : Asked key terms log g) (answered : e.move = .operate (.answerTerms true))
    (met : e.before = g) : Agreed key terms (e :: log) := by
  obtain ⟨later, ask, last, left⟩ := h
  have other : ¬ e.switchesOn key := by simp [Entry.switchesOn, answered]
  exact ⟨_, ask, last.cons other, e, List.mem_cons_self, answered, met.trans left⟩

theorem Asked.waits (h : Asked key terms log g) : g.phase = .consenting key := by
  obtain ⟨later, ask, last, rfl⟩ := h
  exact last.asks.waits

theorem not_switchesOn_of_found (before : e.before.setting? key = some s)
    (after : e.after.setting? key = some s) : ¬ e.switchesOn key := by
  intro switched
  simp only [Entry.switchesOn, valueOf?, before, after, Option.map_some, Bool.and_eq_true,
    decide_eq_true_eq, Option.some.injEq] at switched
  have off := switched.1.2
  rw [switched.2] at off
  cases off

/-! ## What an operation makes of a flag with terms -/

theorem Edited.setting?_of_on (h : Edited g op g₁) (found : g₁.setting? key = some s')
    (on : s'.direction? = some .on) (flag : s'.kind = .boolean) (asks : s'.terms = some terms) :
    g.setting? key = some s' := by
  obtain ⟨unsaved, lit⟩ := (Setting.direction?_eq_on_iff s').1 on
  cases h with
  | assigned _ _ present accepts =>
    rcases Setting.find?_assign_cases present found with ⟨-, rfl⟩ | kept
    · cases accepts with
      | off => cases lit
      | on _ _ known =>
        rcases known with silent | saved
        · cases silent.symm.trans asks
        · exact absurd saved unsaved
      | option kind => cases kind.symm.trans flag
      | cleared kind => cases kind.symm.trans flag
      | text kind => cases kind.symm.trans flag
    · exact kept
  | agreed => exact found
  | untouched => exact found

/-- A flag with terms that is on and not saved so was so before the operation, or has just been
switched on with the question about its terms. -/
theorem Performed.setting?_of_on (h : Performed g op g' result)
    (found : g'.setting? key = some s') (on : s'.direction? = some .on)
    (flag : s'.kind = .boolean) (asks : s'.terms = some terms) :
    g.setting? key = some s' ∨
      ∃ s, op = .toggle key ∧ g.setting? key = some s ∧ s.current = .flag false ∧
        s'.current = .flag true ∧ g'.phase = .consenting key ∧
        result = .ok (.prompt (g.termsPrompt s terms)) := by
  cases h with
  | refused => exact .inl found
  | forgotten => exact .inl found
  | redirected => exact .inl found
  | asked _ present off _ its =>
    rcases Setting.find?_assign_cases present found with ⟨rfl, rfl⟩ | kept
    · cases its.symm.trans asks
      exact .inr ⟨_, rfl, present, off, rfl, rfl, rfl⟩
    · exact .inl kept
  | edited edit => exact .inl (edit.setting?_of_on found on flag asks)
  | saved edit _ save =>
    unfold setting? at found
    rw [save.settings] at found
    exact .inl (edit.setting?_of_on found on flag asks)
  | declined _ present =>
    rcases Setting.find?_assign_cases present found with ⟨-, rfl⟩ | kept
    · cases ((Setting.direction?_eq_on_iff _).1 on).2
    · exact .inl kept
  | confirmed => exact .inl found
  | takenBack =>
    have restores (s : Setting) :
        (if s.key ∈ g.changes.turnedOff then s.restored else s).key = s.key := by
      split <;> rfl
    have mapped : (g.setting? key).map
        (fun s => if s.key ∈ g.changes.turnedOff then s.restored else s) = some s' := by
      rw [← found]
      unfold setting? SettingGroup.takenBack Setting.find?
      simp only [List.find?_map, Function.comp_def, restores]
    obtain ⟨s, present, taken⟩ := Option.map_eq_some_iff.1 mapped
    split at taken
    · -- What is back at its saved value is not switched on.
      subst taken
      obtain ⟨unsaved, lit⟩ := (Setting.direction?_eq_on_iff _).1 on
      exact absurd lit unsaved
    · rw [present, taken]
      exact .inl rfl

/-- While the terms of a flag are asked about, it stays on only if nothing happens or the terms are
accepted. -/
theorem Performed.of_waiting (h : Performed g op g' result) (waits : g.phase = .consenting key)
    (found : g'.setting? key = some s') (lit : s'.current.isEnabled) :
    g' = g ∨ op = .answerTerms true := by
  have agreed {g₁ : SettingGroup} (edit : Edited g op g₁) : op = .answerTerms true := by
    cases edit with
    | assigned idle => cases waits.symm.trans idle
    | agreed => rfl
    | untouched idle => cases waits.symm.trans idle
  cases h with
  | refused => exact .inl rfl
  | forgotten asked missing =>
    cases waits.symm.trans asked
    cases missing.symm.trans found
  | redirected => exact .inl rfl
  | asked idle => cases waits.symm.trans idle
  | edited edit => exact .inr (agreed edit)
  | saved edit => exact .inr (agreed edit)
  | declined asked present =>
    cases waits.symm.trans asked
    rw [← Option.some.inj ((Setting.find?_assign_self present _).symm.trans found)] at lit
    cases lit
  | confirmed asked => cases waits.symm.trans asked
  | takenBack asked => cases waits.symm.trans asked

/-! ## Along a history -/

theorem History.map_form_setting? (h : History p settings log g) (key : String) :
    (g.setting? key).map Setting.form = (Setting.find? settings key).map Setting.form := by
  unfold setting?
  rw [Setting.map_form_find?, Setting.map_form_find?, h.map_form]

theorem not_on_of_acknowledged
    (found : Setting.find? (settings.map Setting.acknowledged) key = some s) :
    s.direction? ≠ some .on := by
  rw [find?_acknowledged] at found
  obtain ⟨t, -, rfl⟩ := Option.map_eq_some_iff.1 found
  rw [(Setting.direction?_eq_none_iff _).2 t.isDirty_acknowledged]
  nofun

/-- While a flag with terms is on and not saved so, its terms are asked about or were accepted since
it was last switched on. -/
theorem History.asked_or_agreed (h : History p settings log g)
    (inTurn : ∀ e ∈ log, e.move.settles → e.before.isSaving) {given : Setting}
    (listed : Setting.find? settings key = some given) (flag : given.kind = .boolean)
    (asks : given.terms = some terms) {s : Setting} (found : g.setting? key = some s)
    (on : s.direction? = some .on) : Asked key terms log g ∨ Agreed key terms log := by
  induction h generalizing s with
  | created => exact absurd on (not_on_of_acknowledged found)
  | @moved log g m h ih =>
    have before {s : Setting} (found : g.setting? key = some s) (on : s.direction? = some .on) :=
      ih (fun e older => inTurn e (List.mem_cons_of_mem _ older)) found on
    cases m with
    | operate op =>
      have form : s.form = given.form := by
        have same := History.map_form_setting? (.moved (.operate op) h) key
        rw [found, listed] at same
        exact Option.some.inj same
      have flag : s.kind = .boolean := (congrArg Setting.Form.kind form).trans flag
      have asks : s.terms = some terms := (congrArg Setting.Form.terms form).trans asks
      have step := g.performed op
      rcases step.setting?_of_on found on flag asks with
        present | ⟨was, rfl, present, off, lit, waits, shown⟩
      · have other : ¬ Entry.switchesOn key ⟨g, .operate op⟩ :=
          not_switchesOn_of_found present found
        rcases before present on with asked | agreed
        · have lit := ((Setting.direction?_eq_on_iff s).1 on).2
          rcases step.of_waiting asked.waits found lit with same | rfl
          · obtain ⟨later, ask, last, left⟩ := asked
            exact .inl ⟨_, ask, last.cons other, same.trans left⟩
          · exact .inr (asked.agreed rfl rfl)
        · exact .inr (agreed.cons other)
      · refine .inl ⟨[], ⟨g, .operate (.toggle key)⟩, ⟨⟨log, rfl⟩, ?_, List.forall_mem_nil _⟩,
          (Entry.after_mk g _).symm⟩
        have off : g.valueOf? key = some (.flag false) := by simp [valueOf?, present, off]
        have lit : (Entry.after ⟨g, .operate (.toggle key)⟩).valueOf? key = some (.flag true) := by
          unfold valueOf?
          rw [← lit]
          exact congrArg (Option.map Setting.current) found
        refine ⟨by simp [Entry.switchesOn, off, lit], ?_, waits⟩
        refine ⟨g.termsPrompt was terms, congrArg Except.toOption shown, ?_, rfl⟩
        exact congrArg PromptKind.terms (key_of_setting? present)
    | succeed => exact absurd on (not_on_of_acknowledged found)
    | fail =>
      have found : g.setting? key = some s := found
      have other : ¬ Entry.switchesOn key ⟨g, .fail⟩ := not_switchesOn_of_found found found
      have out : g.phase = .saving := of_decide_eq_true (inTurn _ List.mem_cons_self rfl)
      rcases before found on with asked | agreed
      · cases asked.waits.symm.trans out
      · exact .inr (agreed.cons other)
    | capture => exact absurd on (not_on_of_acknowledged found)

/-- In every history in which outcomes come in only while a request is out, a request that switches
a flag with terms on is handed out only after the question that showed these terms, opened by the
latest move that switched the flag on, was answered with yes.  (The answer may be the very operation
that hands the request out.) -/
theorem terms_accepted_before_sent (distinct : (settings.map Setting.key).Nodup)
    (h : History p settings log g) (inTurn : ∀ e ∈ log, e.move.settles → e.before.isSaving)
    {label : String} {was : Bool}
    (given : { Setting.flag key label was with terms := some terms } ∈ settings)
    {request : Submission} (sent : (op.perform g).2 = .ok (.save (.submit request)))
    (switchedOn : key ∈ (op.perform g).1.changes.turnedOn) :
    request = (op.perform g).1.submission ∧ Agreed key terms (⟨g, .operate op⟩ :: log) := by
  have step := g.performed op
  rw [sent] at step
  obtain ⟨out, carried, -⟩ := step.of_submit
  have built : History p settings (⟨g, .operate op⟩ :: log) (op.perform g).1 :=
    .moved (.operate op) h
  have inTurn : ∀ e ∈ (⟨g, .operate op⟩ :: log : List Entry), e.move.settles → e.before.isSaving :=
    List.forall_mem_cons.2 ⟨fun settles => absurd settles Bool.false_ne_true, inTurn⟩
  have listed := Setting.find?_of_mem distinct given
  obtain ⟨s, member, on, rfl⟩ := Changes.mem_keysOf.1 switchedOn
  have found : (op.perform g).1.setting? s.key = some s :=
    Setting.find?_of_mem (built.map_key ▸ distinct) member
  rcases built.asked_or_agreed inTurn listed rfl rfl found on with asked | agreed
  · cases asked.waits.symm.trans out
  · exact ⟨carried, agreed⟩

/-- An add-on is switched on, off and on again, with its terms accepted each time, and another one
is tried while they are asked about. -/
theorem terms_accepted_before_sent_addons :
    let p := Profile.addons "https://osf.example/api/v1/project/abc12/" "support@osf.io"
    let settings := [Setting.flag "dropbox" "Dropbox" false,
      { Setting.flag "s3" "Amazon S3" false with terms := some "Data is stored abroad." }]
    let moves : List Move := [.fail, .operate .beginSave, .operate (.answerTerms true),
      .operate (.toggle "dropbox"), .operate (.toggle "s3"), .operate (.toggle "s3"),
      .operate (.answerTerms true), .operate (.toggle "s3")]
    let log := (played p settings moves).1
    let g := (played p settings moves).2
    (settings.map Setting.key).Nodup ∧ (∀ e ∈ log, e.move.settles → e.before.isSaving) ∧
      (Operation.perform .beginSave g).1.changes.turnedOn = ["s3"] ∧
      Agreed "s3" "Data is stored abroad." (⟨g, .operate .beginSave⟩ :: log) := by
  intro p settings moves log g
  have given : { Setting.flag "s3" "Amazon S3" false with
      terms := some "Data is stored abroad." } ∈ settings := .tail _ (.head _)
  have distinct : (settings.map Setting.key).Nodup := by decide
  have inTurn : ∀ e ∈ log, e.move.settles → e.before.isSaving := by decide
  have on : (Operation.perform .beginSave g).1.changes.turnedOn = ["s3"] := by decide
  have switchedOn : "s3" ∈ (Operation.perform .beginSave g).1.changes.turnedOn := by
    rw [on]
    exact List.mem_cons_self
  have sent : (Operation.perform .beginSave g).2 =
      .ok (.save (.submit (Operation.perform .beginSave g).1.submission)) := by decide
  have agreed := (terms_accepted_before_sent distinct (history_played p settings moves) inTurn
    given sent switchedOn).2
  exact ⟨distinct, inTurn, on, agreed⟩

end SettingGroup

end SettingsConsole
