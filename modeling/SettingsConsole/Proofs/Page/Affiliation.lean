import SettingsConsole.Proofs.Group.Independence
import SettingsConsole.Proofs.Group.Payload
import SettingsConsole.Proofs.Page.AddonsAndWiki

/-!
# The choice of an institution

The institution that a node belongs to need not be one of those that its user belongs to; it is
offered all the same (`options_eq`).  In every history the group keeps its one setting, which offers
what it was built with and selects one institution or none (`exists_setting`).  So a choice
is accepted exactly if it is offered, the first one can always be made again, and a save sends what
is selected unless it is what is saved (`institution_choices_closed`).
-/

namespace SettingsConsole

theorem Setting.Kind.exists_choice_of_suits {options : List Setting.Choice} {clearable : Bool}
    {v : Setting.Value} (suits : (Setting.Kind.enumerated options clearable).suits v) :
    ∃ selected, v = .choice selected := by
  cases v with
  | choice selected => exact ⟨selected, rfl⟩
  | flag | text => cases suits

theorem SettingGroup.status_create (p : Profile) (settings : List Setting) :
    (SettingGroup.create p settings).status = .clean :=
  if_neg (SettingGroup.not_isDirty_create p settings)

namespace InstitutionChoices

open SettingGroup Profile

variable {choices : InstitutionChoices} {service : Service} {scope : Scope} {g : SettingGroup}
  {id : String} {value selected was : Option String}

/-! ## What is offered -/

/-- The present institution, if it is none of the available ones. -/
def foreign? (choices : InstitutionChoices) : Option Institution :=
  choices.primary.filter fun i => ∀ j ∈ choices.available, j.id ≠ i.id

/-- Whether a selection is offered: an available institution, the present one, or none. -/
def Offers (choices : InstitutionChoices) : Option String → Prop
  | some id => (∃ i ∈ choices.available, i.id = id) ∨ ∃ i, choices.primary = some i ∧ i.id = id
  | none => True

theorem any_option_iff {institutions : List Institution} :
    (institutions.map option).any (·.value = id) ↔ ∃ i ∈ institutions, i.id = id := by
  simp only [List.any_map, List.any_eq_true, Function.comp_apply, decide_eq_true_eq]
  rfl

theorem foreign?_of_listed {i : Institution} (present : choices.primary = some i)
    (listed : ∃ j ∈ choices.available, j.id = i.id) : choices.foreign? = none := by
  unfold foreign?
  rw [present]
  exact Option.filter_some_neg (by simpa using listed)

theorem foreign?_of_unlisted {i : Institution} (present : choices.primary = some i)
    (unlisted : ¬ ∃ j ∈ choices.available, j.id = i.id) : choices.foreign? = some i := by
  unfold foreign?
  rw [present]
  exact Option.filter_some_pos (by simpa using unlisted)

/-- The options are the available institutions and then the present one, if it is none of them. -/
theorem options_eq (choices : InstitutionChoices) :
    choices.options = (choices.available ++ choices.foreign?.toList).map option := by
  unfold options
  cases present : choices.primary with
  | none => simp [foreign?, present]
  | some i =>
    by_cases listed : ∃ j ∈ choices.available, j.id = i.id
    · rw [foreign?_of_listed present listed, Option.toList_none, List.append_nil]
      exact if_pos (any_option_iff.2 listed)
    · rw [foreign?_of_unlisted present listed, Option.toList_some, List.map_append]
      exact if_neg (any_option_iff.not.2 listed)

theorem any_options_iff : choices.options.any (·.value = id) ↔ choices.Offers (some id) := by
  rw [options_eq, any_option_iff]
  constructor
  · rintro ⟨i, member, rfl⟩
    rcases List.mem_append.1 member with available | foreign
    · exact .inl ⟨i, available, rfl⟩
    · exact .inr ⟨i, Option.eq_some_of_filter_eq_some (Option.mem_toList.1 foreign), rfl⟩
  · rintro (⟨i, available, rfl⟩ | ⟨i, present, rfl⟩)
    · exact ⟨i, List.mem_append_left _ available, rfl⟩
    · by_cases listed : ∃ j ∈ choices.available, j.id = i.id
      · obtain ⟨j, available, same⟩ := listed
        exact ⟨j, List.mem_append_left _ available, same⟩
      · have foreign := foreign?_of_unlisted present listed
        exact ⟨i, List.mem_append_right _ (Option.mem_toList.2 foreign), rfl⟩

/-- What the node belongs to is offered. -/
theorem offers_primary (choices : InstitutionChoices) :
    choices.Offers (choices.primary.map (·.id)) := by
  cases present : choices.primary with
  | none => trivial
  | some i => exact .inr ⟨i, present, rfl⟩

/-! ## What the group holds -/

/-- The setting of the group with a selection that is shown and one that is saved. -/
def setting (choices : InstitutionChoices) (selected was : Option String) : Setting :=
  { Setting.choice institutionKey "Primary institution" choices.options was true with
    current := .choice selected }

theorem settings_group (choices : InstitutionChoices) (service : Service) (scope : Scope) :
    (choices.group service scope).settings =
      [choices.setting (choices.primary.map (·.id)) (choices.primary.map (·.id))] :=
  rfl

theorem suits_of_acknowledged {first : Setting}
    (given : first.acknowledged = choices.setting selected was) :
    first.kind.suits first.current := by
  have kind : first.kind = .enumerated choices.options true := congrArg Setting.kind given
  have current : first.current = .choice selected := congrArg Setting.current given
  rw [kind, current]
  rfl

/-- What may come of the first setting selects an institution or none, and so does what is saved of
it. -/
theorem exists_setting_of_sound {first now : Setting} (sound : Setting.Sound first now)
    (given : first.acknowledged = choices.setting selected was) :
    ∃ selected' was', now = choices.setting selected' was' := by
  have kind : first.kind = .enumerated choices.options true := congrArg Setting.kind given
  have form : now.form = (choices.setting selected was).form := sound.form.trans (given ▸ rfl)
  have shown := sound.current.suits (suits_of_acknowledged given)
  have saved := sound.saved.suits (suits_of_acknowledged given)
  rw [kind] at shown saved
  -- The form is kept, so the two settings differ in their values only, and these are selections.
  obtain ⟨selected', shown⟩ := Setting.Kind.exists_choice_of_suits shown
  obtain ⟨was', saved⟩ := Setting.Kind.exists_choice_of_suits saved
  refine ⟨selected', was', ?_⟩
  cases now
  cases form
  cases shown
  cases saved
  rfl

/-- Whatever happened to the group, it holds its one setting, which selects an institution or
none. -/
theorem exists_setting (h : g.CameOf (choices.group service scope)) :
    ∃ selected was, g.settings = [choices.setting selected was] := by
  obtain ⟨p, settings, log, made, history⟩ := h
  have made : settings.map Setting.acknowledged = [choices.setting _ _] :=
    congrArg SettingGroup.settings made
  obtain ⟨first, rfl, given⟩ := List.map_eq_singleton_iff.1 made
  have sound := history.sound (List.forall_mem_singleton.2 (suits_of_acknowledged given))
  generalize g.settings = held at sound ⊢
  cases sound with
  | cons it none =>
    cases none
    obtain ⟨selected, was, rfl⟩ := exists_setting_of_sound it given
    exact ⟨selected, was, rfl⟩

/-! ## Choosing and saving -/

theorem setting?_eq (held : g.settings = [choices.setting selected was]) :
    g.setting? institutionKey = some (choices.setting selected was) := by
  unfold setting?
  rw [held]
  exact List.find?_cons_of_pos (decide_eq_true rfl)

/-- What is offered is accepted and selected. -/
theorem select_of_offers (held : g.settings = [choices.setting selected was])
    (idle : g.phase = .idle) (gathers : ¬ g.profile.savesOnEdit) (offered : choices.Offers value) :
    g.select institutionKey value =
      ({ g with settings := [choices.setting value was] }, .ok .updated) := by
  have accepts : Accepts g.profile (choices.setting selected was) (.select institutionKey value)
      (.choice value) := by
    cases value with
    | none => exact .cleared rfl
    | some id => exact .option rfl (any_options_iff.2 offered)
  have sets : g.Sets (.select institutionKey value) institutionKey (.choice value) :=
    ⟨idle, gathers, rfl, _, setting?_eq held, accepts⟩
  have left : g.assign institutionKey (.choice value) =
      { g with settings := [choices.setting value was] } := by
    unfold SettingGroup.assign
    rw [held]
    rfl
  exact sets.perform.trans (by rw [left])

/-- What is not offered is refused and changes nothing. -/
theorem select_of_not_offers (held : g.settings = [choices.setting selected was])
    (idle : g.phase = .idle) (unoffered : ¬ choices.Offers value) :
    g.select institutionKey value = (g, .error (.notAnOption institutionKey value)) := by
  cases value with
  | none => exact absurd trivial unoffered
  | some id =>
    unfold select
    rw [obstacle?_of_idle idle, setting?_eq held]
    exact if_neg (any_options_iff.not.2 unoffered)

theorem isEmpty_changes_iff (held : g.settings = [choices.setting selected was]) :
    g.changes.isEmpty ↔ selected = was := by
  unfold changes
  rw [Changes.isEmpty_ofSettings_iff, held]
  simp [Setting.isDirty, setting, Setting.choice, Setting.ofValue]

/-- A save sends what is selected, unless it is what is saved; it never asks first. -/
theorem beginSave_eq (held : g.settings = [choices.setting selected was])
    (idle : g.phase = .idle) (own : g.profile = .institution service.v2 scope.node scope.support) :
    (selected = was → g.beginSave.2 = .ok (.unchanged none)) ∧
      (selected ≠ was → g.beginSave.2 =
        .ok (.submit ⟨.institution, .put, g.profile.endpoint,
          some (affiliationBody selected)⟩)) := by
  have shape : g.profile.payload = .affiliation := by rw [own]; rfl
  have silent : g.successNotice = none := by
    unfold successNotice
    rw [own]
    rfl
  have carried : g.submission =
      ⟨.institution, .put, g.profile.endpoint, some (affiliationBody selected)⟩ := by
    have found : Setting.find? g.settings institutionKey = _ := setting?_eq held
    unfold submission SettingGroup.id
    rw [buildPayload_affiliation shape, found, own]
    rfl
  have unasked : ¬ g.AsksRemoval := fun asks => by
    have confirms := asks.1
    rw [own] at confirms
    cases confirms
  have clean_iff := isEmpty_changes_iff held
  obtain ⟨g', outcome, begun, saved⟩ := beginSave_saved idle
  rw [begun]
  cases saved with
  | unchanged clean => exact ⟨fun _ => by rw [silent], fun ne => absurd (clean_iff.1 clean) ne⟩
  | asked _ asks => exact absurd asks unasked
  | sent dirty => exact ⟨fun same => absurd (clean_iff.2 same) dirty, fun _ => by rw [carried]⟩

/-- The institutions that are offered are the available ones in their order and then the present one
of the node, if it is none of them; the group starts clean with that one selected.  Whatever
happened since, where the group may be edited a selection goes through exactly if it is offered,
none may always be selected and so may what the node belonged to at first; and a save after it sends
nothing exactly if the selection is what is saved, and else the relationship to what is selected,
without a question. -/
theorem institution_choices_closed (choices : InstitutionChoices) (service : Service)
    (scope : Scope) :
    (∃ s, (choices.group service scope).settings = [s] ∧ s.key = institutionKey ∧
      s.kind = .enumerated ((choices.available ++ choices.foreign?.toList).map option) true ∧
      s.current = .choice (choices.primary.map (·.id)) ∧
      (choices.group service scope).status = .clean) ∧
    ∀ {g : SettingGroup}, g.CameOf (choices.group service scope) → g.phase = .idle →
      (∀ id, (g.select institutionKey (some id)).2 = .ok .updated ↔
        (∃ i ∈ choices.available, i.id = id) ∨ ∃ i, choices.primary = some i ∧ i.id = id) ∧
      (∀ value, (g.select institutionKey value).2 ≠ .ok .updated →
        ∃ r, g.select institutionKey value = (g, .error r)) ∧
      (g.select institutionKey none).2 = .ok .updated ∧
      (g.select institutionKey (choices.primary.map (·.id))).2 = .ok .updated ∧
      ∃ was, (g.setting? institutionKey).map Setting.saved = some (.choice was) ∧
        ∀ value, (g.select institutionKey value).2 = .ok .updated →
          ((∃ notice, (g.select institutionKey value).1.beginSave.2 = .ok (.unchanged notice)) ↔
            value = was) ∧
          (value ≠ was → ∃ request,
            (g.select institutionKey value).1.beginSave.2 = .ok (.submit request) ∧
            request.payload = some (affiliationBody value)) := by
  refine ⟨⟨_, settings_group choices service scope, rfl, ?_, rfl, status_create _ _⟩,
    fun {g} cameOf idle => ?_⟩
  · rw [← options_eq]
    rfl
  have own : g.profile = .institution service.v2 scope.node scope.support := cameOf.profile
  have gathers : ¬ g.profile.savesOnEdit := by
    rw [own]
    exact Bool.false_ne_true
  obtain ⟨selected, was, held⟩ := exists_setting cameOf
  have updated_iff (value : Option String) :
      (g.select institutionKey value).2 = .ok .updated ↔ choices.Offers value := by
    refine ⟨fun updated => ?_, fun offered => by rw [select_of_offers held idle gathers offered]⟩
    by_contra unoffered
    rw [select_of_not_offers held idle unoffered] at updated
    cases updated
  refine ⟨fun id => updated_iff (some id), fun value refused => ?_, (updated_iff none).2 trivial,
    (updated_iff _).2 choices.offers_primary, was, ?_, fun value updated => ?_⟩
  · exact ⟨_, select_of_not_offers held idle ((updated_iff value).not.1 refused)⟩
  · rw [setting?_eq held]
    rfl
  · rw [select_of_offers held idle gathers ((updated_iff value).1 updated)]
    obtain ⟨unchanged, sent⟩ :=
      beginSave_eq (g := { g with settings := [choices.setting value was] }) rfl idle own
    refine ⟨⟨fun ⟨notice, nothing⟩ => ?_, fun same => ⟨none, unchanged same⟩⟩,
      fun ne => ⟨_, sent ne, rfl⟩⟩
    by_contra ne
    cases nothing.symm.trans (sent ne)

/-- A node leaves an institution that is none of its user's; the request succeeds, and the
institution can be chosen again and no unknown one. -/
theorem institution_choices_closed_foreign :
    let service := Session.smallService
    let scope := Session.smallScope
    let choices : InstitutionChoices :=
      ⟨[⟨"inst1", "Synth", none⟩, ⟨"inst1", "Synth again", none⟩], some ⟨"cos", "Center", none⟩⟩
    let g := (played (.institution service.v2 "abc12" "support@osf.io")
      [.choice "primaryInst" "Primary institution" choices.options (some "cos") true]
      [.succeed, .operate .beginSave, .operate (.select "primaryInst" none)]).2
    g.CameOf (choices.group service scope) ∧ g.phase = .idle ∧
      choices.options = [⟨"inst1", "Synth"⟩, ⟨"inst1", "Synth again"⟩, ⟨"cos", "Center"⟩] ∧
      (g.select institutionKey (some "cos")).2 = .ok .updated ∧
      (∃ r, g.select institutionKey (some "nii") = (g, .error r)) ∧
      (g.select institutionKey none).2 = .ok .updated ∧
      (∃ notice, (g.select institutionKey none).1.beginSave.2 = .ok (.unchanged notice)) ∧
      ∃ request, (g.select institutionKey (some "cos")).1.beginSave.2 = .ok (.submit request) ∧
        request.payload = some (affiliationBody (some "cos")) := by
  intro service scope choices g
  have cameOf : g.CameOf (choices.group service scope) :=
    ⟨_, _, _, by decide, history_played _ _ _⟩
  have idle : g.phase = .idle := by decide
  obtain ⟨accepted, refused, cleared, again, was, saved, saves⟩ :=
    (institution_choices_closed choices service scope).2 cameOf idle
  have now : (g.setting? institutionKey).map Setting.saved = some (.choice none) := by decide
  cases saved.symm.trans now
  exact ⟨cameOf, idle, by decide, again, refused (some "nii") (by decide), cleared,
    (saves none cleared).1.2 rfl, (saves (some "cos") again).2 nofun⟩

end InstitutionChoices

end SettingsConsole
