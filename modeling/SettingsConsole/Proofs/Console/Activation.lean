import SettingsConsole.Proofs.Console.Selection
import SettingsConsole.Proofs.Group.Consent
import SettingsConsole.Proofs.Group.Refusal

/-!
# What activating a row does

The rows are made from the groups, and a row that is activated is looked up in them again by the
name of its group and the key of its setting.  Both agree where names and keys are distinct: then
the setting that is edited is the one that the row was made from, its value is of the kind of the
row, and the rows of all other settings stay as they were
(`Console.activation_does_what_is_shown`).
-/

namespace SettingsConsole

namespace Mark

/-- The mark with the check turned around. -/
def flipped (m : Mark) : Mark := { m with checked := !m.checked }

/-- The mark after a setting of a group was given a value. -/
def given (id : GroupId) (key : String) (v : Setting.Value) (m : Mark) : Mark :=
  if m.group = id ∧ m.key = key then { m with checked := m.action.isChecked v } else m

end Mark

/-! ## Lists with names of their own -/

/-- What is made of an entry with a name of its own, if the others come to nothing. -/
theorem flatMap_eq_of_nodup {α β γ : Type} {name : α → γ} {f : α → List β} {xs : List α} {x : α}
    (distinct : (xs.map name).Nodup) (member : x ∈ xs)
    (others : ∀ y ∈ xs, name y ≠ name x → f y = []) : xs.flatMap f = f x := by
  induction xs with
  | nil => cases member
  | cons y ys ih =>
    obtain ⟨fresh, distinct⟩ := List.nodup_cons.1 distinct
    obtain ⟨first, later⟩ := List.forall_mem_cons.1 others
    rw [List.flatMap_cons]
    rcases List.mem_cons.1 member with rfl | behind
    · have silent : ys.flatMap f = [] := List.flatMap_eq_nil_iff.2 fun z listed =>
        later z listed fun same => fresh (same ▸ List.mem_map_of_mem listed)
      rw [silent, List.append_nil]
    · have other : name y ≠ name x := fun same => fresh (same ▸ List.mem_map_of_mem behind)
      rw [first other, List.nil_append, ih distinct behind later]

/-- Where one entry has a property, changing all that have it changes that one. -/
theorem map_eq_set {α : Type} {p : α → Prop} [DecidablePred p] {f : α → α} {xs : List α} {x : α}
    {i : Nat} (only : xs.filter p = [x]) (at_i : xs[i]? = some x) :
    xs.map (fun y => if p y then f y else y) = xs.set i (f x) := by
  have its : p x := by
    have listed : x ∈ xs.filter p := only ▸ List.mem_singleton_self x
    exact of_decide_eq_true (List.mem_filter.1 listed).2
  induction xs generalizing i with
  | nil => cases only
  | cons y ys ih =>
    rw [List.filter_cons] at only
    by_cases here : p y
    · rw [if_pos (decide_eq_true here)] at only
      obtain ⟨rfl, none_left⟩ := List.cons.inj only
      have unmet : ∀ z ∈ ys, ¬ p z := by simpa using List.filter_eq_nil_iff.1 none_left
      have same : ys.map (fun z => if p z then f z else z) = ys :=
        (List.map_congr_left fun z listed => if_neg (unmet z listed)).trans ys.map_id
      cases i with
      | zero => rw [List.map_cons, if_pos here, same, List.set_cons_zero]
      | succ i => exact absurd its (unmet y (List.mem_of_getElem? at_i))
    · rw [if_neg (by simpa using here)] at only
      cases i with
      | zero => exact absurd its (Option.some.inj at_i ▸ here)
      | succ i => rw [List.map_cons, if_neg here, List.set_cons_succ, ih only at_i]

/-! ## Marks of a setting -/

theorem Setting.Kind.select_mem_actions_iff {options : List Choice} {clearable : Bool}
    {selected : Option String} :
    .select selected ∈ (Kind.enumerated options clearable).actions ↔
      (∃ o ∈ options, selected = some o.value) ∨ clearable ∧ selected = none := by
  cases clearable <;> simp [actions, eq_comm]

theorem RowAction.isChecked_choice (a : RowAction) (v : Option String) :
    a.isChecked (.choice v) = decide (a = .select v) := by
  cases a with
  | toggle => simp [isChecked]
  | select o =>
    show decide (v = o) = _
    simp [eq_comm]
  | edit => simp [isChecked]

namespace Setting

variable {s : Setting} {id : GroupId} {key : String} {v : Value} {m : Mark}

theorem of_mem_marks (member : m ∈ s.marks id) :
    m.group = id ∧ m.key = s.key ∧ m.action ∈ s.kind.actions ∧
      m.checked = m.action.isChecked s.current := by
  obtain ⟨a, listed, rfl⟩ := List.mem_map.1 member
  exact ⟨rfl, rfl, listed, rfl⟩

theorem marks_given_of_ne (other : s.key ≠ key) :
    (s.marks id).map (Mark.given id key v) = s.marks id := by
  refine (List.map_congr_left fun m member => ?_).trans (List.map_id _)
  obtain ⟨-, named, -⟩ := of_mem_marks member
  exact if_neg fun its => other (named.symm.trans its.2)

theorem marks_current (s : Setting) (id : GroupId) (v : Value) :
    ({ s with current := v } : Setting).marks id = (s.marks id).map (Mark.given id s.key v) := by
  simp [marks, Mark.given]

/-- Giving a setting a value changes the marks of that setting. -/
theorem flatMap_marks_assign {settings : List Setting}
    (distinct : (settings.map Setting.key).Nodup) :
    (assign key v settings).flatMap (marks id) =
      (settings.flatMap (marks id)).map (Mark.given id key v) := by
  induction settings with
  | nil => rfl
  | cons s rest ih =>
    obtain ⟨fresh, distinct⟩ := List.nodup_cons.1 distinct
    unfold assign
    by_cases here : s.key = key
    · have others :
          (rest.flatMap (marks id)).map (Mark.given id key v) = rest.flatMap (marks id) := by
        rw [List.map_flatMap]
        refine List.flatMap_congr fun t listed => marks_given_of_ne fun same => fresh ?_
        rw [here, ← same]
        exact List.mem_map_of_mem listed
      rw [if_pos here, List.flatMap_cons, List.flatMap_cons, List.map_append, others, ← here,
        marks_current]
    · rw [if_neg here, List.flatMap_cons, List.flatMap_cons, List.map_append, ih distinct,
        marks_given_of_ne here]

end Setting

namespace SettingGroup

variable {g g' : SettingGroup} {key : String} {v : Setting.Value} {row : Row}
  {outcome : EditOutcome}

theorem group_of_mem_marks {m : Mark} (member : m ∈ g.marks) : m.group = g.id := by
  obtain ⟨s, -, member⟩ := List.mem_flatMap.1 member
  exact (Setting.of_mem_marks member).1

/-- Giving a setting of the group a value changes the marks of that setting. -/
theorem marks_of_assign (distinct : (g.settings.map Setting.key).Nodup) (id : g'.id = g.id)
    (assigned : g'.settings = Setting.assign key v g.settings) :
    g'.marks = g.marks.map (Mark.given g.id key v) := by
  unfold marks
  rw [id, assigned]
  exact Setting.flatMap_marks_assign distinct

theorem marks_given_of_ne {id : GroupId} (other : g.id ≠ id) :
    g.marks.map (Mark.given id key v) = g.marks := by
  refine (List.map_congr_left fun m member => ?_).trans (List.map_id _)
  exact if_neg fun its => other ((group_of_mem_marks member).symm.trans its.1)

/-- A row is made from a setting of its group. -/
theorem of_mem_rows (member : row ∈ g.rows) :
    row.busy = g.isSaving ∧ ∃ s ∈ g.settings, row.mark ∈ s.marks g.id := by
  obtain ⟨s, listed, member⟩ := List.mem_flatMap.1 member
  refine ⟨?_, s, listed, ?_⟩
  · unfold settingRows at member
    split at member
    · rw [List.mem_singleton.1 member]
      rfl
    · rw [List.mem_singleton.1 member]
      rfl
    · rcases List.mem_append.1 member with option | cleared
      · obtain ⟨o, -, rfl⟩ := List.mem_map.1 option
        rfl
      · split at cleared
        · rw [List.mem_singleton.1 cleared]
          rfl
        · cases cleared
  · rw [← g.map_mark_settingRows]
    exact List.mem_map_of_mem member

/-! ## What the operation of a row leads to -/

/-- A switch points elsewhere, or turns the flag. -/
theorem Performed.of_toggle (h : Performed g (.toggle key) g' (.ok outcome)) :
    (∀ keys, outcome ≠ .save (.rolledBack keys)) ∧
    ∃ s on, g.setting? key = some s ∧ s.current = .flag on ∧
      (on = false ∧ (∃ url, g.profile.enableUrl = some url ∧ outcome = .redirect url) ∧ g' = g ∨
        (on = true ∨ g.profile.enableUrl = none) ∧
          g'.settings = Setting.assign key (.flag !on) g.settings) := by
  have edited {g₁ : SettingGroup} (edit : Edited g (.toggle key) g₁) :
      ∃ s on, g.setting? key = some s ∧ s.current = .flag on ∧
        (on = true ∨ g.profile.enableUrl = none) ∧
          g₁.settings = Setting.assign key (.flag !on) g.settings := by
    cases edit with
    | assigned _ its found accepts =>
      obtain rfl := Option.some.inj its
      cases accepts with
      | off on => exact ⟨_, true, found, on, .inl rfl, rfl⟩
      | on off here => exact ⟨_, false, found, off, .inr here, rfl⟩
  cases h with
  | redirected _ found off elsewhere =>
    exact ⟨nofun, _, false, found, off, .inl ⟨rfl, ⟨_, elsewhere, rfl⟩, rfl⟩⟩
  | asked _ found off here => exact ⟨nofun, _, false, found, off, .inr ⟨.inr here, rfl⟩⟩
  | edited edit =>
    obtain ⟨s, on, found, flag, turned⟩ := edited edit
    exact ⟨nofun, s, on, found, flag, .inr turned⟩
  | saved edit _ save =>
    obtain ⟨s, on, found, flag, here, assigned⟩ := edited edit
    refine ⟨?_, s, on, found, flag, .inr ⟨here, save.settings.trans assigned⟩⟩
    cases save <;> nofun

/-- A selection is taken over. -/
theorem Performed.of_select {selected : Option String}
    (h : Performed g (.select key selected) g' (.ok outcome)) :
    (∀ keys, outcome ≠ .save (.rolledBack keys)) ∧
      g'.settings = Setting.assign key (.choice selected) g.settings := by
  have edited {g₁ : SettingGroup} (edit : Edited g (.select key selected) g₁) :
      g₁.settings = Setting.assign key (.choice selected) g.settings := by
    cases edit with
    | assigned _ its _ accepts =>
      obtain rfl := Option.some.inj its
      cases accepts <;> rfl
  cases h with
  | edited edit => exact ⟨nofun, edited edit⟩
  | saved edit _ save =>
    refine ⟨?_, save.settings.trans (edited edit)⟩
    cases save <;> nofun

theorem exists_ok_of_not_refuses {op : Operation} (accepted : ∀ r, ¬ g.Refuses op r) :
    ∃ outcome, (op.perform g).2 = .ok outcome := by
  cases result : (op.perform g).2 with
  | ok outcome => exact ⟨outcome, rfl⟩
  | error r => exact absurd (refuses_of_error result) (accepted r)

/-- The switch of a setting that holds a flag is not refused. -/
theorem exists_ok_toggle {s : Setting} {on : Bool} (idle : g.phase = .idle)
    (found : g.setting? key = some s) (flag : s.current = .flag on) :
    ∃ outcome, ((Operation.toggle key).perform g).2 = .ok outcome := by
  refine exists_ok_of_not_refuses fun r refuses => ?_
  cases refuses with
  | busy _ obstacle => cases (obstacle?_of_idle idle).symm.trans obstacle
  | unknown its missing =>
    obtain rfl := Option.some.inj its
    cases found.symm.trans missing
  | unfit its there unfit =>
    obtain rfl := Option.some.inj its
    cases found.symm.trans there
    exact unfit ⟨on, flag⟩

/-- An option that has a row is not refused. -/
theorem exists_ok_select {s : Setting} {selected : Option String} (idle : g.phase = .idle)
    (found : g.setting? key = some s) (offered : .select selected ∈ s.kind.actions) :
    ∃ outcome, ((Operation.select key selected).perform g).2 = .ok outcome := by
  obtain ⟨options, clearable, kind⟩ :
      ∃ options clearable, s.kind = .enumerated options clearable := by
    cases kind : s.kind with
    | enumerated options clearable => exact ⟨options, clearable, rfl⟩
    | boolean =>
      rw [kind] at offered
      cases List.mem_singleton.1 offered
    | text =>
      rw [kind] at offered
      cases List.mem_singleton.1 offered
  refine exists_ok_of_not_refuses fun r refuses => ?_
  cases refuses with
  | busy _ obstacle => cases (obstacle?_of_idle idle).symm.trans obstacle
  | unknown its missing =>
    obtain rfl := Option.some.inj its
    cases found.symm.trans missing
  | unfit its there unfit =>
    obtain rfl := Option.some.inj its
    cases found.symm.trans there
    exact unfit ⟨options, clearable, kind⟩
  | notAnOption there enumerated absent =>
    cases found.symm.trans there
    rw [enumerated, Setting.Kind.select_mem_actions_iff] at offered
    rcases offered with ⟨o, listed, its⟩ | ⟨-, unselected⟩
    · exact absent (List.any_eq_true.2 ⟨o, listed, decide_eq_true (Option.some.inj its).symm⟩)
    · cases unselected
  | notClearable there enumerated =>
    cases found.symm.trans there
    rw [enumerated, Setting.Kind.select_mem_actions_iff] at offered
    rcases offered with ⟨o, -, its⟩ | ⟨clearable, -⟩
    · cases its
    · cases clearable

end SettingGroup

namespace Console

variable {c c' : Console} {g g' : SettingGroup} {s : Setting} {key : String} {v : Setting.Value}
  {groups : List SettingGroup}

/-! ## Marks of a tab -/

theorem group?_of_mem_shown (member : g ∈ c.shown) : c.group? g.id = some g := by
  obtain ⟨id, -, found⟩ := List.mem_filterMap.1 member
  rwa [id_of_group? found]

theorem nodup_shown (distinct : c.loaded.Nodup) : (c.shown.map SettingGroup.id).Nodup := by
  have names : c.tabGroups.Nodup := by
    unfold tabGroups
    cases c.tab with
    | accounts => exact distinct.filter _
    | _ => simp [Tab.group?]
  unfold shown
  rw [List.map_filterMap]
  refine names.filterMap fun id other it at_id at_other => ?_
  obtain ⟨h, found, named⟩ := Option.map_eq_some_iff.1 at_id
  obtain ⟨h', found', named'⟩ := Option.map_eq_some_iff.1 at_other
  rw [← id_of_group? found, ← id_of_group? found', named, named']

theorem shown_of_replaceGroup (tab : c'.tab = c.tab) (put : c'.groups = replaceGroup g' c.groups)
    (loaded : c.group? g'.id = some g) :
    c'.shown = c.shown.map fun h => if h.id = g'.id then g' else h := by
  have names : c'.tabGroups = c.tabGroups := by
    unfold tabGroups
    rw [tab, put, map_id_replaceGroup]
  unfold shown
  rw [names, List.map_filterMap]
  refine List.filterMap_congr fun id _ => ?_
  unfold group?
  rw [put]
  by_cases same : id = g'.id
  · subst same
    have found : c.groups.find? (·.id = g'.id) = some g := loaded
    rw [find?_replaceGroup g' (mem_loaded_of_group? loaded), found, Option.map_some,
      if_pos (id_of_group? loaded)]
  · rw [find?_replaceGroup_of_ne same]
    cases found : c.groups.find? (·.id = id) with
    | none => rfl
    | some h =>
      have named : h.id = id := by simpa using List.find?_some found
      rw [Option.map_some, if_neg (named ▸ same)]

/-- What is given to a setting of one group changes the marks of that setting. -/
theorem marks_of_replaceGroup (tab : c'.tab = c.tab) (put : c'.groups = replaceGroup g' c.groups)
    (loaded : c.group? g'.id = some g) (given : g'.marks = g.marks.map (Mark.given g'.id key v)) :
    c'.marks = c.marks.map (Mark.given g'.id key v) := by
  rw [marks_eq, marks_eq, shown_of_replaceGroup tab put loaded, List.flatMap_map, List.map_flatMap]
  refine List.flatMap_congr fun h member => ?_
  by_cases same : h.id = g'.id
  · have found := group?_of_mem_shown member
    rw [same, loaded] at found
    obtain rfl := Option.some.inj found
    rw [if_pos same, given]
  · rw [if_neg same, SettingGroup.marks_given_of_ne same]

/-- The marks under the name of a group and the key of a setting are those of that setting. -/
theorem filter_marks (distinct : c.loaded.Nodup) (shown : g ∈ c.shown)
    (keys : (g.settings.map Setting.key).Nodup) (listed : s ∈ g.settings) :
    c.marks.filter (fun m => m.group = g.id ∧ m.key = s.key) = s.marks g.id := by
  have own : g.marks.filter (fun m => m.group = g.id ∧ m.key = s.key) = s.marks g.id := by
    unfold SettingGroup.marks
    rw [List.filter_flatMap, flatMap_eq_of_nodup keys listed]
    · refine List.filter_eq_self.2 fun m member => ?_
      obtain ⟨group, named, -⟩ := Setting.of_mem_marks member
      exact decide_eq_true ⟨group, named⟩
    · intro t _ other
      refine List.filter_eq_nil_iff.2 fun m member its => ?_
      obtain ⟨-, named, -⟩ := Setting.of_mem_marks member
      exact other (named.symm.trans (of_decide_eq_true its).2)
  rw [marks_eq, List.filter_flatMap, flatMap_eq_of_nodup (nodup_shown distinct) shown, own]
  intro h _ other
  refine List.filter_eq_nil_iff.2 fun m member its => ?_
  exact other ((SettingGroup.group_of_mem_marks member).symm.trans (of_decide_eq_true its).1)

theorem replaceGroup_eq_map (distinct : (groups.map SettingGroup.id).Nodup) :
    replaceGroup g' groups = groups.map fun h => if h.id = g'.id then g' else h := by
  induction groups with
  | nil => rfl
  | cons x rest ih =>
    obtain ⟨fresh, distinct⟩ := List.nodup_cons.1 distinct
    unfold replaceGroup
    by_cases here : x.id = g'.id
    · have others : rest.map (fun h => if h.id = g'.id then g' else h) = rest := by
        refine (List.map_congr_left fun h listed => if_neg fun same => fresh ?_).trans rest.map_id
        rw [here, ← same]
        exact List.mem_map_of_mem listed
      rw [if_pos here, List.map_cons, if_pos here, others]
    · rw [if_neg here, List.map_cons, if_neg here, ih distinct]

/-! ## Following up on the operation of a row -/

theorem status_concludeEdit {answer : Answer EditOutcome} {outcome : EditOutcome}
    (accepted : answer.2 = .ok outcome) (kept : ∀ keys, outcome ≠ .save (.rolledBack keys))
    (now : Nat) : (c.concludeEdit answer now).1.status = none := by
  obtain ⟨g, result⟩ := answer
  subst accepted
  cases outcome with
  | save outcome =>
    cases outcome with
    | unchanged notice => cases notice <;> rfl
    | rolledBack keys => exact absurd rfl (kept keys)
    | confirm | submit => rfl
  | updated | prompt | redirect => rfl

theorem tab_concludeEdit (c : Console) (answer : Answer EditOutcome) (now : Nat) :
    (c.concludeEdit answer now).1.tab = c.tab :=
  (congrArg Console.tab (c.bare_concludeEdit answer now) :
    (c.concludeEdit answer now).1.bare.tab = c.bare.tab)

theorem groups_concludeEdit (c : Console) (answer : Answer EditOutcome) (now : Nat) :
    (c.concludeEdit answer now).1.groups = replaceGroup answer.1 c.groups :=
  congrArg Core.groups (c.core_concludeEdit answer now)

theorem dialogs_concludeEdit (c : Console) (answer : Answer EditOutcome) (now : Nat) :
    (c.concludeEdit answer now).1.dialogs = c.dialogs ++ opens answer.2 :=
  congrArg Core.dialogs (c.core_concludeEdit answer now)

/-- What the row shows comes about.  A switch turns its own check around, or points elsewhere and
changes nothing; an option is checked in place of the others of its setting; a text is put into a
dialog as it is. -/
def ActsAsShown (c : Console) (i : Nat) (row : Row) (g : SettingGroup) (c' : Console) : Prop :=
  match row.action with
  | .toggle =>
    match g.profile.enableUrl, row.checked with
    | some url, false => c'.groups = c.groups ∧ c'.dialogs = [.redirect url]
    | some _, true | none, _ => c'.marks = c.marks.set i row.mark.flipped
  | .select selected =>
    c'.marks = c.marks.map fun m =>
      if m.group = row.group ∧ m.key = row.key then
        { m with checked := m.action = .select selected }
      else m
  | .edit =>
    c'.groups = c.groups ∧ ∃ s text, g.setting? row.key = some s ∧ s.current = .text text ∧
      c'.dialogs = [.editText row.group row.key s.label text]

/-- A row that is shown and the setting that it was made from, in a group that waits for nothing. -/
structure Shows (c : Console) (i : Nat) (row : Row) (g : SettingGroup) (s : Setting) : Prop where
  at_i : c.rows[i]? = some row
  distinct : c.loaded.Nodup
  shown : g ∈ c.shown
  keys : (g.settings.map Setting.key).Nodup
  listed : s ∈ g.settings
  marked : row.mark ∈ s.marks g.id
  suited : s.kind.suits s.current
  idle : g.phase = .idle

section Shows

variable {i : Nat} {row : Row} (h : Shows c i row g s)
include h

theorem Shows.group_eq : row.group = g.id := (Setting.of_mem_marks h.marked).1

theorem Shows.key_eq : row.key = s.key := (Setting.of_mem_marks h.marked).2.1

theorem Shows.action : row.action ∈ s.kind.actions := (Setting.of_mem_marks h.marked).2.2.1

theorem Shows.checked : row.checked = row.action.isChecked s.current :=
  (Setting.of_mem_marks h.marked).2.2.2

theorem Shows.loaded : c.group? g.id = some g := group?_of_mem_shown h.shown

theorem Shows.setting? : g.setting? row.key = some s := by
  rw [h.key_eq]
  exact Setting.find?_of_mem h.keys h.listed

/-- A value that is given to the setting of the row changes the marks of that setting. -/
theorem Shows.marks_concludeEdit {answer : Answer EditOutcome} (id : answer.1.id = g.id)
    (assigned : answer.1.settings = Setting.assign row.key v g.settings) (now : Nat) :
    (c.concludeEdit answer now).1.marks = c.marks.map (Mark.given g.id row.key v) := by
  have given := SettingGroup.marks_of_assign h.keys id assigned
  rw [← id] at given ⊢
  exact marks_of_replaceGroup (c.tab_concludeEdit answer now) (c.groups_concludeEdit answer now)
    (id.symm ▸ h.loaded) given

/-- The groups of other names stay when the group of the row is put back. -/
theorem Shows.groups_concludeEdit {answer : Answer EditOutcome} (id : answer.1.id = g.id)
    (now : Nat) : (c.concludeEdit answer now).1.groups =
      c.groups.map fun h => if h.id = row.group then answer.1 else h := by
  rw [Console.groups_concludeEdit, replaceGroup_eq_map h.distinct, id, h.group_eq]

/-- If the row is the only one of its setting, no other mark changes. -/
theorem Shows.marks_given_of_only (only : s.marks g.id = [row.mark]) (v : Setting.Value) :
    c.marks.map (Mark.given g.id row.key v) =
      c.marks.set i { row.mark with checked := row.mark.action.isChecked v } := by
  have at_i : c.marks[i]? = some row.mark := by
    unfold marks
    rw [List.getElem?_map, h.at_i]
    rfl
  have its := filter_marks h.distinct h.shown h.keys h.listed
  rw [only, ← h.key_eq] at its
  exact map_eq_set its at_i

/-- The only row of a flag is that of its switch. -/
theorem Shows.marks_of_toggle (toggles : row.action = .toggle) :
    ∃ on, s.current = .flag on ∧ row.checked = on ∧ s.marks g.id = [row.mark] := by
  have kind : s.kind = .boolean := by
    have offered := h.action
    rw [toggles] at offered
    cases kind : s.kind with
    | boolean => rfl
    | text required =>
      rw [kind] at offered
      cases List.mem_singleton.1 offered
    | enumerated options clearable =>
      rw [kind] at offered
      cases clearable <;> simp [Setting.Kind.actions] at offered
  have suited := h.suited
  rw [kind] at suited
  cases value : s.current with
  | flag on =>
    refine ⟨on, rfl, ?_, ?_⟩
    · rw [h.checked, toggles, value]
      simp [RowAction.isChecked]
    · have only : (s.marks g.id).length = 1 := by
        unfold Setting.marks
        rw [List.length_map, kind]
        rfl
      obtain ⟨m, alone⟩ := List.length_eq_one_iff.1 only
      have its := h.marked
      rw [alone] at its ⊢
      rw [List.mem_singleton.1 its]
  | choice | text =>
    rw [value] at suited
    cases suited

/-- The switch of a row is accepted, and turns its own check around or points elsewhere. -/
theorem Shows.toggle (free : c.dialogs = []) (toggles : row.action = .toggle) (now : Nat) :
    (∃ outcome, (g.toggle row.key).2 = .ok outcome) ∧
      (c.concludeEdit (g.toggle row.key) now).1.status = none ∧
      c.ActsAsShown i row g (c.concludeEdit (g.toggle row.key) now).1 := by
  obtain ⟨on, flag, checked, only⟩ := h.marks_of_toggle toggles
  obtain ⟨outcome, accepted⟩ := SettingGroup.exists_ok_toggle h.idle h.setting? flag
  replace accepted : (g.toggle row.key).2 = .ok outcome := accepted
  have step := g.toggle_performed row.key
  rw [accepted] at step
  obtain ⟨kept, t, on', found, value, leads⟩ := step.of_toggle
  cases h.setting?.symm.trans found
  cases flag.symm.trans value
  refine ⟨⟨outcome, accepted⟩, status_concludeEdit accepted kept now, ?_⟩
  simp only [ActsAsShown, toggles, checked]
  rcases leads with ⟨rfl, ⟨url, elsewhere, rfl⟩, same⟩ | ⟨here, assigned⟩
  · rw [elsewhere]
    refine ⟨?_, ?_⟩
    · rw [Console.groups_concludeEdit, same]
      exact replaceGroup_self h.loaded
    · rw [dialogs_concludeEdit, accepted, free]
      rfl
  · have turned := h.marks_concludeEdit (g.id_perform (.toggle row.key)) assigned now
    replace turned := turned.trans (h.marks_given_of_only only _)
    have its : row.mark.action.isChecked (.flag !on) = !row.mark.checked := by
      have action : row.mark.action = .toggle := toggles
      have was : row.mark.checked = on := checked
      rw [action, was]
      simp [RowAction.isChecked]
    rw [its] at turned
    cases elsewhere : g.profile.enableUrl with
    | none => exact turned
    | some url =>
      cases on with
      | true => exact turned
      | false => simp [elsewhere] at here

/-- The selection of a row is accepted, and its option is checked in place of the others of its
setting. -/
theorem Shows.select {selected : Option String} (selects : row.action = .select selected)
    (now : Nat) :
    (∃ outcome, (g.select row.key selected).2 = .ok outcome) ∧
      (c.concludeEdit (g.select row.key selected) now).1.status = none ∧
      c.ActsAsShown i row g (c.concludeEdit (g.select row.key selected) now).1 := by
  have offered := h.action
  rw [selects] at offered
  obtain ⟨outcome, accepted⟩ := SettingGroup.exists_ok_select h.idle h.setting? offered
  replace accepted : (g.select row.key selected).2 = .ok outcome := accepted
  have step := g.select_performed row.key selected
  rw [accepted] at step
  obtain ⟨kept, assigned⟩ := step.of_select
  refine ⟨⟨outcome, accepted⟩, status_concludeEdit accepted kept now, ?_⟩
  simp only [ActsAsShown, selects]
  refine (h.marks_concludeEdit (g.id_perform (.select row.key selected)) assigned now).trans ?_
  rw [h.group_eq]
  refine List.map_congr_left fun m _ => ?_
  unfold Mark.given
  rw [RowAction.isChecked_choice]

/-- The text of a row is put into a dialog as it is. -/
theorem Shows.edit (free : c.dialogs = []) (edits : row.action = .edit) :
    c.ActsAsShown i row g
      (c.pushDialog (.editText row.group row.key s.label (s.current.content?.getD ""))) := by
  have offered := h.action
  rw [edits] at offered
  have suited := h.suited
  cases kind : s.kind with
  | boolean =>
    rw [kind] at offered
    cases List.mem_singleton.1 offered
  | enumerated options clearable =>
    rw [kind] at offered
    cases clearable <;> simp [Setting.Kind.actions] at offered
  | text required =>
    rw [kind] at suited
    cases value : s.current with
    | text text =>
      simp only [ActsAsShown, edits]
      refine ⟨rfl, s, text, h.setting?, value, ?_⟩
      show c.dialogs ++ _ = _
      rw [free]
      rfl
    | flag | choice =>
      rw [value] at suited
      cases suited

end Shows

/-- A row whose group has no request out shows a setting of it, and the group waits for nothing:
a question would be shown. -/
theorem Turns.exists_shows {redraw : Redraw} {first : Console} {log : List (Console × Turn)}
    (h : Turns redraw first log c) (unloaded : first.groups = []) (silent : first.dialogs = [])
    (distinct : ∀ content ∈ loadedContent? log, content.HasDistinctNames) (free : c.dialogs = [])
    {i : Nat} {row : Row} (at_i : c.rows[i]? = some row) (unbusy : ¬ row.busy) :
    ∃ g s, c.group? row.group = some g ∧ Shows c i row g s := by
  obtain ⟨g, shown, loaded, member⟩ := exists_shown_of_mem_rows (List.mem_of_getElem? at_i)
  have listed := List.mem_of_find?_eq_some loaded
  obtain ⟨-, -, lived⟩ := h.lived unloaded
  obtain ⟨busy, s, its, marked⟩ := SettingGroup.of_mem_rows member
  have quiet := (h.inStep unloaded silent).quiet (by simp [free]) g listed
  have idle : g.phase = .idle := by
    rcases SettingGroup.asks?_eq_none_iff.1 quiet with idle | out
    · exact idle
    · exact absurd (busy.trans (decide_eq_true out)) unbusy
  exact ⟨g, s, loaded, { at_i, distinct := h.nodup_loaded unloaded distinct, shown
                         keys := h.nodup_keys unloaded distinct listed, listed := its, marked
                         suited := (lived g listed).suits s its, idle }⟩

/-- Whatever events come and however often the console is drawn, activating the row that is
selected does what it shows, if the add-ons and the accounts of the page have names of their own, no
dialog is shown and no request of its group is out.  The operation that it asks for is accepted, the
groups of other names stay as they are, and so do all marks but those that the row is about. -/
theorem activation_does_what_is_shown {redraw : Redraw} {first : Console}
    {log : List (Console × Turn)} (h : Turns redraw first log c) (unloaded : first.groups = [])
    (silent : first.dialogs = [])
    (distinct : ∀ content ∈ loadedContent? log, content.HasDistinctNames) (free : c.dialogs = [])
    {i : Nat} {row : Row} (selected : c.selection.selected = some i) (at_i : c.rows[i]? = some row)
    (unbusy : ¬ row.busy) {key : Key} (press : key = .char ' ' ∨ key = .enter) (now : Moment) :
    let c' := (c.handle (.key key) now).1
    ∃ g, c.group? row.group = some g ∧ g.phase = .idle ∧
      (∀ id op, c.operation? key = some (id, op) →
        id = row.group ∧ ∃ outcome, (op.perform g).2 = .ok outcome) ∧
      c'.status = (if row.action = .edit then c.status else none) ∧
      (∃ g', c'.groups = c.groups.map fun h => if h.id = row.group then g' else h) ∧
      c.ActsAsShown i row g c' := by
  obtain ⟨g, s, loaded, shows⟩ := h.exists_shows unloaded silent distinct free at_i unbusy
  have at_row : c.selectedRow? = some row := by
    unfold selectedRow?
    rw [selected]
    exact at_i
  dsimp only
  refine ⟨g, loaded, shows.idle, ?_⟩
  rw [handle_of_activates free press, c.operation?_of_selectedRow? free press at_row]
  cases action : row.action with
  | toggle =>
    have acted : c.activateRow now.millis = c.concludeEdit (g.toggle row.key) now.millis := by
      simp only [activateRow, at_row, loaded, action]
    obtain ⟨accepted, status, acts⟩ := shows.toggle free action now.millis
    have put := shows.groups_concludeEdit (g.id_perform (.toggle row.key)) now.millis
    rw [acted]
    refine ⟨?_, status, ⟨_, put⟩, acts⟩
    rintro id op ⟨⟩
    exact ⟨rfl, accepted⟩
  | select value =>
    have acted : c.activateRow now.millis = c.concludeEdit (g.select row.key value) now.millis := by
      simp only [activateRow, at_row, loaded, action]
    obtain ⟨accepted, status, acts⟩ := shows.select action now.millis
    have put := shows.groups_concludeEdit (g.id_perform (.select row.key value)) now.millis
    rw [acted]
    refine ⟨?_, status, ⟨_, put⟩, acts⟩
    rintro id op ⟨⟩
    exact ⟨rfl, accepted⟩
  | edit =>
    have acted : c.activateRow now.millis = (c.pushDialog
        (.editText row.group row.key s.label (s.current.content?.getD "")), []) := by
      simp only [activateRow, at_row, loaded, action, SettingGroup.obstacle?_of_idle shows.idle,
        shows.setting?]
    have same : replaceGroup g c.groups = c.groups.map fun h => if h.id = g.id then g else h :=
      replaceGroup_eq_map shows.distinct
    rw [replaceGroup_self shows.loaded, ← shows.group_eq] at same
    rw [acted]
    exact ⟨nofun, rfl, ⟨g, same⟩, shows.edit free action⟩

/-- The second of two add-ons is switched off. -/
theorem activation_does_what_is_shown_addons :
    let now : Moment := ⟨0, 2026, 3, 14, 9, 0⟩
    let page := { Session.smallPage with
      addons := [⟨"dropbox", "Dropbox", false, none⟩, ⟨"s3", "Amazon S3", true, none⟩] }
    let ended := Session.smallRun [.key .down, .key .tab, .pageFetched (.ok page)]
    let c := ended.2.console
    let row : Row := ⟨.addons, "s3", .toggle, "Amazon S3", true, false, false⟩
    let c' := (c.handle (.key (.char ' ')) now).1
    c.selectedRow? = some row ∧ page.HasDistinctNames ∧
      (∃ g, c.group? .addons = some g ∧ c.ActsAsShown 1 row g c') ∧
      c'.marks = [⟨.addons, "dropbox", .toggle, false⟩, ⟨.addons, "s3", .toggle, false⟩] := by
  intro now page ended c row c'
  have run : Session.Run Session.smallStart ended.1 ended.2 := Session.run_smallRun (by decide)
  have names : page.HasDistinctNames := ⟨by decide, by decide⟩
  have loaded : loadedContent? (ended.1.map fun x => (x.session.console, .handled x.event x.now)) =
      some page := rfl
  have distinct : ∀ content ∈ loadedContent?
      (ended.1.map fun x => (x.session.console, .handled x.event x.now)),
      content.HasDistinctNames := by
    rw [loaded]
    rintro _ ⟨⟩
    exact names
  have at_row : c.rows[1]? = some row := by decide
  have chosen : c.selection.selected = some 1 := by decide
  have unbusy : ¬ row.busy := nofun
  obtain ⟨g, found, -, -, -, -, acts⟩ := activation_does_what_is_shown (run.turns .still) rfl rfl
    distinct (by decide) chosen at_row unbusy (.inl rfl) now
  exact ⟨by decide, names, ⟨g, found, acts⟩, by decide⟩

end Console

end SettingsConsole
