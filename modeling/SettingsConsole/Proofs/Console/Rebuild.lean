import SettingsConsole.Proofs.Console.Groups
import SettingsConsole.Proofs.Console.Session

/-!
# Groups that are rebuilt

The content of the page replaces every group but the institution, and the institutions replace that
one (`Event.rebuilds`).  A group that was rebuilt is fresh, whatever the one before it was waiting
for (`isFresh_of_rebuilds`); every other group is found again as it was.  The institution is there
at most once, so that no second one can stand behind the one that is replaced.
-/

namespace SettingsConsole

/-- The area whose fetch a group is built from. -/
def GroupId.area : GroupId → PageArea
  | .institution => .institutions
  | .details | .addons | .wiki | .comments | .account _ => .page

/-- Whether an event has the groups of a name rebuilt, or dropped, from what was fetched. -/
def Event.rebuilds : Event → GroupId → Bool
  | .pageFetched (.ok _), id => id.area = .page
  | .institutionsFetched (.ok _), id => id.area = .institutions
  | _, _ => false

theorem GroupId.area_eq_page_iff {id : GroupId} : id.area = .page ↔ id ≠ .institution := by
  cases id <;> simp [area]

theorem GroupId.area_eq_institutions_iff {id : GroupId} :
    id.area = .institutions ↔ id = .institution := by
  cases id <;> simp [area]

theorem Event.area?_of_rebuilds {e : Event} {id : GroupId} (h : e.rebuilds id) :
    e.area? = some id.area := by
  cases e with
  | pageFetched result =>
    cases result with
    | ok content => exact congrArg some (of_decide_eq_true h).symm
    | error => cases h
  | institutionsFetched result =>
    cases result with
    | ok choices => exact congrArg some (of_decide_eq_true h).symm
    | error => cases h
  | _ => cases h

theorem Event.settles?_of_rebuilds {e : Event} {id : GroupId} (h : e.rebuilds id) :
    e.settles? = none := by
  cases e with
  | saveSettled => cases h
  | _ => rfl

/-- Nothing is under way in the group: no question, no request, no unsaved change. -/
def SettingGroup.IsFresh (g : SettingGroup) : Prop :=
  g.phase = .idle ∧ ∀ s ∈ g.settings, ¬ s.isDirty

theorem SettingGroup.isFresh_create (p : Profile) (settings : List Setting) :
    (create p settings).IsFresh := by
  refine ⟨rfl, fun s member => ?_⟩
  obtain ⟨t, -, rfl⟩ := List.mem_map.1 member
  rw [Setting.isDirty_acknowledged]
  exact Bool.false_ne_true

/-- The groups that the content of a page gives rise to. -/
theorem PageContent.created_of_mem_groups {content : PageContent} {service : Service}
    {scope : Scope} {g : SettingGroup} (member : g ∈ content.groups service scope) :
    (∃ settings, g = .create (.details service.v2 scope.node scope.support) settings) ∨
      (∃ settings, g = .create (.addons (service.nodeApi scope.node) scope.support) settings) ∨
      g = content.wikiGroup service scope ∨
      (∃ settings, g = .create (.comments (service.nodeApi scope.node) scope.support) settings) ∨
      ∃ a ∈ content.accounts, g = accountGroup service scope a := by
  simp only [groups, List.mem_append, Option.mem_toList, List.mem_cons, List.not_mem_nil,
    or_false] at member
  rcases member with ((details | addons | wiki) | comments) | account
  · unfold detailsGroup? at details
    split at details
    · cases details
    · exact .inl ⟨_, (Option.some.inj details).symm⟩
  · exact .inr (.inl ⟨_, addons⟩)
  · exact .inr (.inr (.inl wiki))
  · obtain ⟨level, -, rfl⟩ := Option.map_eq_some_iff.1 comments
    exact .inr (.inr (.inr (.inl ⟨_, rfl⟩)))
  · obtain ⟨a, listed, rfl⟩ := List.mem_map.1 account
    exact .inr (.inr (.inr (.inr ⟨a, listed, rfl⟩)))

/-- The groups of the page start fresh, and none of them is the institution. -/
theorem PageContent.groups_created {content : PageContent} {service : Service} {scope : Scope}
    {g : SettingGroup} (member : g ∈ content.groups service scope) :
    g.id.area = .page ∧ g.IsFresh := by
  rcases created_of_mem_groups member with ⟨_, rfl⟩ | ⟨_, rfl⟩ | rfl | ⟨_, rfl⟩ | ⟨a, -, rfl⟩ <;>
    exact ⟨rfl, SettingGroup.isFresh_create _ _⟩

@[simp] theorem InstitutionChoices.id_group (choices : InstitutionChoices) (service : Service)
    (scope : Scope) : (choices.group service scope).id = .institution := rfl

namespace Console

/-- The names of the groups, one for each. -/
def loaded (c : Console) : List GroupId := c.groups.map SettingGroup.id

/-! ## Replacing and removing a group -/

theorem map_id_replaceGroup (g : SettingGroup) (groups : List SettingGroup) :
    (replaceGroup g groups).map SettingGroup.id = groups.map SettingGroup.id := by
  induction groups with
  | nil => rfl
  | cons h rest ih =>
    unfold replaceGroup
    split
    next same => rw [List.map_cons, List.map_cons, same]
    next => rw [List.map_cons, List.map_cons, ih]

theorem find?_replaceGroup_of_ne {g : SettingGroup} {id : GroupId} (other : id ≠ g.id)
    (groups : List SettingGroup) :
    (replaceGroup g groups).find? (·.id = id) = groups.find? (·.id = id) := by
  induction groups with
  | nil => rfl
  | cons h rest ih =>
    unfold replaceGroup
    split
    next same =>
      rw [List.find?_cons_of_neg (by simpa using other.symm),
        List.find?_cons_of_neg (by simpa [same] using other.symm)]
    next => rw [List.find?_cons, List.find?_cons, ih]

/-- A group that is replaced by one of its name gives way to it, and all others stay. -/
theorem mem_replaceGroup {g g' h : SettingGroup} {groups : List SettingGroup}
    (first : groups.find? (·.id = h.id) = some g) (member : g' ∈ groups) :
    g' = g ∧ h ∈ replaceGroup h groups ∨ g' ∈ replaceGroup h groups := by
  induction groups with
  | nil => cases member
  | cons x rest ih =>
    unfold replaceGroup
    by_cases at_x : x.id = h.id
    · rw [if_pos at_x]
      rw [List.find?_cons_of_pos (by simpa using at_x)] at first
      rcases List.mem_cons.1 member with rfl | behind
      · exact .inl ⟨Option.some.inj first, List.mem_cons_self⟩
      · exact .inr (List.mem_cons_of_mem _ behind)
    · rw [if_neg at_x]
      rw [List.find?_cons_of_neg (by simpa using at_x)] at first
      rcases List.mem_cons.1 member with rfl | behind
      · exact .inr List.mem_cons_self
      · exact (ih first behind).imp (.imp_right (List.mem_cons_of_mem _)) (List.mem_cons_of_mem _)

theorem removeGroup_eq_eraseP (id : GroupId) (groups : List SettingGroup) :
    removeGroup id groups = groups.eraseP (·.id = id) := by
  induction groups with
  | nil => rfl
  | cons g rest ih =>
    unfold removeGroup
    rw [List.eraseP_cons, ih]
    by_cases same : g.id = id
    · simp only [same, if_true, decide_true, cond_true]
    · simp only [same, if_false, decide_false, cond_false]

theorem map_id_removeGroup (id : GroupId) (groups : List SettingGroup) :
    (removeGroup id groups).map SettingGroup.id = (groups.map SettingGroup.id).erase id := by
  induction groups with
  | nil => rfl
  | cons g rest ih =>
    unfold removeGroup
    rw [List.map_cons, List.erase_cons]
    by_cases same : g.id = id
    · rw [if_pos same, if_pos (by simpa using same)]
    · rw [if_neg same, if_neg (by simpa using same), List.map_cons, ih]

theorem find?_removeGroup_of_ne {id other : GroupId} (ne : id ≠ other)
    (groups : List SettingGroup) :
    (removeGroup other groups).find? (·.id = id) = groups.find? (·.id = id) := by
  induction groups with
  | nil => rfl
  | cons g rest ih =>
    unfold removeGroup
    split
    next same => rw [List.find?_cons_of_neg (by simpa [same] using ne.symm)]
    next => rw [List.find?_cons, List.find?_cons, ih]

/-! ## Finding groups again -/

variable {c : Console} {id : GroupId} {g : SettingGroup}

theorem mem_loaded_of_group? (h : c.group? id = some g) : id ∈ c.loaded :=
  List.mem_map.2 ⟨g, List.mem_of_find?_eq_some h, id_of_group? h⟩

theorem group?_of_mem_loaded (h : id ∈ c.loaded) : ∃ g, c.group? id = some g := by
  obtain ⟨g, member, rfl⟩ := List.mem_map.1 h
  exact Option.isSome_iff_exists.1 (List.find?_isSome.2 ⟨g, member, by simp⟩)

theorem isSaving_of_group? (h : c.group? id = some g) (out : g.isSaving) : c.isSaving :=
  List.any_eq_true.2 ⟨g, List.mem_of_find?_eq_some h, out⟩

theorem ne_institution_of_mem_groups {content : PageContent} {service : Service} {scope : Scope}
    (member : g ∈ content.groups service scope) : g.id ≠ .institution :=
  GroupId.area_eq_page_iff.1 (PageContent.groups_created member).1

theorem find?_institution_groups (content : PageContent) (service : Service) (scope : Scope) :
    (content.groups service scope).find? (·.id = .institution) = none := by
  rw [List.find?_eq_none]
  intro g member
  simpa using ne_institution_of_mem_groups member

/-- The institution is found as it was when the content of the page arrives. -/
theorem find?_pageInstalled (c : Console) (content : PageContent) :
    (content.groups c.service c.scope ++ (c.group? .institution).toList).find?
      (·.id = .institution) = c.group? .institution := by
  rw [List.find?_append, find?_institution_groups, Option.none_or]
  cases found : c.group? .institution with
  | none => rfl
  | some g => simp [id_of_group? found]

/-- Any other group is found as it was when the institutions arrive. -/
theorem find?_institutionsInstalled (c : Console) (choices : InstitutionChoices)
    (other : id ≠ .institution) :
    (removeGroup .institution c.groups ++ [choices.group c.service c.scope]).find?
      (·.id = id) = c.group? id := by
  rw [List.find?_append, find?_removeGroup_of_ne other]
  have not_it : [choices.group c.service c.scope].find? (·.id = id) = none := by
    rw [List.find?_eq_none]
    intro g member
    rw [List.mem_singleton.1 member, InstitutionChoices.id_group]
    simpa using other.symm
  rw [not_it, Option.or_none]
  rfl

/-! ## Which groups are loaded after an event -/

variable {e : Event} {groups : List SettingGroup} {effects : List Effect}

/-- A group that is not rebuilt stays, unless a reload starts. -/
theorem Regrouped.loaded_of_not_rebuilds (h : Regrouped c e groups effects)
    (member : id ∈ c.loaded) (rebuilt : ¬ e.rebuilds id) :
    id ∈ groups.map SettingGroup.id ∨ ¬ c.isSaving := by
  cases h with
  | kept => exact .inl member
  | reloaded _ saving => exact .inr saving
  | pageInstalled =>
    have it : id = .institution := by
      simpa [Event.rebuilds, GroupId.area_eq_page_iff] using rebuilt
    obtain ⟨g, found⟩ := group?_of_mem_loaded (it ▸ member)
    rw [found, List.map_append, it, ← id_of_group? found]
    exact .inl (List.mem_append_right _ List.mem_cons_self)
  | institutionsInstalled =>
    have other : id ≠ .institution := by
      simpa [Event.rebuilds, GroupId.area_eq_institutions_iff] using rebuilt
    rw [List.map_append, map_id_removeGroup]
    exact .inl (List.mem_append_left _ ((List.mem_erase_of_ne other).2 member))
  | operated =>
    rw [map_id_replaceGroup]
    exact .inl member
  | settled =>
    rw [map_id_replaceGroup]
    exact .inl member

/-- A group that was not there before was built from a fetch of its area. -/
theorem Regrouped.rebuilds_or_loaded (h : Regrouped c e groups effects)
    (member : id ∈ groups.map SettingGroup.id) : e.rebuilds id ∨ id ∈ c.loaded := by
  cases h with
  | kept => exact .inr member
  | reloaded => cases member
  | pageInstalled =>
    obtain ⟨g, listed, rfl⟩ := List.mem_map.1 member
    rcases List.mem_append.1 listed with built | kept
    · exact .inl (decide_eq_true (PageContent.groups_created built).1)
    · have found := Option.mem_toList.1 kept
      exact .inr (id_of_group? found ▸ mem_loaded_of_group? found)
  | institutionsInstalled =>
    rw [List.map_append, map_id_removeGroup] at member
    rcases List.mem_append.1 member with kept | built
    · exact .inr (List.mem_of_mem_erase kept)
    · rw [List.mem_singleton.1 built]
      exact .inl rfl
  | operated =>
    rw [map_id_replaceGroup] at member
    exact .inr member
  | settled =>
    rw [map_id_replaceGroup] at member
    exact .inr member

/-- Only a loaded group has a request sent. -/
theorem Regrouped.loaded_of_sent (h : Regrouped c e groups effects)
    (sent : id ∈ effects.filterMap Effect.saves?) : id ∈ groups.map SettingGroup.id := by
  cases h with
  | @operated _ _ op g asked loaded =>
    rw [map_id_replaceGroup]
    rcases g.sends_perform op with silent | ⟨request, only, its, -⟩
    · rw [silent] at sent
      cases sent
    · rw [only] at sent
      obtain rfl : id = request.group := List.mem_singleton.1 sent
      rw [its]
      exact List.mem_map_of_mem (List.mem_of_find?_eq_some loaded)
  | _ => cases sent

/-- Fetches are started only when all groups were given up. -/
theorem Regrouped.eq_nil_of_fetches (h : Regrouped c e groups effects) {a : PageArea}
    (starts : a ∈ effects.flatMap Effect.areas) : groups = [] := by
  cases h with
  | reloaded => rfl
  | @operated _ _ op g =>
    have silent : (sends (op.perform g).2).flatMap Effect.areas = [] := by
      unfold sends
      split <;> rfl
    rw [silent] at starts
    cases starts
  | _ => cases starts

/-! ## The institution is there at most once -/

theorem count_institution_pageInstalled (c : Console) (content : PageContent) :
    ((content.groups c.service c.scope ++ (c.group? .institution).toList).map
      SettingGroup.id).count .institution ≤ 1 := by
  have absent :
      ((content.groups c.service c.scope).map SettingGroup.id).count .institution = 0 := by
    rw [List.count_eq_zero]
    intro member
    obtain ⟨g, built, id⟩ := List.mem_map.1 member
    exact ne_institution_of_mem_groups built id
  rw [List.map_append, List.count_append, absent, Nat.zero_add]
  cases c.group? .institution with
  | none => exact Nat.zero_le 1
  | some g => exact List.count_le_length

theorem Regrouped.count_institution (h : Regrouped c e groups effects)
    (once : c.loaded.count .institution ≤ 1) :
    (groups.map SettingGroup.id).count .institution ≤ 1 := by
  unfold loaded at once
  cases h with
  | kept => exact once
  | reloaded => exact Nat.zero_le 1
  | pageInstalled => exact count_institution_pageInstalled c _
  | institutionsInstalled =>
    rw [List.map_append, List.count_append, map_id_removeGroup, List.count_erase_self]
    exact Nat.add_le_of_le_sub (Nat.le_refl 1) (Nat.sub_le_sub_right once 1)
  | operated => rwa [map_id_replaceGroup]
  | settled => rwa [map_id_replaceGroup]

/-- Whatever events come, the institution is there at most once. -/
theorem Reached.count_institution {first : Console} (h : Reached first c)
    (unloaded : first.groups = []) : c.loaded.count .institution ≤ 1 := by
  induction h with
  | opened =>
    unfold loaded
    rw [unloaded]
    exact Nat.zero_le 1
  | @handled c e now _ ih => exact (c.handle_groups e now).count_institution ih

theorem not_mem_removeGroup (once : c.loaded.count .institution ≤ 1)
    (it : g.id = .institution) : g ∉ removeGroup .institution c.groups := by
  intro member
  have named : GroupId.institution ∈ (c.groups.map SettingGroup.id).erase .institution := by
    rw [← map_id_removeGroup]
    exact List.mem_map.2 ⟨g, member, it⟩
  have counted : 0 < ((c.groups.map SettingGroup.id).erase .institution).count .institution :=
    List.count_pos_iff.2 named
  rw [List.count_erase_self] at counted
  unfold loaded at once
  omega

/-- A group that was rebuilt is fresh. -/
theorem isFresh_of_rebuilds (once : c.loaded.count .institution ≤ 1) {now : Moment}
    (member : g ∈ (c.handle e now).1.groups) (rebuilt : e.rebuilds g.id) : g.IsFresh := by
  cases e with
  | pageFetched result =>
    cases result with
    | error => cases rebuilt
    | ok content =>
      rcases List.mem_append.1 member with built | kept
      · exact (PageContent.groups_created built).2
      · have it := id_of_group? (Option.mem_toList.1 kept)
        rw [it] at rebuilt
        cases rebuilt
  | institutionsFetched result =>
    cases result with
    | error => cases rebuilt
    | ok choices =>
      have it := GroupId.area_eq_institutions_iff.1 (of_decide_eq_true rebuilt)
      rcases List.mem_append.1 member with kept | built
      · exact absurd kept (not_mem_removeGroup once it)
      · rw [List.mem_singleton.1 built]
        exact SettingGroup.isFresh_create _ _
  | _ => cases rebuilt

end Console

namespace Session

theorem groups_start (online : Bool) (service : Service) (scope : Scope) :
    (start online service scope).console.groups = [] := by
  cases online <;> rfl

theorem requests_start (online : Bool) (service : Service) (scope : Scope) :
    (start online service scope).requests = [] := by
  cases online <;> rfl

theorem Run.count_institution {online : Bool} {service : Service} {scope : Scope}
    {log : List Entry} {s : Session} (h : Run (start online service scope) log s) :
    s.console.loaded.count .institution ≤ 1 :=
  h.reached.count_institution (groups_start online service scope)

end Session

end SettingsConsole
