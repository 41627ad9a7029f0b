import SettingsConsole.Proofs.Console.SingleFlight

/-!
# Unsaved edits

An unsaved value goes away with the user's consent: it was saved, edited again or declined, or the
user left the page in spite of the warning (`Consent`).  Every other event keeps it, except for a
fetch that comes in and rebuilds its group (`unsaved_kept_unless_rebuilt`).  The warning is given
when a reload starts, so an edit is at risk only if it is made between the outcomes of two fetches
of its area that were out together.
-/

namespace SettingsConsole

namespace Console

/-- The events by which a user lets go of an unsaved value of a setting. -/
inductive Consent (c : Console) (id : GroupId) (key : String) : Event → Prop
  | saved : Consent c id key (.saveSettled id (.ok ()))
  | edited {k op} : c.operation? k = some (id, op) → op.edits? = some key →
      Consent c id key (.key k)
  | declined {k op} : c.operation? k = some (id, op) → op.declines → Consent c id key (.key k)
  | left {warnings action rest} : c.dialogs = .exitGuard warnings action :: rest →
      Consent c id key (.key (.char 'y'))

variable {c : Console} {g : SettingGroup} {j : Nat} {x : Setting}

/-- Leaving the page asks first while something is unsaved. -/
theorem unsavedWarnings_ne_nil (member : g ∈ c.groups) (at_j : g.settings[j]? = some x)
    (dirty : x.isDirty) : c.unsavedWarnings ≠ [] := by
  have unsaved : g.isDirty :=
    SettingGroup.isDirty_iff.2 ⟨x, List.mem_of_getElem? at_j, Setting.isDirty_iff.1 dirty⟩
  exact fun silent => unsavedWarnings_eq_nil_iff.1 silent g member unsaved

theorem find?_of_count_le_one {id : GroupId} {groups : List SettingGroup}
    (once : (groups.map SettingGroup.id).count id ≤ 1) (member : g ∈ groups) (it : g.id = id) :
    groups.find? (·.id = id) = some g := by
  induction groups with
  | nil => cases member
  | cons h rest ih =>
    by_cases at_h : h.id = id
    · rw [List.find?_cons_of_pos (by simpa using at_h)]
      rcases List.mem_cons.1 member with rfl | behind
      · rfl
      · have again : 0 < (rest.map SettingGroup.id).count id :=
          List.count_pos_iff.2 (List.mem_map.2 ⟨g, behind, it⟩)
        rw [List.map_cons, at_h, List.count_cons_self] at once
        omega
    · rw [List.find?_cons_of_neg (by simpa using at_h)]
      rcases List.mem_cons.1 member with rfl | behind
      · exact absurd it at_h
      · rw [List.map_cons, List.count_cons_of_ne at_h] at once
        exact ih once behind

/-- What is unsaved in a group that is not rebuilt stays, unless the user lets go of it. -/
theorem Regrouped.keeps_unsaved {e : Event} {groups : List SettingGroup} {effects : List Effect}
    (step : Regrouped c e groups effects) (once : c.loaded.count .institution ≤ 1)
    (member : g ∈ c.groups) (at_j : g.settings[j]? = some x) (dirty : x.isDirty)
    (unasked : ¬ c.Consent g.id x.key e) (rebuilt : ¬ e.rebuilds g.id) :
    ∃ g' ∈ groups, g'.id = g.id ∧ g'.settings[j]? = some x := by
  have replaced {first h : SettingGroup} (loaded : c.group? first.id = some first)
      (name : h.id = first.id) (same : g = first → h.settings[j]? = some x) :
      ∃ g' ∈ replaceGroup h c.groups, g'.id = g.id ∧ g'.settings[j]? = some x := by
    rcases mem_replaceGroup (name ▸ loaded) member with ⟨rfl, here⟩ | stays
    · exact ⟨h, here, name, same rfl⟩
    · exact ⟨g, stays, rfl, at_j⟩
  cases step with
  | kept => exact ⟨g, member, rfl, at_j⟩
  | reloaded leaves =>
    cases leaves with
    | due clean => exact absurd clean (unsavedWarnings_ne_nil member at_j dirty)
    | asked _ clean => exact absurd clean (unsavedWarnings_ne_nil member at_j dirty)
    | agreed front => exact absurd (.left front) unasked
  | pageInstalled =>
    have it : g.id = .institution := by
      simpa [Event.rebuilds, GroupId.area_eq_page_iff] using rebuilt
    have found : c.group? .institution = some g := find?_of_count_le_one once member it
    rw [found]
    exact ⟨g, List.mem_append_right _ List.mem_cons_self, rfl, at_j⟩
  | institutionsInstalled =>
    have other : g.id ≠ .institution := by
      simpa [Event.rebuilds, GroupId.area_eq_institutions_iff] using rebuilt
    have stays : g ∈ removeGroup .institution c.groups := by
      rw [removeGroup_eq_eraseP]
      exact (List.mem_eraseP_of_neg (by simpa using other)).2 member
    exact ⟨g, List.mem_append_left _ stays, rfl, at_j⟩
  | @operated key id op first asked loaded =>
    obtain rfl := id_of_group? loaded
    refine replaced loaded (first.id_perform op) ?_
    rintro rfl
    exact (g.performed op).getElem?_settings at_j (fun edit => unasked (.edited asked edit))
      fun decline => unasked (.declined asked decline)
  | @settled id result first loaded =>
    obtain rfl := id_of_group? loaded
    refine replaced loaded (first.id_settle result) ?_
    rintro rfl
    cases result with
    | ok => exact absurd .saved unasked
    | error => exact at_j

end Console

namespace Session

/-- An unsaved value is kept by every event that the user does not let go of it by, exactly unless
the event rebuilds its group, which no event does while no area is fetched twice at once. -/
theorem unsaved_kept_unless_rebuilt {online : Bool} {service : Service} {scope : Scope}
    {log : List Entry} {s : Session} (h : Run (start online service scope) log s)
    {e : Event} (now : Moment) (accepted : s.accepts e) {g : SettingGroup}
    (member : g ∈ s.console.groups) {j : Nat} {x : Setting} (at_j : g.settings[j]? = some x)
    (dirty : x.isDirty) (unasked : ¬ s.console.Consent g.id x.key e) :
    (¬ e.rebuilds g.id → ∃ g' ∈ (s.after e now).console.groups,
      g'.id = g.id ∧ g'.settings[j]? = some x) ∧
    (e.rebuilds g.id → ∀ g' ∈ (s.after e now).console.groups,
      g'.id = g.id → ∀ y ∈ g'.settings, ¬ y.isDirty) ∧
    ((∀ t ∈ states log s, t.awaited.Nodup) → ¬ e.rebuilds g.id) := by
  have once := h.count_institution
  refine ⟨fun kept => ?_, fun rebuilt g' built name => ?_, fun apart => ?_⟩
  · exact (s.console.handle_groups e now).keeps_unsaved once member at_j dirty unasked kept
  · exact (Console.isFresh_of_rebuilds once built (name ▸ rebuilt)).2
  · have paced := h.paced apart s List.mem_cons_self
    exact paced.not_rebuilds accepted (List.mem_map_of_mem member)

/-- The institutions arrive while an add-on is switched on and not saved. -/
theorem unsaved_kept_unless_rebuilt_dropbox :
    let events : List Event := [.key (.char ' '), .key .tab, .pageFetched (.ok smallPage)]
    let (log, s) := smallRun events
    let now : Moment := ⟨0, 2026, 3, 14, 9, 0⟩
    let x : Setting := { Setting.flag "dropbox" "Dropbox" false with current := .flag true }
    Run smallStart log s ∧
      (∃ g ∈ s.console.groups, g.id = .addons ∧ g.settings[0]? = some x) ∧
      ∃ g ∈ (s.after (.institutionsFetched (.ok ⟨[], none⟩)) now).console.groups,
        g.id = .addons ∧ g.settings[0]? = some x := by
  intro events
  have run : Run smallStart (smallRun events).1 (smallRun events).2 := run_smallRun (by decide)
  have accepted : (smallRun events).2.accepts (.institutionsFetched (.ok ⟨[], none⟩)) := by decide
  have edited : ∃ g ∈ (smallRun events).2.console.groups, g.id = .addons ∧ g.settings[0]? =
    some { Setting.flag "dropbox" "Dropbox" false with current := .flag true } := by decide
  refine ⟨run, edited, ?_⟩
  obtain ⟨g, member, name, at_0⟩ := edited
  obtain ⟨kept, -, -⟩ := unsaved_kept_unless_rebuilt run ⟨0, 2026, 3, 14, 9, 0⟩ accepted member at_0
    rfl nofun
  rw [name] at kept
  exact kept (by decide)

/-- The page is reloaded while its first load is still out, and the second content takes an edit of
an add-on away that was made in between. -/
theorem unsaved_lost_of_overlapping_reloads :
    let events : List Event := [.key (.char ' '), .key .tab, .pageFetched (.ok smallPage),
      .key (.char 'r')]
    let (log, s) := smallRun events
    let e : Event := .pageFetched (.ok smallPage)
    Run smallStart log s ∧ s.accepts e ∧ (∀ key, ¬ s.console.Consent .addons key e) ∧
      (∃ g ∈ s.console.groups, g.id = .addons ∧ ∃ x ∈ g.settings, x.isDirty) ∧
      ∀ g ∈ (s.after e ⟨0, 2026, 3, 14, 9, 0⟩).console.groups, ∀ x ∈ g.settings, ¬ x.isDirty := by
  intro events
  have run : Run smallStart (smallRun events).1 (smallRun events).2 := run_smallRun (by decide)
  exact ⟨run, by decide, nofun, by decide, by decide⟩

end Session

end SettingsConsole
