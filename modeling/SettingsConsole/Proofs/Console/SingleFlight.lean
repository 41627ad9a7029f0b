import Mathlib.Data.List.Nodup
import SettingsConsole.Proofs.Console.Rebuild

/-!
# One request at a time

At most one request of a group is out, and the loaded group of that name waits for it.  An operation
keeps that, since a group that waits refuses every operation, and so does a settled request.  What
breaks it is a fetch that comes in while the request of a group that it builds is out: the group
starts fresh and can send a second request.  A run keeps to one request at a time exactly if that
never happens (`singleFlight_iff`), and it never happens while no area is fetched twice at once.
-/

namespace SettingsConsole

/-- At most one request of a group is out, and the first group of that name waits for it. -/
structure Tracks (groups : List SettingGroup) (requests : List GroupId) : Prop where
  once : requests.Nodup
  waits : ∀ id ∈ requests, ∀ g ∈ groups.find? (·.id = id), g.isSaving

namespace Tracks

variable {groups : List SettingGroup} {requests : List GroupId}

theorem sublist (h : Tracks groups requests) {fewer : List GroupId}
    (part : fewer.Sublist requests) : Tracks groups fewer :=
  ⟨h.once.sublist part, fun id out => h.waits id (part.subset out)⟩

/-- A loaded group may be replaced, and its own request sent or settled. -/
theorem replace {g : SettingGroup} {requests' : List GroupId} (h : Tracks groups requests)
    (loaded : g.id ∈ groups.map SettingGroup.id) (once : requests'.Nodup)
    (others : ∀ id ∈ requests', id ≠ g.id → id ∈ requests)
    (own : g.id ∈ requests' → g.isSaving) :
    Tracks (Console.replaceGroup g groups) requests' := by
  refine ⟨once, fun id out g' found => ?_⟩
  by_cases it : id = g.id
  · rw [it, Console.find?_replaceGroup g loaded] at found
    cases found
    exact own (it ▸ out)
  · rw [Console.find?_replaceGroup_of_ne it] at found
    exact h.waits id (others id out it) g' found

theorem id_mem_of_find? {g : SettingGroup} (found : groups.find? (·.id = g.id) = some g) :
    g.id ∈ groups.map SettingGroup.id :=
  List.mem_map_of_mem (List.mem_of_find?_eq_some found)

/-- A group sends a request only if none of its requests is out. -/
theorem perform {g : SettingGroup} (h : Tracks groups requests)
    (loaded : groups.find? (·.id = g.id) = some g) (op : Operation) :
    Tracks (Console.replaceGroup (op.perform g).1 groups)
      (requests ++ (sends (op.perform g).2).filterMap Effect.saves?) := by
  have name := g.id_perform op
  have listed : (op.perform g).1.id ∈ groups.map SettingGroup.id := name ▸ id_mem_of_find? loaded
  rcases g.sends_perform op with silent | ⟨request, sent, its, free, waits⟩
  · rw [silent, List.filterMap_nil, List.append_nil]
    refine h.replace listed h.once (fun id out _ => out) fun out => ?_
    have saving := h.waits g.id (name ▸ out) g loaded
    rwa [SettingGroup.perform_of_isSaving saving]
  · have unsent : g.id ∉ requests := fun out => free (h.waits g.id out g loaded)
    rw [sent]
    show Tracks _ (requests ++ [request.group])
    rw [its]
    refine h.replace listed ?_ (fun id out other => ?_) fun _ => waits
    · rw [← List.concat_eq_append]
      exact h.once.concat unsent
    · rcases List.mem_append.1 out with before | it
      · exact before
      · exact absurd (List.mem_singleton.1 it) (name ▸ other)

theorem settle {g : SettingGroup} (h : Tracks groups requests)
    (loaded : groups.find? (·.id = g.id) = some g) (result : Except String Unit) :
    Tracks (Console.replaceGroup (g.settle result) groups) (requests.erase g.id) := by
  have name := g.id_settle result
  refine h.replace (name ▸ id_mem_of_find? loaded) (h.once.erase g.id)
    (fun id out _ => List.mem_of_mem_erase out) fun out => ?_
  rw [name] at out
  exact absurd out h.once.not_mem_erase

end Tracks

namespace Session

/-! ## Along a run -/

/-- At most one request of a group is out, and the loaded group of that name waits for it. -/
def SingleFlight (s : Session) : Prop := Tracks s.console.groups s.requests

/-- A fetch comes in and builds a group whose request is out. -/
def Entry.LosesTrack (x : Entry) : Prop :=
  ∃ g ∈ (x.session.after x.event x.now).console.groups,
    x.event.rebuilds g.id ∧ g.id ∈ x.session.requests

variable {online : Bool} {service : Service} {scope : Scope} {log : List Entry} {s : Session}
  {e : Event} {now : Moment}

/-- An event keeps the requests tracked unless it rebuilds a group whose request is out. -/
theorem SingleFlight.regrouped {groups : List SettingGroup} {effects : List Effect}
    (h : s.SingleFlight) (step : s.console.Regrouped e groups effects)
    (keeps : ∀ g ∈ groups, e.rebuilds g.id → g.id ∉ s.requests) :
    Tracks groups ((s.without e).requests ++ effects.filterMap Effect.saves?) := by
  have keeps {id : GroupId} {g : SettingGroup} (out : id ∈ s.requests)
      (found : g ∈ groups.find? (·.id = id)) : ¬ e.rebuilds id := by
    obtain rfl : g.id = id := by simpa using List.find?_some found
    exact fun rebuilt => keeps g (List.mem_of_find?_eq_some found) rebuilt out
  have fewer := requests_without_sublist s e
  cases step with
  | kept =>
    rw [List.filterMap_nil, List.append_nil]
    exact h.sublist fewer
  | reloaded =>
    rw [List.filterMap_cons_none rfl, List.filterMap_nil, List.append_nil]
    exact ⟨h.once.sublist fewer, fun _ _ g found => (Option.not_mem_none g found).elim⟩
  | pageInstalled =>
    rw [List.filterMap_nil, List.append_nil]
    refine ⟨h.once, fun id out g found => ?_⟩
    have it : id = .institution := by
      simpa [Event.rebuilds, GroupId.area_eq_page_iff] using keeps out found
    rw [it, Console.find?_pageInstalled] at found
    exact h.waits _ (it ▸ out) g found
  | institutionsInstalled =>
    rw [List.filterMap_nil, List.append_nil]
    refine ⟨h.once, fun id out g found => ?_⟩
    have other : id ≠ .institution := by
      simpa [Event.rebuilds, GroupId.area_eq_institutions_iff] using keeps out found
    rw [Console.find?_institutionsInstalled s.console _ other] at found
    exact h.waits id out g found
  | @operated key id op g asked loaded =>
    obtain rfl := Console.id_of_group? loaded
    exact h.perform loaded op
  | @settled id result g loaded =>
    obtain rfl := Console.id_of_group? loaded
    rw [List.filterMap_nil, List.append_nil]
    exact h.settle loaded result

theorem SingleFlight.after (h : s.SingleFlight) (keeps : ¬ Entry.LosesTrack ⟨s, e, now⟩) :
    (s.after e now).SingleFlight :=
  h.regrouped (s.console.handle_groups e now) fun g member rebuilt out =>
    keeps ⟨g, member, rebuilt, out⟩

theorem singleFlight_start (online : Bool) (service : Service) (scope : Scope) :
    (start online service scope).SingleFlight := by
  unfold SingleFlight
  rw [requests_start]
  exact ⟨List.nodup_nil, nofun⟩

theorem Run.singleFlight (h : Run (start online service scope) log s)
    (keeps : ∀ x ∈ log, ¬ x.LosesTrack) : ∀ t ∈ states log s, t.SingleFlight :=
  h.invariant SingleFlight (singleFlight_start online service scope)
    fun x member _ single => single.after (keeps x member)

/-- A group that is rebuilt while its request is out does not wait for it. -/
theorem Run.not_singleFlight (h : Run (start online service scope) log s) {x : Entry}
    (member : x ∈ log) (loses : x.LosesTrack) :
    ¬ (x.session.after x.event x.now).SingleFlight := by
  intro single
  obtain ⟨⟨earlier, run⟩, -, -⟩ := h.of_mem member
  obtain ⟨g, built, rebuilt, out⟩ := loses
  obtain ⟨first, found⟩ := Console.group?_of_mem_loaded
    (List.mem_map_of_mem built : g.id ∈ (x.session.after x.event x.now).console.loaded)
  have same : first.id = g.id := Console.id_of_group? found
  have fresh : first.IsFresh := Console.isFresh_of_rebuilds run.count_institution
    (List.mem_of_find?_eq_some found) (same ▸ rebuilt)
  have still_out : g.id ∈ (x.session.after x.event x.now).requests := by
    rw [requests_after]
    unfold without
    rw [Event.settles?_of_rebuilds rebuilt]
    exact List.mem_append_left _ out
  have waits : first.phase = .saving :=
    of_decide_eq_true (single.waits g.id still_out first found)
  rw [fresh.1] at waits
  cases waits

/-! ## While no area is fetched twice at once -/

/-- Every request is one of a loaded group, and no fetch is out that a loaded group would be built
from. -/
structure Paced (s : Session) : Prop where
  single : s.SingleFlight
  loaded : ∀ id ∈ s.requests, id ∈ s.console.loaded
  fetched : ∀ id ∈ s.console.loaded, id.area ∉ s.awaited

theorem Paced.not_rebuilds (h : s.Paced) (accepted : s.accepts e) {id : GroupId}
    (member : id ∈ s.console.loaded) : ¬ e.rebuilds id := by
  intro rebuilt
  unfold accepts at accepted
  rw [Event.area?_of_rebuilds rebuilt, Bool.and_eq_true] at accepted
  exact h.fetched id member (of_decide_eq_true accepted.1)

theorem Paced.after (h : s.Paced) (accepted : s.accepts e) (once : s.awaited.Nodup) :
    (s.after e now).Paced := by
  have step := s.console.handle_groups e now
  refine ⟨h.single.after ?_, fun id out => ?_, fun id member out => ?_⟩
  · rintro ⟨g, -, rebuilt, out⟩
    exact h.not_rebuilds accepted (h.loaded g.id out) rebuilt
  · rw [requests_after] at out
    rcases List.mem_append.1 out with before | sent
    · have before := (requests_without_sublist s e).subset before
      have member := h.loaded id before
      obtain ⟨g, found⟩ := Console.group?_of_mem_loaded member
      rcases step.loaded_of_not_rebuilds member (h.not_rebuilds accepted member) with
        stays | unsaved
      · exact stays
      · exact absurd (Console.isSaving_of_group? found (h.single.waits id before g found)) unsaved
    · exact step.loaded_of_sent sent
  · rw [awaited_after] at out
    rcases List.mem_append.1 out with before | starts
    · rcases step.rebuilds_or_loaded member with rebuilt | stayed
      · exact not_mem_awaited_without once (Event.area?_of_rebuilds rebuilt) before
      · exact h.fetched id stayed ((awaited_without_sublist s e).subset before)
    · rw [Console.loaded, console_after, step.eq_nil_of_fetches starts] at member
      cases member

theorem paced_start (online : Bool) (service : Service) (scope : Scope) :
    (start online service scope).Paced := by
  refine ⟨singleFlight_start online service scope, ?_, ?_⟩
  · rw [requests_start]
    nofun
  · rw [Console.loaded, groups_start]
    nofun

theorem Run.paced (h : Run (start online service scope) log s)
    (apart : ∀ t ∈ states log s, t.awaited.Nodup) : ∀ t ∈ states log s, t.Paced :=
  h.invariant Paced (paced_start online service scope) fun x member accepted paced =>
    paced.after accepted (apart x.session (session_mem_states member))

/-! ## The exact condition -/

/-- A run keeps to one request of a group at a time, with the loaded group waiting for it, exactly
if no fetch builds a group whose request is out; it does so while no area is fetched twice at
once. -/
theorem singleFlight_iff (h : Run (start online service scope) log s) :
    ((∀ t ∈ states log s, t.SingleFlight) ↔ ∀ x ∈ log, ¬ x.LosesTrack) ∧
      ((∀ t ∈ states log s, t.awaited.Nodup) → ∀ t ∈ states log s, t.SingleFlight) := by
  refine ⟨⟨fun single x member loses => ?_, h.singleFlight⟩, fun apart t member => ?_⟩
  · obtain ⟨-, -, after⟩ := h.of_mem member
    exact h.not_singleFlight member loses (single _ after)
  · exact (h.paced apart t member).single

/-- The wiki is switched on, tried again while that is being saved, and saved. -/
theorem singleFlight_iff_wiki :
    let events : List Event := [.saveSettled .wiki (.ok ()), .key (.char ' '), .key (.char ' '),
      .key .tab, .key .tab, .pageFetched (.ok smallPage)]
    let (log, s) := smallRun events
    Run smallStart log s ∧ (∃ t ∈ states log s, t.requests = [.wiki]) ∧
      (∀ t ∈ states log s, t.awaited.Nodup) ∧ ∀ t ∈ states log s, t.SingleFlight := by
  intro events
  have run : Run smallStart (smallRun events).1 (smallRun events).2 := run_smallRun (by decide)
  exact ⟨run, by decide, by decide, (singleFlight_iff run).2 (by decide)⟩

/-- The page is reloaded while its first load is still out, and the second content rebuilds the wiki
while its request is out: then two requests of the wiki are out at once. -/
theorem not_singleFlight_of_overlapping_reloads :
    let events : List Event := [.key (.char ' '), .pageFetched (.ok smallPage), .key (.char ' '),
      .key .tab, .key .tab, .pageFetched (.ok smallPage), .key (.char 'r')]
    let (log, s) := smallRun events
    Run smallStart log s ∧ s.requests = [.wiki, .wiki] ∧
      ¬ ∀ t ∈ states log s, t.SingleFlight := by
  intro events
  have run : Run smallStart (smallRun events).1 (smallRun events).2 := run_smallRun (by decide)
  have twice : (smallRun events).2.requests = [.wiki, .wiki] := by decide
  refine ⟨run, twice, fun single => ?_⟩
  have once : (smallRun events).2.requests.Nodup := (single _ List.mem_cons_self).once
  rw [twice] at once
  exact absurd once (by decide)

end Session

end SettingsConsole
