import Mathlib.Data.List.Nodup
import SettingsConsole.Proofs.Console.LoadOrder
import SettingsConsole.Proofs.Console.Reload
import SettingsConsole.Proofs.Console.Surface

/-!
# The messages of the areas

A fetch that fails leaves a message in its area, and only a reload takes it away.  So an area has a
message exactly if one of its fetches failed since the last reload started (`Session.Run.message?`).
While no area is fetched twice at once there is one such fetch at most, and the message is about it;
when reloads overlap, the failure of the earlier fetch outlives the success of the later one
(`Session.failure_outlives_success`).
-/

namespace SettingsConsole

/-- What is said when an area could not be fetched. -/
def PageArea.failureText : PageArea → String
  | .page => "Could not retrieve project settings."
  | .subscriptions => "Could not retrieve notification settings."
  | .wiki => "Could not retrieve wiki settings."
  | .institutions => "Could not retrieve institution settings."

namespace Console

/-- The message of an area. -/
def message? (c : Console) : PageArea → Option String
  | .page => c.pageError
  | .subscriptions => c.subscriptionsMessage
  | .wiki => c.wikiMessage
  | .institutions => c.institutionMessage

variable {c c' : Console} {e : Event} {a b : PageArea} {effects : List Effect}

/-! ## One event -/

theorem message?_surface (c : Console) (a : PageArea) : c.surface.message? a = c.message? a := by
  cases a <;> rfl

theorem Moves.message? {key : Key} (h : Moves c key c') : c'.message? a = c.message? a := by
  obtain ⟨tab, selection, rfl, -⟩ := h.exists_eq
  cases a <;> rfl

/-- An event that reports no fetch takes all messages away, or none. -/
theorem Surfaced.message? (h : Surfaced c e c' effects) :
    c'.message? a = if .load ∈ effects then none else c.message? a := by
  cases h with
  | kept same silent => rw [if_neg silent, ← c'.message?_surface, same, message?_surface]
  | reloaded _ _ same =>
    rw [if_pos List.mem_cons_self, ← c'.message?_surface, same]
    cases a <;> rfl
  | moved _ moves => rw [if_neg List.not_mem_nil, moves.message?]

/-- The outcome of a fetch leaves the message of its area if it failed, and no other. -/
theorem message?_handle (area : e.area? = some a) (now : Moment) :
    (c.handle e now).1.message? b =
      if b = a ∧ e.failedArea?.isSome then some a.failureText else c.message? b := by
  cases Event.reports_of_area? area with
  | page result | subscriptions result | wiki result | institutions result =>
    cases result <;> cases b <;> rfl

theorem effects_of_area? (area : e.area? = some a) (now : Moment) : (c.handle e now).2 = [] := by
  cases Event.reports_of_area? area <;> rfl

theorem Surfaced.online (h : Surfaced c e c' effects) (loads : .load ∈ effects) : c.online := by
  cases h with
  | kept _ silent => exact absurd loads silent
  | reloaded online => exact online
  | moved => cases loads

theorem online_of_loads {now : Moment} (loads : .load ∈ (c.handle e now).2) : c.online := by
  cases area : e.area? with
  | none => exact (c.surfaced now area).online loads
  | some a =>
    rw [effects_of_area? area] at loads
    cases loads

end Console

namespace Session

variable {online : Bool} {service : Service} {scope : Scope} {first s : Session}
  {log : List Entry} {a : PageArea} {x : Entry}

/-- The outcomes of the fetches of an area since the last reload started, the latest first. -/
def outcomesSinceReload (a : PageArea) (log : List Entry) : List Event :=
  ((log.takeWhile fun x => !x.loads).map Entry.event).filter fun e => e.area? = some a

theorem outcomesSinceReload_of_loads (loads : x.loads) :
    outcomesSinceReload a (x :: log) = [] := by
  simp [outcomesSinceReload, loads]

theorem outcomesSinceReload_of_area? (stays : x.loads = false) (area : x.event.area? = some a) :
    outcomesSinceReload a (x :: log) = x.event :: outcomesSinceReload a log := by
  simp [outcomesSinceReload, stays, area]

theorem outcomesSinceReload_of_ne (stays : x.loads = false) (other : x.event.area? ≠ some a) :
    outcomesSinceReload a (x :: log) = outcomesSinceReload a log := by
  simp [outcomesSinceReload, stays, other]

theorem Entry.loads_of_area? (area : x.event.area? = some a) : x.loads = false := by
  simp [Entry.loads, Console.effects_of_area? area]

/-! ## Along a run -/

theorem message?_start (service : Service) (scope : Scope) (a : PageArea) :
    (start true service scope).console.message? a = none := by
  cases a <;> rfl

/-- An area has a message exactly if one of its fetches failed since the last reload started. -/
theorem Run.message? (h : Run (start true service scope) log s) :
    s.console.message? a =
      if (outcomesSinceReload a log).any (·.failedArea?.isSome) then some a.failureText
      else none := by
  induction h with
  | opened => exact message?_start service scope a
  | @handled log s e now run accepted ih =>
    rw [console_after]
    let x : Entry := ⟨s, e, now⟩
    cases area : e.area? with
    | none =>
      have step := (s.console.surfaced now area).message? (a := a)
      rw [step]
      by_cases loads : .load ∈ (s.console.handle e now).2
      · have fresh : outcomesSinceReload a (x :: log) = [] :=
          outcomesSinceReload_of_loads (decide_eq_true loads)
        rw [if_pos loads, fresh]
        rfl
      · have other : x.event.area? ≠ some a := by
          rw [area]
          nofun
        rw [if_neg loads, outcomesSinceReload_of_ne (decide_eq_false loads) other, ih]
    | some b =>
      have stays : x.loads = false := Entry.loads_of_area? area
      rw [Console.message?_handle area]
      by_cases same : b = a
      · subst same
        rw [outcomesSinceReload_of_area? stays area, List.any_cons, ih]
        cases e.failedArea?.isSome <;> simp
      · have other : x.event.area? ≠ some a := fun it => same (Option.some.inj (area.symm.trans it))
        rw [outcomesSinceReload_of_ne stays other, if_neg fun it => same it.1.symm, ih]

theorem areas_of_not_mem_load {effects : List Effect} (silent : .load ∉ effects) :
    effects.flatMap Effect.areas = [] := by
  rw [List.flatMap_eq_nil_iff]
  intro effect member
  cases effect with
  | load => exact absurd member silent
  | send => rfl

theorem awaited_after_of_not_loads (s : Session) (e : Event) (now : Moment)
    (silent : .load ∉ (s.console.handle e now).2) :
    (s.after e now).awaited = (s.without e).awaited := by
  rw [awaited_after, areas_of_not_mem_load silent, List.append_nil]

/-- Without a client nothing is ever fetched. -/
theorem Run.awaited_of_offline (h : Run (start false service scope) log s) : s.awaited = [] := by
  induction h with
  | opened => rfl
  | @handled log s e now run accepted ih =>
    have silent : .load ∉ (s.console.handle e now).2 := fun loads => by
      have offline : s.console.online = false := run.online
      rw [Console.online_of_loads loads] at offline
      cases offline
    rw [awaited_after_of_not_loads s e now silent]
    exact List.sublist_nil.1 (ih ▸ awaited_without_sublist s e)

/-- While no area is fetched twice at once, the fetches of an area since the last reload are one:
it is out, or its outcome has come. -/
theorem Run.outcomes_add_awaited (h : Run (start true service scope) log s)
    (once : ∀ t ∈ states log s, t.awaited.Nodup) :
    (outcomesSinceReload a log).length + s.awaited.count a ≤ 1 := by
  induction h with
  | opened => cases a <;> exact Nat.le_refl 1
  | @handled log s e now run accepted ih =>
    have earlier := ih fun t older => once t (List.mem_cons_of_mem _ older)
    let x : Entry := ⟨s, e, now⟩
    cases area : e.area? with
    | none =>
      by_cases loads : .load ∈ (s.console.handle e now).2
      · have fresh : outcomesSinceReload a (x :: log) = [] :=
          outcomesSinceReload_of_loads (decide_eq_true loads)
        rw [fresh, List.length_nil, Nat.zero_add]
        exact List.nodup_iff_count_le_one.1 (once _ List.mem_cons_self) a
      · have other : x.event.area? ≠ some a := by
          rw [area]
          nofun
        have same : (s.without e).awaited = s.awaited := by
          unfold without
          rw [area]
          rfl
        rw [outcomesSinceReload_of_ne (decide_eq_false loads) other,
          awaited_after_of_not_loads s e now loads, same]
        exact earlier
    | some b =>
      have stays : x.loads = false := Entry.loads_of_area? area
      have out : b ∈ s.awaited := by
        unfold accepts at accepted
        rw [area, Bool.and_eq_true] at accepted
        exact of_decide_eq_true accepted.1
      have arrived : (s.after e now).awaited = s.awaited.erase b := by
        rw [awaited_after_of_not_loads s e now (of_decide_eq_false stays)]
        unfold without
        rw [area]
        rfl
      rw [arrived]
      by_cases same : b = a
      · subst same
        have counted : 0 < s.awaited.count b := List.count_pos_iff.2 out
        rw [outcomesSinceReload_of_area? stays area, List.length_cons, List.count_erase_self]
        omega
      · have other : x.event.area? ≠ some a := fun it => same (Option.some.inj (area.symm.trans it))
        rw [outcomesSinceReload_of_ne stays other, List.count_erase_of_ne fun it => same it.symm]
        exact earlier

/-- An outcome of a fetch comes in only if there is a client. -/
theorem Run.online_of_outcome (h : Run (start online service scope) log s) {e : Event}
    (member : e ∈ outcomesSinceReload a log) : online = true := by
  cases online with
  | true => rfl
  | false =>
    obtain ⟨listed, area⟩ := List.mem_filter.1 member
    obtain ⟨x, recent, rfl⟩ := List.mem_map.1 listed
    obtain ⟨⟨earlier, run⟩, accepted, -⟩ := h.of_mem (List.takeWhile_subset _ recent)
    unfold accepts at accepted
    rw [of_decide_eq_true area, run.awaited_of_offline] at accepted
    cases accepted

/-- After the outcome of a fetch with no reload started since, the area has its message if the fetch
failed.  If it succeeded, the area has none exactly if no fetch of the area whose outcome came in
before, since the same reload, had failed.  While no area is fetched twice at once, the message is
about the latest outcome. -/
theorem message_of_latest_unless_failed_before (h : Run (start online service scope) log s)
    {e : Event} {before : List Event} (latest : outcomesSinceReload a log = e :: before) :
    (e.failedArea? = some a → s.console.message? a = some a.failureText) ∧
    (e.failedArea? = none →
      (s.console.message? a = none ↔ ∀ f ∈ before, f.failedArea? = none)) ∧
    ((∀ t ∈ states log s, t.awaited.Nodup) →
      (s.console.message? a = none ↔ e.failedArea? = none)) := by
  have client := h.online_of_outcome (latest ▸ List.mem_cons_self)
  subst client
  have said := h.message? (a := a)
  rw [latest] at said
  have silent : s.console.message? a = none ↔ ∀ f ∈ e :: before, f.failedArea? = none := by
    rw [said]
    simp
  rw [List.forall_mem_cons] at silent
  refine ⟨fun failed => ?_, fun fetched => ?_, fun once => ?_⟩
  · rw [said, List.any_cons, failed]
    rfl
  · rw [silent]
    exact and_iff_right fetched
  · have only := h.outcomes_add_awaited (a := a) once
    rw [latest, List.length_cons] at only
    have first : before = [] := List.length_eq_zero_iff.1 (by omega)
    rw [silent, first]
    exact and_iff_left nofun

/-- The permissions of the wiki cannot be fetched, and after a reload they can. -/
theorem message_of_latest_unless_failed_before_wiki :
    let ended := smallRun [.wikiFetched (.ok []), .key (.char 'r'),
      .institutionsFetched (.ok ⟨[], none⟩), .wikiFetched (.error "timeout"),
      .subscriptionsFetched (.ok []), .pageFetched (.ok smallPage)]
    Run smallStart ended.1 ended.2 ∧ (∀ t ∈ states ended.1 ended.2, t.awaited.Nodup) ∧
      (∃ t ∈ states ended.1 ended.2, t.console.message? .wiki ≠ none) ∧
      ended.2.console.message? .wiki = none := by
  intro ended
  have run : Run smallStart ended.1 ended.2 := run_smallRun (by decide)
  have latest : outcomesSinceReload .wiki ended.1 = [.wikiFetched (.ok [])] := rfl
  have once : ∀ t ∈ states ended.1 ended.2, t.awaited.Nodup := by decide
  obtain ⟨-, -, about⟩ := message_of_latest_unless_failed_before run latest
  exact ⟨run, once, by decide, (about once).2 rfl⟩

/-- Two loads overlap, and the earlier fetch of the page fails.  The later one brings the content of
the page, and the message about the earlier one stays over it. -/
theorem failure_outlives_success :
    let ended := smallRun [.pageFetched (.ok smallPage), .pageFetched (.error "timeout"),
      .key (.char 'r')]
    Run smallStart ended.1 ended.2 ∧
      outcomesSinceReload .page ended.1 =
        [.pageFetched (.ok smallPage), .pageFetched (.error "timeout")] ∧
      ended.2.console.groups ≠ [] ∧
      ended.2.console.message? .page = some "Could not retrieve project settings." := by
  intro ended
  exact ⟨run_smallRun (by decide), rfl, by decide, rfl⟩

end Session

end SettingsConsole
