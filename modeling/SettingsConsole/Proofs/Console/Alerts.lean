import SettingsConsole.Proofs.Console.ExitGuard
import SettingsConsole.Proofs.Console.Status

/-!
# Alerts about failed saves

A request that failed puts one alert at the end of the queue, whatever has become of its group in
the meantime, and a request that succeeded has the page reloaded in time.  An alert leaves the queue
from the front only, when a key closes it.  So the alerts that were raised since the console was
opened are those that were closed, followed by those that still wait
(`Session.settlements_accounted_for`).
-/

namespace SettingsConsole

/-- The alert that a dialog shows. -/
def Dialog.alert? : Dialog → Option Alert
  | .alert shown => some shown
  | .confirm _ | .exitGuard _ _ | .redirect _ | .editText _ _ _ _ => none

/-- Whether an event reports that a request failed. -/
def Event.isFailure : Event → Bool
  | .saveSettled _ (.error _) => true
  | _ => false

theorem filterMap_alert?_opens (result : Except Refusal EditOutcome) :
    (opens result).filterMap Dialog.alert? = [] := by
  unfold opens
  split <;> rfl

namespace Console

/-- The alerts in the queue, the one to be shown first at the front. -/
def alerts (c : Console) : List Alert := c.dialogs.filterMap Dialog.alert?

/-- The address of the support that is named when a save of a group failed. -/
def supportFor (c : Console) (id : GroupId) : String :=
  match c.group? id with
  | some g => g.profile.support
  | none => c.scope.support

/-- The alert that an event raises. -/
def raised? (c : Console) : Event → Option Alert
  | .saveSettled id (.error _) => some (c.failureAlert id)
  | _ => none

/-- The alert that an event closes. -/
def acknowledged? (c : Console) : Event → Option Alert
  | .key key =>
    match c.dialogs with
    | .alert alert :: _ =>
      if key = .enter ∨ key = .char 'n' ∨ key = .escape then some alert else none
    | _ => none
  | _ => none

variable (c : Console)

theorem isSome_raised? (e : Event) : (c.raised? e).isSome = e.isFailure := by
  unfold raised? Event.isFailure
  split <;> rfl

/-- The alert about a failure names the support in its message. -/
theorem failureAlert_eq (id : GroupId) :
    ∃ text, c.failureAlert id = .requestFailed text (c.supportFor id) ∧
      (c.failureAlert id).message =
        text ++ " If this persists please contact " ++ c.supportFor id ++ "." := by
  unfold failureAlert supportFor
  cases c.group? id with
  | none => exact ⟨_, rfl, rfl⟩
  | some g => exact ⟨_, rfl, rfl⟩

/-! ## What a settled request does -/

theorem map_replaceGroup {α : Type} (f : SettingGroup → α) {g h : SettingGroup}
    {groups : List SettingGroup} (found : groups.find? (·.id = h.id) = some g)
    (same : f h = f g) : (replaceGroup h groups).map f = groups.map f := by
  induction groups with
  | nil => rfl
  | cons x rest ih =>
    unfold replaceGroup
    by_cases here : x.id = h.id
    · rw [List.find?_cons_of_pos (by simpa using here)] at found
      obtain rfl := Option.some.inj found
      rw [if_pos here, List.map_cons, List.map_cons, same]
    · rw [List.find?_cons_of_neg (by simpa using here)] at found
      rw [if_neg here, List.map_cons, List.map_cons, ih found]

theorem dialogs_saveSettled_error (id : GroupId) (words : String) (now : Nat) :
    (c.saveSettled id (.error words) now).dialogs = c.dialogs ++ [.alert (c.failureAlert id)] := by
  rw [saveSettled_eq]
  rfl

theorem reloadAt_saveSettled_error (id : GroupId) (words : String) (now : Nat) :
    (c.saveSettled id (.error words) now).reloadAt = c.reloadAt := by
  rw [saveSettled_eq]
  show c.reloadAt.merge min none = c.reloadAt
  cases c.reloadAt <;> rfl

/-- A failure leaves every value of every group. -/
theorem values_saveSettled_error (id : GroupId) (words : String) (now : Nat) :
    (c.saveSettled id (.error words) now).groups.map (fun g => (g.id, g.settings)) =
      c.groups.map fun g => (g.id, g.settings) := by
  rw [groups_saveSettled]
  cases waits : c.waiting? id with
  | none => rfl
  | some g =>
    have loaded := (waiting?_eq_some_iff.1 waits).1
    obtain rfl := id_of_group? loaded
    exact map_replaceGroup (h := g.fail.1) _ loaded rfl

theorem saveSettled_ok (id : GroupId) (now : Nat) :
    (c.saveSettled id (.ok ()) now).dialogs = c.dialogs ∧
      ∃ t, (c.saveSettled id (.ok ()) now).reloadAt = some t ∧ t ≤ now + c.reloadDelay id := by
  obtain ⟨t, pending, bound, -⟩ := c.scheduleReload_le (c.reloadDelay id) now
  rw [scheduleReload_eq] at pending
  rw [saveSettled_eq]
  exact ⟨List.append_nil _, t, pending, bound⟩

/-! ## How alerts come and go -/

variable {c} {e : Event} {core : Core} {effects : List Effect} {key : Key} {alert : Alert}
  {rest : List Dialog}

theorem eq_of_dialogAnswer?_alert {accepted : Bool}
    (h : dialogAnswer? (.alert alert) key = some accepted) :
    key = .enter ∨ key = .char 'n' ∨ key = .escape := by
  unfold dialogAnswer? at h
  split at h <;> simp_all

theorem pressed_of_alert (front : c.dialogs = .alert alert :: rest)
    (closes : key = .enter ∨ key = .char 'n' ∨ key = .escape) (now : Nat) :
    (c.pressed key now).1 = { c with dialogs := rest } := by
  rcases closes with rfl | rfl | rfl <;> simp [pressed, typed?, front, dialogAnswer?, answerDialog]

theorem not_alert_of_operation? {id : GroupId} {op : Operation}
    (asked : c.operation? key = some (id, op)) : c.dialogs ≠ .alert alert :: rest := by
  intro front
  cases c.asked_of_operation? asked with
  | answered question => cases front.symm.trans question
  | typed text => cases front.symm.trans text
  | toggled free | selected free | saved free => cases front.symm.trans free

theorem alerts_of_front {front : Dialog} (shown : c.dialogs = front :: rest)
    (other : front.alert? = none) : c.alerts = rest.filterMap Dialog.alert? := by
  unfold alerts
  rw [shown, List.filterMap_cons, other]

/-- The alerts stay, unless one is closed or a request has settled. -/
theorem Handled.alerts (h : Handled c e core effects) (unclosed : c.acknowledged? e = none)
    (unsettled : e.settles? = none) : core.dialogs.filterMap Dialog.alert? = c.alerts := by
  cases h with
  | kept | reloaded | pageInstalled | institutionsInstalled => rfl
  | guarded =>
    rw [List.filterMap_append]
    exact List.append_nil _
  | abandoned front => exact (alerts_of_front front rfl).symm
  | typed front => exact (alerts_of_front front rfl).symm
  | opened free =>
    unfold Console.alerts
    rw [free]
    rfl
  | @closed key front rest accepted shown answer =>
    cases front with
    | alert alert =>
      -- Whatever answers an alert closes it.
      unfold acknowledged? at unclosed
      rw [shown] at unclosed
      simp [eq_of_dialogAnswer?_alert answer] at unclosed
    | confirm | exitGuard | redirect | editText => exact (alerts_of_front shown rfl).symm
  | operated asked =>
    rw [List.filterMap_append, filterMap_alert?_opens, List.append_nil]
    cases front : c.dialogs with
    | nil =>
      unfold Console.alerts
      rw [front]
      rfl
    | cons shown rest =>
      cases shown with
      | alert => exact absurd front (not_alert_of_operation? asked)
      | confirm | exitGuard | redirect | editText => exact (alerts_of_front front rfl).symm
  | settled | reported => cases unsettled

/-- An alert that is raised comes last, and one that is closed was first. -/
theorem alerts_handle (c : Console) (e : Event) (now : Moment) :
    c.alerts ++ (c.raised? e).toList =
      (c.acknowledged? e).toList ++ (c.handle e now).1.alerts := by
  have kept (unclosed : c.acknowledged? e = none) (unsettled : e.settles? = none)
      (silent : c.raised? e = none) : c.alerts ++ (c.raised? e).toList =
        (c.acknowledged? e).toList ++ (c.handle e now).1.alerts := by
    rw [silent, unclosed]
    exact (List.append_nil _).trans ((c.handled e now).alerts unclosed unsettled).symm
  cases e with
  | saveSettled id result =>
    cases result with
    | ok =>
      have same : (c.handle (.saveSettled id (.ok ())) now).1.alerts = c.alerts :=
        congrArg (List.filterMap Dialog.alert?) (c.saveSettled_ok id now.millis).1
      rw [same]
      exact List.append_nil _
    | error words =>
      have grown : (c.handle (.saveSettled id (.error words)) now).1.alerts =
          c.alerts ++ [c.failureAlert id] :=
        (congrArg (List.filterMap Dialog.alert?)
          (c.dialogs_saveSettled_error id words now.millis)).trans List.filterMap_append
      rw [grown]
      rfl
  | key key =>
    cases closed : c.acknowledged? (.key key) with
    | none => exact closed ▸ kept closed rfl rfl
    | some alert =>
      unfold acknowledged? at closed
      dsimp only at closed
      split at closed
      next shown rest front =>
        split at closed
        next closes =>
          obtain rfl := Option.some.inj closed
          have left : (c.handle (.key key) now).1 = { c with dialogs := rest } :=
            pressed_of_alert front closes now.millis
          rw [left]
          unfold alerts
          rw [front]
          exact List.append_nil _
        · cases closed
      · cases closed
  | tick | ignored | pageFetched | subscriptionsFetched | wikiFetched | institutionsFetched =>
    exact kept rfl rfl rfl

end Console

/-! ## Along a run -/

namespace SettingGroup

variable {g : SettingGroup} {service : Service} {scope : Scope}

theorem IsBuilt.support (h : g.IsBuilt service scope) : g.profile.support = scope.support := by
  rcases h with ⟨content, member⟩ | ⟨choices, rfl⟩
  · rcases PageContent.created_of_mem_groups member with
      ⟨_, rfl⟩ | ⟨_, rfl⟩ | rfl | ⟨_, rfl⟩ | ⟨a, -, rfl⟩ <;> rfl
  · rfl

theorem Lived.support (h : g.Lived service scope) : g.profile.support = scope.support := by
  obtain ⟨p, settings, log, built, history, -⟩ := h
  rw [history.profile]
  exact built.support

end SettingGroup

namespace Session

variable {online : Bool} {service : Service} {scope : Scope} {first s : Session}
  {log : List Entry}

/-- The alert that was raised by an entry. -/
def Entry.raised? (x : Entry) : Option Alert := x.session.console.raised? x.event

/-- The alert that was closed by an entry. -/
def Entry.acknowledged? (x : Entry) : Option Alert := x.session.console.acknowledged? x.event

theorem Run.scope_eq (h : Run (start online service scope) log s) : s.console.scope = scope := by
  refine h.invariant (·.console.scope = scope) ?_ ?_ s List.mem_cons_self
  · cases online <;> rfl
  · intro x _ _ same
    exact (x.session.console.handled x.event x.now).scope.trans same

/-- No alert is lost, and none overtakes another. -/
theorem Run.alerts (h : Run first log s) :
    first.console.alerts ++ log.reverse.filterMap Entry.raised? =
      log.reverse.filterMap Entry.acknowledged? ++ s.console.alerts := by
  -- The run is extended at its end, where an alert joins and another one leaves at the front.
  induction h with
  | opened => simp
  | @handled log s e now run accepted ih =>
    let x : Entry := ⟨s, e, now⟩
    have step : s.console.alerts ++ x.raised?.toList =
        x.acknowledged?.toList ++ (s.after e now).console.alerts := s.console.alerts_handle e now
    have last (f : Entry → Option Alert) : (x :: log).reverse.filterMap f =
        log.reverse.filterMap f ++ (f x).toList := by
      rw [List.reverse_cons, List.filterMap_append]
      cases found : f x <;> simp [found]
    rw [last, last, ← List.append_assoc, ih, List.append_assoc, step, List.append_assoc]

theorem countP_isFailure (log : List Entry) :
    log.countP (·.event.isFailure) = (log.reverse.filterMap Entry.raised?).length := by
  rw [List.length_filterMap_eq_countP, List.countP_reverse]
  exact List.countP_congr fun x _ => by rw [Entry.raised?, Console.isSome_raised?]

/-- Whatever alert was raised along a run names the support of the console. -/
theorem Run.support (h : Run (start online service scope) log s) {x : Entry} (member : x ∈ log)
    {alert : Alert} (raised : x.raised? = some alert) :
    ∃ text, alert = .requestFailed text scope.support ∧
      alert.message = text ++ " If this persists please contact " ++ scope.support ++ "." := by
  obtain ⟨⟨earlier, run⟩, -, -⟩ := h.of_mem member
  unfold Entry.raised? Console.raised? at raised
  split at raised
  next id words _ =>
    obtain rfl := Option.some.inj raised
    obtain ⟨text, names⟩ := x.session.console.failureAlert_eq id
    have support : x.session.console.supportFor id = scope.support := by
      unfold Console.supportFor
      cases loaded : x.session.console.group? id with
      | none => exact congrArg Scope.support run.scope_eq
      | some g => exact (run.lived g (List.mem_of_find?_eq_some loaded)).support
    exact ⟨text, support ▸ names⟩
  · cases raised

/-- In every state, a failure puts one alert at the end of the queue and touches neither a value nor
the pending reload, and a success leaves the dialogs and has the page reloaded in time.  Along every
run the alerts that were raised are those that were closed, in this order, followed by those in the
queue.  The message of each names the support. -/
theorem settlements_accounted_for :
    (∀ (c : Console) (id : GroupId) (now : Nat),
      (∀ words,
        (c.saveSettled id (.error words) now).dialogs =
            c.dialogs ++ [.alert (c.failureAlert id)] ∧
          (∃ text, c.failureAlert id = .requestFailed text (c.supportFor id) ∧
            (c.failureAlert id).message =
              text ++ " If this persists please contact " ++ c.supportFor id ++ ".") ∧
          (c.saveSettled id (.error words) now).groups.map (fun g => (g.id, g.settings)) =
            c.groups.map (fun g => (g.id, g.settings)) ∧
          (c.saveSettled id (.error words) now).reloadAt = c.reloadAt) ∧
      (c.saveSettled id (.ok ()) now).dialogs = c.dialogs ∧
      ∃ t, (c.saveSettled id (.ok ()) now).reloadAt = some t ∧ t ≤ now + c.reloadDelay id) ∧
    ∀ {online service scope log s}, Run (start online service scope) log s →
      log.reverse.filterMap Entry.raised? =
          log.reverse.filterMap Entry.acknowledged? ++ s.console.alerts ∧
        log.countP (·.event.isFailure) =
          s.console.alerts.length + log.countP (·.acknowledged?.isSome) ∧
        ∀ x ∈ log, ∀ alert, x.raised? = some alert →
          ∃ text, alert = .requestFailed text scope.support ∧
            alert.message =
              text ++ " If this persists please contact " ++ scope.support ++ "." := by
  constructor
  · intro c id now
    exact ⟨fun words => ⟨c.dialogs_saveSettled_error id words now, c.failureAlert_eq id,
      c.values_saveSettled_error id words now, c.reloadAt_saveSettled_error id words now⟩,
      c.saveSettled_ok id now⟩
  · intro online service scope log s h
    have none_first : (start online service scope).console.alerts = [] := by
      unfold Console.alerts
      rw [dialogs_start]
      rfl
    have conserved := h.alerts
    rw [none_first, List.nil_append] at conserved
    refine ⟨conserved, ?_, fun x member alert => h.support member⟩
    rw [countP_isFailure, conserved, List.length_append, List.length_filterMap_eq_countP,
      List.countP_reverse, Nat.add_comm]

/-- The saves of the wiki and of the add-ons fail after the page was fetched once more, and the
first alert is closed. -/
theorem settlements_accounted_for_rebuilt :
    let ended := smallRun [.key .enter, .saveSettled .addons (.error "timeout"),
      .saveSettled .wiki (.error "timeout"), .pageFetched (.ok smallPage), .key (.char 's'),
      .key (.char ' '), .key .backTab, .key (.char ' '), .key .tab, .key .tab,
      .pageFetched (.ok smallPage), .key (.char 'r')]
    ended.1.countP (·.event.isFailure) = 2 ∧ ended.1.countP (·.acknowledged?.isSome) = 1 ∧
      ended.2.console.alerts.length = 1 ∧
      ended.1.reverse.filterMap Entry.raised? =
        ended.1.reverse.filterMap Entry.acknowledged? ++ ended.2.console.alerts := by
  intro ended
  have run : Run smallStart ended.1 ended.2 := run_smallRun (by decide)
  obtain ⟨conserved, -, -⟩ := settlements_accounted_for.2 run
  exact ⟨by decide, by decide, by decide, conserved⟩

end Session

end SettingsConsole
