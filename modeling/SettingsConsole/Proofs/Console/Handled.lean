import SettingsConsole.Proofs.Console.Stepped

/-!
# What an event makes of the groups and the dialogs

An event either leaves the groups and the dialogs alone, leaves the page or asks before it does,
installs groups that were fetched, or does to one group what a key asks for or a settled request
calls for.  `Handled` is this view of a step, guards and effects included; the rest of a console
never matters to its groups and dialogs.
-/

namespace SettingsConsole

/-- The request that an answer hands out. -/
def sends : Except Refusal EditOutcome → List Effect
  | .ok (.save (.submit request)) => [.send request]
  | _ => []

/-- The dialog that an answer opens. -/
def opens : Except Refusal EditOutcome → List Dialog
  | .ok (.prompt question) | .ok (.save (.confirm question)) => [.confirm question]
  | .ok (.redirect url) => [.redirect url]
  | _ => []

/-- The dialog about the outcome of a request. -/
def SettingGroup.reports (g : SettingGroup) : Except String Unit → List Dialog
  | .ok () => []
  | .error _ => [.alert g.failureAlert]

namespace Console

/-- The groups, what they are fetched with and built for, and the dialogs over them. -/
structure Core where
  online : Bool
  service : Service
  scope : Scope
  groups : List SettingGroup
  dialogs : List Dialog

/-- The part of a console that an event is about. -/
def core (c : Console) : Core := ⟨c.online, c.service, c.scope, c.groups, c.dialogs⟩

/-- The operations that keys ask for, each with the name of its group. -/
inductive Asked (c : Console) : Key → GroupId → Operation → Prop
  | answered {key prompt rest accepted} : c.dialogs = .confirm prompt :: rest →
      dialogAnswer? (.confirm prompt) key = some accepted →
      Asked c key prompt.group (prompt.kind.answer accepted)
  | typed {id name label buffer rest} : c.dialogs = .editText id name label buffer :: rest →
      Asked c .enter id (.editText name buffer)
  | toggled {key row} : c.dialogs = [] → key = .char ' ' ∨ key = .enter →
      c.selectedRow? = some row → row.action = .toggle → Asked c key row.group (.toggle row.key)
  | selected {key row value} : c.dialogs = [] → key = .char ' ' ∨ key = .enter →
      c.selectedRow? = some row → row.action = .select value →
      Asked c key row.group (.select row.key value)
  | saved {id} : c.dialogs = [] → c.tab.saveTarget? = some id → Asked c (.char 's') id .beginSave

/-- What an event makes of the groups and the dialogs, and what it asks for. -/
inductive Handled (c : Console) : Event → Core → List Effect → Prop
  | kept (e) : Handled c e c.core []
  /-- Something is unsaved, so the user is asked first. -/
  | guarded {e action} : Leaving c e action → c.unsavedWarnings ≠ [] → Handled c e
      { c.core with dialogs := c.dialogs ++ [.exitGuard c.unsavedWarnings action] } []
  | reloaded {e} : Leaving c e .reload → c.unsavedWarnings = [] → ¬ c.isSaving →
      Handled c e { c.core with groups := [] } [.load]
  /-- The user gave up what is unsaved. -/
  | abandoned {warnings rest} : c.dialogs = .exitGuard warnings .reload :: rest → ¬ c.isSaving →
      Handled c (.key (.char 'y')) { c.core with groups := [], dialogs := rest } [.load]
  | typed {key id name label buffer text rest} :
      c.dialogs = .editText id name label buffer :: rest → typeInto? buffer key = some text →
      Handled c (.key key) { c.core with dialogs := .editText id name label text :: rest } []
  /-- A text is going to be edited. -/
  | opened {key id name label text g} : c.dialogs = [] → c.group? id = some g → g.phase = .idle →
      Handled c (.key key) { c.core with dialogs := [.editText id name label text] } []
  /-- A dialog was answered, and no loaded group is concerned. -/
  | closed {key front rest accepted} : c.dialogs = front :: rest →
      dialogAnswer? front key = some accepted → c.Unasked key →
      Handled c (.key key) { c.core with dialogs := rest } []
  | operated {key id op g} : c.operation? key = some (id, op) → c.group? id = some g →
      Handled c (.key key) { c.core with
        groups := replaceGroup (op.perform g).1 c.groups
        dialogs := c.dialogs.tail ++ opens (op.perform g).2 } (sends (op.perform g).2)
  | settled {id result g} : c.group? id = some g → g.isSaving →
      Handled c (.saveSettled id result) { c.core with
        groups := replaceGroup (g.settle result) c.groups
        dialogs := c.dialogs ++ g.reports result } []
  /-- A request failed that no loaded group waits for. -/
  | reported {id words alert} : (∀ g ∈ c.group? id, ¬ g.isSaving) →
      Handled c (.saveSettled id (.error words))
        { c.core with dialogs := c.dialogs ++ [.alert alert] } []
  | pageInstalled {content} : Handled c (.pageFetched (.ok content)) { c.core with
      groups := content.groups c.service c.scope ++ (c.group? .institution).toList } []
  | institutionsInstalled {choices} : Handled c (.institutionsFetched (.ok choices)) { c.core with
      groups := removeGroup .institution c.groups ++ [choices.group c.service c.scope] } []

variable (c : Console)

theorem asked_of_operation? {key : Key} {id : GroupId} {op : Operation}
    (h : c.operation? key = some (id, op)) : c.Asked key id op := by
  have of_row {row : Row} (free : c.dialogs = []) (press : key = .char ' ' ∨ key = .enter)
      (selected : c.selectedRow? = some row) : c.Asked key id op := by
    have asks := operation?_of_selectedRow? free press selected
    rw [h] at asks
    cases action : row.action with
    | toggle =>
      rw [action] at asks
      cases asks
      exact .toggled free press selected action
    | select value =>
      rw [action] at asks
      cases asks
      exact .selected free press selected action
    | edit =>
      rw [action] at asks
      cases asks
  have known := h
  unfold operation? at known
  split at known
  next front =>
    obtain ⟨accepted, answer, it⟩ := Option.map_eq_some_iff.1 known
    cases it
    exact .answered front answer
  next front =>
    split at known
    next enter =>
      cases known
      exact enter ▸ .typed front
    · cases known
  · cases known
  · cases known
  · cases known
  next free =>
    split at known
    · obtain ⟨row, selected, -⟩ := Option.bind_eq_some_iff.1 known
      exact of_row free (.inl rfl) selected
    · obtain ⟨row, selected, -⟩ := Option.bind_eq_some_iff.1 known
      exact of_row free (.inr rfl) selected
    · obtain ⟨target, saves, it⟩ := Option.map_eq_some_iff.1 known
      cases it
      exact .saved free saves
    · cases known

/-! ## Following up on an answer -/

theorem core_pushDialog (d : Dialog) :
    (c.pushDialog d).core = { c.core with dialogs := c.dialogs ++ [d] } := rfl

theorem core_applySave (id : GroupId) (outcome : SaveOutcome) (now : Nat) :
    (c.applySave id outcome now).1.core =
      { c.core with dialogs := c.dialogs ++ opens (.ok (.save outcome)) } := by
  have none_opened : c.core = { c.core with dialogs := c.dialogs ++ [] } := by
    rw [List.append_nil]
    rfl
  cases outcome with
  | unchanged notice => cases notice <;> exact none_opened
  | confirm => rfl
  | submit | rolledBack => exact none_opened

theorem effects_applySave (id : GroupId) (outcome : SaveOutcome) (now : Nat) :
    (c.applySave id outcome now).2 = sends (.ok (.save outcome)) := by
  cases outcome with
  | unchanged notice => cases notice <;> rfl
  | confirm | submit | rolledBack => rfl

theorem core_applyEdit (id : GroupId) (outcome : EditOutcome) (now : Nat) :
    (c.applyEdit id outcome now).1.core =
      { c.core with dialogs := c.dialogs ++ opens (.ok outcome) } := by
  cases outcome with
  | updated =>
    show c.core = { c.core with dialogs := c.dialogs ++ [] }
    rw [List.append_nil]
    rfl
  | prompt | redirect => rfl
  | save outcome => exact c.core_applySave id outcome now

theorem effects_applyEdit (id : GroupId) (outcome : EditOutcome) (now : Nat) :
    (c.applyEdit id outcome now).2 = sends (.ok outcome) := by
  cases outcome with
  | save outcome => exact c.effects_applySave id outcome now
  | updated | prompt | redirect => rfl

theorem core_refused (r : Refusal) :
    (c.refuse r).core = { c.core with dialogs := c.dialogs ++ opens (.error r) } := by
  show c.core = { c.core with dialogs := c.dialogs ++ [] }
  rw [List.append_nil]
  rfl

theorem core_concludeEdit (answer : Answer EditOutcome) (now : Nat) :
    (c.concludeEdit answer now).1.core = { c.core with
      groups := replaceGroup answer.1 c.groups
      dialogs := c.dialogs ++ opens answer.2 } := by
  obtain ⟨g, r | outcome⟩ := answer
  · exact core_refused _ r
  · exact core_applyEdit _ _ _ _

/-! ## Every event is handled in one of these ways -/

variable {c}

theorem core_moved {key : Key} {c' : Console} (h : Moves c key c') : c'.core = c.core := by
  obtain ⟨tab, selection, rfl, -⟩ := h.exists_eq
  rfl

theorem core_departs {e : Event} {now : Nat} {action : ExitAction} {left : Console}
    (departs : Departs c now e action left) (leaving : Leaving c e action) :
    left.core = c.core := by
  cases departs with
  | agreed => cases leaving
  | due | reload | quit => rfl

theorem Departs.closed {e : Event} {now : Nat} {action : ExitAction} {left : Console}
    (departs : Departs c now e action left) : Handled c e left.core [] := by
  cases departs with
  | @agreed warnings _ rest front =>
    have agrees : dialogAnswer? (.exitGuard warnings action) (.char 'y') = some true := rfl
    have departs : Departs c now _ _ _ := .agreed front
    exact .closed front agrees departs.unasked
  | due | reload | quit => exact .kept _

variable (c)

theorem saveSettled_handled (id : GroupId) (result : Except String Unit) (now : Nat) :
    Handled c (.saveSettled id result) (c.saveSettled id result now).core [] := by
  rw [saveSettled_eq]
  cases waits : c.waiting? id with
  | none =>
    cases result with
    | ok =>
      have kept : Handled c (.saveSettled id (.ok ())) c.core [] := .kept _
      simpa [core, absorb, settlement, waits] using kept
    | error words =>
      have reported : Handled c (.saveSettled id (.error words))
          { c.core with dialogs := c.dialogs ++ [.alert (c.failureAlert id)] } [] :=
        .reported (waiting?_eq_none_iff.1 waits)
      simpa [core, absorb, settlement, waits] using reported
  | some g =>
    obtain ⟨loaded, out⟩ := waiting?_eq_some_iff.1 waits
    have settled : Handled c (.saveSettled id result) _ [] := .settled loaded out
    cases result with
    | ok => simpa [core, absorb, settlement, waits, SettingGroup.reports] using settled
    | error words =>
      simpa [core, absorb, settlement, waits, SettingGroup.reports,
        failureAlert_of_group? loaded] using settled

/-- What every event makes of the groups and the dialogs, and what it asks for. -/
theorem handled (e : Event) (now : Moment) :
    Handled c e (c.handle e now).1.core (c.handle e now).2 := by
  have step := c.stepped e now
  generalize c.handle e now = s at step
  cases step with
  | ignored | dropped | expired | obstructed => exact .kept _
  | @guarded _ _ left leaving departs unsaved =>
    have same := core_departs departs leaving
    have dialogs : left.dialogs = c.dialogs := congrArg Core.dialogs same
    rw [core_pushDialog, same, dialogs]
    exact .guarded leaving unsaved
  | deferred departs | quit departs | unconnected departs => exact departs.closed
  | reloaded departs clean free =>
    cases departs with
    | due => exact .reloaded .due (clean .due) free
    | reload shown => exact .reloaded (.reload shown) (clean (.reload shown)) free
    | agreed front => exact .abandoned front free
  | moved free moves => rw [core_moved moves]; exact .kept _
  | opened free press selected action loaded idle found =>
    rw [core_pushDialog, free, List.nil_append]
    exact .opened free loaded idle
  | typed front into => exact .typed front into
  | closed front answer unasked => exact .closed front answer unasked
  | refused asked loaded result =>
    have operated : Handled c _ _ _ := .operated asked loaded
    rw [result] at operated
    rw [core_refused]
    exact operated
  | accepted asked loaded result =>
    have operated : Handled c _ _ _ := .operated asked loaded
    rw [result] at operated
    rw [core_applyEdit, effects_applyEdit]
    exact operated
  | settled id result => exact c.saveSettled_handled id result now.millis
  | pageFetched result =>
    cases result with
    | ok content => exact .pageInstalled
    | error words => exact .kept _
  | subscriptionsFetched result | wikiFetched result => cases result <;> exact .kept _
  | institutionsFetched result =>
    cases result with
    | ok choices => exact .institutionsInstalled
    | error words => exact .kept _

theorem Handled.online {c : Console} {e : Event} {core : Core} {effects : List Effect}
    (h : Handled c e core effects) : core.online = c.online := by
  cases h <;> rfl

theorem Handled.service {c : Console} {e : Event} {core : Core} {effects : List Effect}
    (h : Handled c e core effects) : core.service = c.service := by
  cases h <;> rfl

theorem Handled.scope {c : Console} {e : Event} {core : Core} {effects : List Effect}
    (h : Handled c e core effects) : core.scope = c.scope := by
  cases h <;> rfl

end Console

end SettingsConsole
