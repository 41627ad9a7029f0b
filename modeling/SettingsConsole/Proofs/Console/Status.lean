import SettingsConsole.Proofs.Console.Handled

/-!
# What an event makes of the status line and of the pending reload

An operation on a group touches the groups, the dialogs, the notices and the words about the last
input, and nothing else (`bare`).  The pending reload is moved by leaving the page, by a successful
save and by time alone.  `Noted` is this view of a step, with the reason of every refusal that comes
to the status line.
-/

namespace SettingsConsole

namespace Console

/-- The console apart from what an operation on a group touches. -/
def bare (c : Console) : Console :=
  { c with groups := [], dialogs := [], notices := ∅, status := none }

/-- What an event makes of the words about the last input and of the pending reload, and what it
asks for. -/
inductive Noted (c : Console) (now : Nat) :
    Event → Option String → Option Nat → List Effect → Prop
  | kept (e effects) : Noted c now e c.status c.reloadAt effects
  | accepted {key effects} : Noted c now (.key key) none c.reloadAt effects
  | takenBack {key effects} (keys : List String) :
      Noted c now (.key key) (some ("Kept " ++ ", ".intercalate keys)) c.reloadAt effects
  | refused {key id op g r} : c.operation? key = some (id, op) → c.group? id = some g →
      (op.perform g).2 = .error r → Noted c now (.key key) (some r.message) c.reloadAt []
  /-- A text is not edited now. -/
  | obstructed {key id g r} : c.dialogs = [] → c.group? id = some g → g.obstacle? = some r →
      Noted c now (.key key) (some r.message) c.reloadAt []
  | deferred {e} : c.isSaving → Noted c now e (c.putOff now).status (c.putOff now).reloadAt []
  | scheduled {id} (delay : Nat) :
      Noted c now (.saveSettled id (.ok ())) c.status (c.scheduleReload delay now).reloadAt []
  | started {e} : Noted c now e c.status none [.load]
  /-- A reload was due and is not pending any more. -/
  | served {effects} : c.isDue now → Noted c now .tick c.status none effects

/-! ## Operations on a group -/

variable (c : Console)

theorem bare_applyEdit (id : GroupId) (outcome : EditOutcome) (now : Nat) :
    (c.applyEdit id outcome now).1.bare = c.bare := by
  cases outcome with
  | save outcome =>
    cases outcome with
    | unchanged notice => cases notice <;> rfl
    | confirm | submit | rolledBack => rfl
  | updated | prompt | redirect => rfl

theorem reloadAt_applyEdit (id : GroupId) (outcome : EditOutcome) (now : Nat) :
    (c.applyEdit id outcome now).1.reloadAt = c.reloadAt :=
  (congrArg Console.reloadAt (c.bare_applyEdit id outcome now) :
    (c.applyEdit id outcome now).1.bare.reloadAt = c.bare.reloadAt)

theorem quitting_applyEdit (id : GroupId) (outcome : EditOutcome) (now : Nat) :
    (c.applyEdit id outcome now).1.quitting = c.quitting :=
  (congrArg Console.quitting (c.bare_applyEdit id outcome now) :
    (c.applyEdit id outcome now).1.bare.quitting = c.bare.quitting)

theorem bare_concludeEdit (answer : Answer EditOutcome) (now : Nat) :
    (c.concludeEdit answer now).1.bare = c.bare := by
  obtain ⟨g, r | outcome⟩ := answer
  · rfl
  · exact bare_applyEdit _ g.id outcome now

theorem status_applyEdit (id : GroupId) (outcome : EditOutcome) (now : Nat) :
    (c.applyEdit id outcome now).1.status = c.status ∨
      ∃ keys, (c.applyEdit id outcome now).1.status =
        some ("Kept " ++ ", ".intercalate keys) := by
  cases outcome with
  | save outcome =>
    cases outcome with
    | unchanged notice => cases notice <;> exact .inl rfl
    | rolledBack keys => exact .inr ⟨keys, rfl⟩
    | confirm | submit => exact .inl rfl
  | updated | prompt | redirect => exact .inl rfl

/-! ## Every event -/

variable {c} {e : Event} {now : Nat} {action : ExitAction} {left : Console}

theorem Departs.status_eq (h : Departs c now e action left) : left.status = c.status := by
  cases h <;> rfl

/-- Leaving the page empties the pending reload if one is due, and leaves it otherwise. -/
theorem Departs.noted (h : Departs c now e action left) (effects : List Effect) :
    Noted c now e c.status left.reloadAt effects := by
  cases h with
  | due due => exact .served due
  | reload | quit | agreed => exact .kept _ _

theorem Departs.noted_of_isSaving (h : Departs c now e action left) (saving : c.isSaving) :
    Noted c now e (left.putOff now).status (left.putOff now).reloadAt [] := by
  cases h with
  | due due =>
    obtain ⟨-, -, -, free⟩ := isDue_iff.1 due
    exact absurd saving free
  | reload | quit | agreed => exact .deferred saving

variable (c)

theorem saveSettled_noted (id : GroupId) (result : Except String Unit) (now : Nat) :
    Noted c now (.saveSettled id result) (c.saveSettled id result now).status
      (c.saveSettled id result now).reloadAt [] := by
  rw [saveSettled_eq]
  cases result with
  | ok =>
    have scheduled : Noted c now (.saveSettled id (.ok ())) c.status _ [] :=
      .scheduled (c.reloadDelay id)
    rw [scheduleReload_eq] at scheduled
    exact scheduled
  | error words =>
    have untouched : c.reloadAt.merge min none = c.reloadAt := by cases c.reloadAt <;> rfl
    show Noted c now _ c.status (c.reloadAt.merge min none) []
    rw [untouched]
    exact .kept _ _

/-- What every event makes of the status line and of the pending reload. -/
theorem noted (e : Event) (now : Moment) :
    Noted c now.millis e (c.handle e now).1.status (c.handle e now).1.reloadAt
      (c.handle e now).2 := by
  have step := c.stepped e now
  generalize c.handle e now = s at step
  cases step with
  | ignored | dropped | expired | opened | typed | closed => exact .kept _ _
  | guarded _ departs => exact departs.status_eq ▸ departs.noted []
  | deferred departs saving => exact departs.noted_of_isSaving saving
  | quit departs | unconnected departs => exact departs.status_eq ▸ departs.noted []
  | @reloaded _ left departs =>
    show Noted c now.millis e left.status none [.load]
    rw [departs.status_eq]
    exact .started
  | moved _ moves =>
    obtain ⟨tab, selection, rfl, -⟩ := moves.exists_eq
    exact .kept _ _
  | obstructed free _ _ _ loaded obstacle => exact .obstructed free loaded obstacle
  | refused asked loaded result => exact .refused asked loaded result
  | @accepted key id op g outcome asked loaded result =>
    let before : Console :=
      { { c with dialogs := c.dialogs.tail }.putGroup (op.perform g).1 with
        status := c.statusFor op }
    have pending : (before.applyEdit id outcome now.millis).1.reloadAt = c.reloadAt :=
      before.reloadAt_applyEdit id outcome now.millis
    rw [pending]
    rcases before.status_applyEdit id outcome now.millis with same | ⟨keys, back⟩
    · rw [same]
      show Noted c _ _ (c.statusFor op) _ _
      cases op with
      | resolveRemoval | answerTerms => exact .kept _ _
      | toggle | select | editText | beginSave => exact .accepted
    · rw [back]
      exact .takenBack keys
  | settled id result => exact c.saveSettled_noted id result now.millis
  | pageFetched result | subscriptionsFetched result | wikiFetched result
  | institutionsFetched result => cases result <;> exact .kept _ _

end Console

end SettingsConsole
