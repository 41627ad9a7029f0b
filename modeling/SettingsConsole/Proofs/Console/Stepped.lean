import SettingsConsole.Proofs.Console.Settlement

/-!
# Steps of a console

What an event makes of a console and what it asks for, said once (`Console.Stepped`): a key asks for
an operation on a loaded group, moves on the page, goes into a text, answers a dialog or does
nothing; the page is left, or the user is asked before it is; time passes; or something arrives.
Each case gives the whole console after the step and the guards under which it comes about, so that
the views of a step, of its groups and dialogs or of its status line, are read off the cases
(`Console.stepped`).
-/

namespace SettingsConsole

/-- The operation that answers a question. -/
def PromptKind.answer (kind : PromptKind) (accepted : Bool) : Operation :=
  match kind with
  | .removal => .resolveRemoval accepted
  | .terms _ => .answerTerms accepted

namespace Key

/-- The keys that turn to another tab. -/
def turning : List Key := [.tab, .char 'l', .right, .backTab, .char 'h', .left]

/-- The keys that go to the row below. -/
def downward : List Key := [.char 'j', .down]

/-- The keys that go to the row above. -/
def upward : List Key := [.char 'k', .up]

end Key

namespace Console

/-! ## What a key asks for -/

/-- The operation that a key asks for, and the name of the group that it is meant for. -/
def operation? (c : Console) (key : Key) : Option (GroupId × Operation) :=
  match c.dialogs with
  | .confirm prompt :: _ =>
    (dialogAnswer? (.confirm prompt) key).map fun accepted =>
      (prompt.group, match prompt.kind with
        | .removal => .resolveRemoval accepted
        | .terms _ => .answerTerms accepted)
  | .editText id name _ buffer :: _ =>
    if key = .enter then some (id, .editText name buffer) else none
  | .alert _ :: _ | .exitGuard _ _ :: _ | .redirect _ :: _ => none
  | [] =>
    match key with
    | .char ' ' | .enter =>
      c.selectedRow?.bind fun row =>
        match row.action with
        | .toggle => some (row.group, .toggle row.key)
        | .select value => some (row.group, .select row.key value)
        | .edit => none
    | .char 's' => c.tab.saveTarget?.map fun id => (id, .beginSave)
    | _ => none

/-- Whether a key asks for no operation on a loaded group. -/
def Unasked (c : Console) (key : Key) : Prop :=
  ∀ asked ∈ c.operation? key, c.group? asked.1 = none

/-- The keys that move on the page. -/
inductive Moves (c : Console) : Key → Console → Prop
  | turned {key} (tab) : key ∈ Key.turning → Moves c key (c.showTab tab)
  | next {key} : key ∈ Key.downward → Moves c key c.nextRow
  | previous {key} : key ∈ Key.upward → Moves c key c.previousRow

/-- What the status line says before an accepted operation is followed up on: the answer to a
question leaves it, and an edit or a save clears it. -/
def statusFor (c : Console) : Operation → Option String
  | .resolveRemoval _ | .answerTerms _ => c.status
  | .toggle _ | .select _ _ | .editText _ _ | .beginSave => none

/-! ## Leaving the page -/

/-- Whether a reload is due and no request is in its way. -/
def isDue (c : Console) (now : Nat) : Bool := c.reloadAt.any (· ≤ now) && !c.isSaving

/-- The console with a reload put off. -/
def putOff (c : Console) (now : Nat) : Console :=
  { c with status := some "Reloading once pending saves finish" }.scheduleReload 0 now

/-- The console with everything given up for the page that is fetched. -/
def emptied (c : Console) : Console :=
  { c with reloadAt := none, loading := true, pageError := none, subscriptionsMessage := none
           wikiMessage := none, institutionMessage := none, groups := [] }

/-- The events that leave the page if nothing is unsaved, and what for. -/
inductive Leaving (c : Console) : Event → ExitAction → Prop
  | due : Leaving c .tick .reload
  | reload : c.dialogs = [] → Leaving c (.key (.char 'r')) .reload
  | quit : c.dialogs = [] → Leaving c (.key (.char 'q')) .quit

/-- The events that leave the page, what for, and the console that is left: on them, or when the
user agrees to the warning. -/
inductive Departs (c : Console) (now : Nat) : Event → ExitAction → Console → Prop
  | due : c.isDue now →
      Departs c now .tick .reload { c.expireNotices now with reloadAt := none }
  | reload : c.dialogs = [] → Departs c now (.key (.char 'r')) .reload c
  | quit : c.dialogs = [] → Departs c now (.key (.char 'q')) .quit c
  | agreed {warnings action rest} : c.dialogs = .exitGuard warnings action :: rest →
      Departs c now (.key (.char 'y')) action { c with dialogs := rest }

/-- The console after an event, and what it asks for. -/
inductive Stepped (c : Console) (now : Moment) : Event → Step → Prop
  | ignored : Stepped c now .ignored (c, [])
  /-- The key means nothing here. -/
  | dropped {key} : c.Unasked key → Stepped c now (.key key) (c, [])
  /-- Notices go away, and no reload is due. -/
  | expired : ¬ c.isDue now.millis → Stepped c now .tick (c.expireNotices now.millis, [])
  /-- Something is unsaved, so the user is asked first. -/
  | guarded {e action left} : Leaving c e action → Departs c now.millis e action left →
      c.unsavedWarnings ≠ [] →
      Stepped c now e (left.pushDialog (.exitGuard c.unsavedWarnings action), [])
  /-- A request is out, so the reload is put off. -/
  | deferred {e left} : Departs c now.millis e .reload left → c.isSaving →
      Stepped c now e (left.putOff now.millis, [])
  | quit {e left} : Departs c now.millis e .quit left →
      (Leaving c e .quit → c.unsavedWarnings = []) →
      Stepped c now e ({ left with quitting := true }, [])
  | reloaded {e left} : Departs c now.millis e .reload left →
      (Leaving c e .reload → c.unsavedWarnings = []) → ¬ c.isSaving → c.online →
      Stepped c now e (left.emptied, [.load])
  /-- There is no client to reload with. -/
  | unconnected {e left} : Departs c now.millis e .reload left → ¬ c.isSaving → ¬ c.online →
      Stepped c now e (left, [])
  | moved {key c'} : c.dialogs = [] → Moves c key c' → Stepped c now (.key key) (c', [])
  /-- A text is going to be edited. -/
  | opened {key row g s} : c.dialogs = [] → key = .char ' ' ∨ key = .enter →
      c.selectedRow? = some row → row.action = .edit → c.group? row.group = some g →
      g.phase = .idle → g.setting? row.key = some s →
      Stepped c now (.key key) (c.pushDialog
        (.editText row.group row.key s.label (s.current.content?.getD "")), [])
  /-- A text is not edited now. -/
  | obstructed {key row g r} : c.dialogs = [] → key = .char ' ' ∨ key = .enter →
      c.selectedRow? = some row → row.action = .edit → c.group? row.group = some g →
      g.obstacle? = some r → Stepped c now (.key key) (c.refuse r, [])
  | typed {key id name label buffer text rest} :
      c.dialogs = .editText id name label buffer :: rest → typeInto? buffer key = some text →
      Stepped c now (.key key) ({ c with dialogs := .editText id name label text :: rest }, [])
  /-- A dialog was answered, and no loaded group is concerned. -/
  | closed {key front rest accepted} : c.dialogs = front :: rest →
      dialogAnswer? front key = some accepted → c.Unasked key →
      Stepped c now (.key key) ({ c with dialogs := rest }, [])
  | refused {key id op g r} : c.operation? key = some (id, op) → c.group? id = some g →
      (op.perform g).2 = .error r →
      Stepped c now (.key key)
        (({ c with dialogs := c.dialogs.tail }.putGroup (op.perform g).1).refuse r, [])
  | accepted {key id op g outcome} : c.operation? key = some (id, op) → c.group? id = some g →
      (op.perform g).2 = .ok outcome →
      Stepped c now (.key key)
        ({ { c with dialogs := c.dialogs.tail }.putGroup (op.perform g).1 with
            status := c.statusFor op }.applyEdit id outcome now.millis)
  | settled (id result) :
      Stepped c now (.saveSettled id result) (c.saveSettled id result now.millis, [])
  | pageFetched (result) : Stepped c now (.pageFetched result) (c.pageFetched result now, [])
  | subscriptionsFetched (result) :
      Stepped c now (.subscriptionsFetched result) (c.subscriptionsFetched result, [])
  | wikiFetched (result) : Stepped c now (.wikiFetched result) (c.wikiFetched result, [])
  | institutionsFetched (result) :
      Stepped c now (.institutionsFetched result) (c.institutionsFetched result, [])

variable {c : Console} {e : Event} {key : Key} {id : GroupId} {op : Operation} {g : SettingGroup}
  {now : Nat} {action : ExitAction} {left : Console}

/-! ## Keys that ask for nothing -/

theorem operation?_of_selectedRow? (free : c.dialogs = [])
    (press : key = .char ' ' ∨ key = .enter) {row : Row} (selected : c.selectedRow? = some row) :
    c.operation? key =
      match row.action with
      | .toggle => some (row.group, .toggle row.key)
      | .select value => some (row.group, .select row.key value)
      | .edit => none := by
  unfold operation?
  rw [free]
  rcases press with rfl | rfl <;> simp only [selected, Option.bind_some]

theorem Unasked.of_none (h : c.operation? key = none) : c.Unasked key := by
  unfold Unasked
  rw [h]
  nofun

theorem Unasked.of_group? (asked : c.operation? key = some (id, op)) (gone : c.group? id = none) :
    c.Unasked key := by
  unfold Unasked
  rw [asked]
  rintro _ ⟨⟩
  exact gone

theorem Moves.unasked {c' : Console} (h : Moves c key c') (free : c.dialogs = []) :
    c.Unasked key := by
  refine .of_none ?_
  unfold operation?
  rw [free]
  cases h with
  | turned _ turns =>
    simp only [Key.turning, List.mem_cons, List.not_mem_nil, or_false] at turns
    rcases turns with rfl | rfl | rfl | rfl | rfl | rfl <;> rfl
  | next down =>
    simp only [Key.downward, List.mem_cons, List.not_mem_nil, or_false] at down
    rcases down with rfl | rfl <;> rfl
  | previous up =>
    simp only [Key.upward, List.mem_cons, List.not_mem_nil, or_false] at up
    rcases up with rfl | rfl <;> rfl

theorem Departs.unasked (h : Departs c now (.key key) action left) : c.Unasked key := by
  refine .of_none ?_
  unfold operation?
  cases h with
  | reload free | quit free =>
    rw [free]
    rfl
  | agreed front => rw [front]

theorem unasked_of_edit (free : c.dialogs = []) (press : key = .char ' ' ∨ key = .enter)
    {row : Row} (selected : c.selectedRow? = some row) (action : row.action = .edit) :
    c.Unasked key := by
  refine .of_none ?_
  rw [operation?_of_selectedRow? free press selected, action]

theorem unasked_of_typed {id : GroupId} {name label buffer text : String} {rest : List Dialog}
    (front : c.dialogs = .editText id name label buffer :: rest)
    (into : typeInto? buffer key = some text) : c.Unasked key := by
  have other : key ≠ .enter := by
    rintro rfl
    cases into
  exact .of_none (by simp only [operation?, front, if_neg other])

/-! ## Moving on the page -/

/-- Going to the row below moves the selection and nothing else. -/
theorem exists_nextRow_eq (c : Console) : ∃ selection, c.nextRow = { c with selection } := by
  unfold nextRow
  dsimp only
  split <;> exact ⟨_, rfl⟩

/-- Going to the row above moves the selection and nothing else. -/
theorem exists_previousRow_eq (c : Console) :
    ∃ selection, c.previousRow = { c with selection } := by
  unfold previousRow
  dsimp only
  split <;> exact ⟨_, rfl⟩

/-- A key that moves changes the selection, and turns to another tab if that is its key. -/
theorem Moves.exists_eq {c' : Console} (h : Moves c key c') :
    ∃ tab selection, c' = { c with tab, selection } ∧ (key ∉ Key.turning → tab = c.tab) := by
  cases h with
  | turned tab turns => exact ⟨tab, _, rfl, fun stays => absurd turns stays⟩
  | next =>
    obtain ⟨selection, same⟩ := c.exists_nextRow_eq
    exact ⟨c.tab, selection, same, fun _ => rfl⟩
  | previous =>
    obtain ⟨selection, same⟩ := c.exists_previousRow_eq
    exact ⟨c.tab, selection, same, fun _ => rfl⟩

/-! ## The ways of leaving -/

theorem scheduleReload_le (c : Console) (delay now : Nat) :
    ∃ t, (c.scheduleReload delay now).reloadAt = some t ∧ t ≤ now + delay ∧
      ∀ u, c.reloadAt = some u → t ≤ u := by
  unfold scheduleReload
  cases c.reloadAt with
  | none => exact ⟨_, rfl, Nat.le_refl _, nofun⟩
  | some u =>
    refine ⟨_, rfl, Nat.min_le_right _ _, ?_⟩
    rintro _ ⟨⟩
    exact Nat.min_le_left _ _

theorem reload_of_online (online : c.online) : c.reload = (c.emptied, [.load]) := if_pos online

theorem reload_of_offline (offline : ¬ c.online) : c.reload = (c, []) := if_neg offline

theorem finishExit_of_saving (saving : c.isSaving) :
    c.finishExit .reload now = (c.putOff now, []) := by
  unfold finishExit deferReload?
  rw [if_pos saving]
  rfl

theorem finishExit_of_free (free : ¬ c.isSaving) : c.finishExit .reload now = c.reload := by
  unfold finishExit deferReload?
  rw [if_neg free]

theorem leavePage_of_saving (saving : c.isSaving) :
    c.leavePage .reload now = (c.putOff now, []) := by
  unfold leavePage deferReload?
  rw [if_pos rfl, if_pos saving]
  rfl

theorem leavePage_of_free (free : action = .reload → ¬ c.isSaving) :
    c.leavePage action now =
      if c.unsavedWarnings = [] then c.finishExit action now
      else (c.pushDialog (.exitGuard c.unsavedWarnings action), []) := by
  have undeferred : (if action = .reload then c.deferReload? now else none) = none := by
    split
    next reloads =>
      unfold deferReload?
      rw [if_neg (free reloads)]
    · rfl
  unfold leavePage
  rw [undeferred]
  simp only [List.isEmpty_iff]

theorem isDue_iff : c.isDue now ↔ ∃ t, c.reloadAt = some t ∧ t ≤ now ∧ ¬ c.isSaving := by
  unfold isDue
  cases c.reloadAt <;> simp

/-- A tick only has notices go away, unless a reload is due. -/
theorem tick_of_not_isDue (undue : ¬ c.isDue now) : c.tick now = (c.expireNotices now, []) := by
  unfold tick
  dsimp only
  split
  · rfl
  next t scheduled =>
    refine if_pos (Classical.byContradiction fun waits => undue ?_)
    obtain ⟨reached, free⟩ := not_or.1 waits
    exact isDue_iff.2 ⟨t, scheduled, Nat.not_lt.1 reached, free⟩

theorem tick_of_isDue (due : c.isDue now) :
    c.tick now = leavePage { c.expireNotices now with reloadAt := none } .reload now := by
  obtain ⟨t, scheduled, reached, free⟩ := isDue_iff.1 due
  have same : (c.expireNotices now).reloadAt = some t := scheduled
  unfold tick
  simp only [same]
  exact if_neg (not_or.2 ⟨Nat.not_lt.2 reached, free⟩)

theorem eq_of_dialogAnswer?_exitGuard {warnings : List String}
    (h : dialogAnswer? (.exitGuard warnings action) key = some true) : key = .char 'y' := by
  unfold dialogAnswer? at h
  split at h <;> simp_all

theorem dialogAnswer?_editText_iff {id : GroupId} {name label buffer : String} :
    dialogAnswer? (.editText id name label buffer) key = some true ↔ key = .enter := by
  constructor
  · intro h
    unfold dialogAnswer? at h
    split at h <;> simp_all
  · rintro rfl
    rfl

/-- The console that is left has the groups and the client that it had. -/
theorem Departs.same (h : Departs c now e action left) :
    left.groups = c.groups ∧ left.online = c.online := by
  cases h <;> exact ⟨rfl, rfl⟩

theorem Departs.isSaving_eq (h : Departs c now e action left) : left.isSaving = c.isSaving := by
  unfold isSaving
  rw [h.same.1]

theorem Departs.unsavedWarnings_eq (h : Departs c now e action left) :
    left.unsavedWarnings = c.unsavedWarnings := by
  unfold unsavedWarnings
  rw [h.same.1]

/-- Leaving the page, unless something unsaved is to be asked about first. -/
theorem Departs.finishExit {now : Moment} (departs : Departs c now.millis e action left)
    (clean : Leaving c e action → c.unsavedWarnings = []) :
    Stepped c now e (left.finishExit action now.millis) := by
  cases action with
  | quit => exact .quit departs clean
  | reload =>
    by_cases saving : c.isSaving
    · rw [finishExit_of_saving (departs.isSaving_eq.trans saving)]
      exact .deferred departs saving
    · have free : ¬ left.isSaving := departs.isSaving_eq ▸ saving
      rw [finishExit_of_free free]
      by_cases online : c.online
      · rw [reload_of_online (departs.same.2.trans online)]
        exact .reloaded departs clean saving online
      · rw [reload_of_offline (departs.same.2 ▸ online)]
        exact .unconnected departs saving online

/-- Leaving the page, or asking first. -/
theorem Departs.leavePage {now : Moment} (departs : Departs c now.millis e action left)
    (leaving : Leaving c e action) : Stepped c now e (left.leavePage action now.millis) := by
  by_cases deferred : action = .reload ∧ c.isSaving
  · obtain ⟨rfl, saving⟩ := deferred
    rw [leavePage_of_saving (departs.isSaving_eq.trans saving)]
    exact .deferred departs saving
  · rw [leavePage_of_free fun reloads saving => deferred ⟨reloads, departs.isSaving_eq ▸ saving⟩,
      departs.unsavedWarnings_eq]
    split
    next clean => exact departs.finishExit fun _ => clean
    next unsaved => exact .guarded leaving departs unsaved

/-! ## Operations -/

/-- A group is put back with an edit or a save, and the dialog that was answered is closed. -/
theorem Stepped.of_concludeEdit {now : Moment} (asked : c.operation? key = some (id, op))
    (loaded : c.group? id = some g) (clears : c.statusFor op = none) (rest : List Dialog)
    (behind : c.dialogs.tail = rest) :
    Stepped c now (.key key)
      ({ c with dialogs := rest }.concludeEdit (op.perform g) now.millis) := by
  subst behind
  unfold concludeEdit
  dsimp only
  cases result : (op.perform g).2 with
  | error r => exact .refused asked loaded result
  | ok outcome =>
    have step : Stepped c now _ _ := .accepted asked loaded result
    rw [clears] at step
    rw [g.id_perform, id_of_group? loaded]
    exact step

theorem activateRow_stepped (free : c.dialogs = []) (press : key = .char ' ' ∨ key = .enter)
    (now : Moment) : Stepped c now (.key key) (c.activateRow now.millis) := by
  have behind : c.dialogs.tail = c.dialogs := by rw [free, List.tail_nil]
  unfold activateRow
  cases selected : c.selectedRow? with
  | none =>
    refine .dropped (.of_none ?_)
    unfold operation?
    rcases press with rfl | rfl <;> simp only [free, selected, Option.bind_none]
  | some row =>
    have asks := operation?_of_selectedRow? free press selected
    dsimp only
    cases loaded : c.group? row.group with
    | none =>
      refine .dropped ?_
      cases action : row.action with
      | toggle | select =>
        rw [action] at asks
        exact .of_group? asks loaded
      | edit =>
        rw [action] at asks
        exact .of_none asks
    | some g =>
      dsimp only
      cases action : row.action with
      | toggle =>
        rw [action] at asks
        exact .of_concludeEdit asks loaded rfl c.dialogs behind
      | select value =>
        rw [action] at asks
        exact .of_concludeEdit asks loaded rfl c.dialogs behind
      | edit =>
        rw [action] at asks
        dsimp only
        split
        next obstacle => exact .obstructed free press selected action loaded obstacle
        · exact .dropped (.of_none asks)
        next editable found =>
          have idle := (SettingGroup.obstacle?_eq_none_iff g).1 editable
          exact .opened free press selected action loaded idle found

theorem saveTab_stepped (free : c.dialogs = []) (now : Moment) :
    Stepped c now (.key (.char 's')) (c.saveTab now.millis) := by
  have asks : c.operation? (.char 's') = c.tab.saveTarget?.map fun id => (id, .beginSave) := by
    unfold operation?
    simp only [free]
  have same : { c with dialogs := c.dialogs.tail } = c := by rw [free, List.tail_nil, ← free]
  unfold saveTab
  cases target : c.tab.saveTarget? with
  | none =>
    rw [target] at asks
    exact .dropped (.of_none asks)
  | some id =>
    rw [target] at asks
    rw [Option.bind_some]
    cases loaded : c.group? id with
    | none => exact .dropped (.of_group? asks loaded)
    | some g =>
      have named : g.beginSave.1.id = id := (g.id_perform .beginSave).trans (id_of_group? loaded)
      dsimp only
      cases result : g.beginSave.2 with
      | error r =>
        have refused : (Operation.beginSave.perform g).2 = .error r :=
          congrArg (·.map EditOutcome.save) result
        have step : Stepped c now _ _ := .refused asks loaded refused
        rw [same] at step
        exact step
      | ok outcome =>
        have accepted : (Operation.beginSave.perform g).2 = .ok (.save outcome) :=
          congrArg (·.map EditOutcome.save) result
        have step : Stepped c now _ _ := .accepted asks loaded accepted
        rw [same] at step
        rw [named]
        exact step

theorem operation?_of_confirm {prompt : Prompt} {rest : List Dialog} {accepted : Bool}
    (front : c.dialogs = .confirm prompt :: rest)
    (answer : dialogAnswer? (.confirm prompt) key = some accepted) :
    c.operation? key = some (prompt.group, prompt.kind.answer accepted) := by
  unfold operation?
  rw [front]
  simp only [answer, Option.map_some]
  rfl

theorem answerPrompt_stepped {prompt : Prompt} {rest : List Dialog} {accepted : Bool}
    (front : c.dialogs = .confirm prompt :: rest)
    (answer : dialogAnswer? (.confirm prompt) key = some accepted) (now : Moment) :
    Stepped c now (.key key)
      (answerPrompt { c with dialogs := rest } prompt accepted now.millis) := by
  have asks := operation?_of_confirm front answer
  have behind : c.dialogs.tail = rest := by rw [front, List.tail_cons]
  have found : group? { c with dialogs := rest } prompt.group = c.group? prompt.group := rfl
  subst behind
  unfold answerPrompt
  rw [found]
  cases loaded : c.group? prompt.group with
  | none => exact .closed front answer (.of_group? asks loaded)
  | some g =>
    have named (op : Operation) : (op.perform g).1.id = prompt.group :=
      (g.id_perform op).trans (id_of_group? loaded)
    dsimp only
    cases kind : prompt.kind with
    | removal =>
      rw [kind] at asks
      dsimp only
      cases result : (g.resolveRemoval accepted).2 with
      | error r =>
        have refused : ((Operation.resolveRemoval accepted).perform g).2 = .error r :=
          congrArg (·.map EditOutcome.save) result
        exact .refused asks loaded refused
      | ok outcome =>
        have done : ((Operation.resolveRemoval accepted).perform g).2 = .ok (.save outcome) :=
          congrArg (·.map EditOutcome.save) result
        have its : (g.resolveRemoval accepted).1.id = prompt.group :=
          named (.resolveRemoval accepted)
        dsimp only
        rw [its]
        exact .accepted asks loaded done
    | terms name =>
      rw [kind] at asks
      dsimp only
      cases result : (g.answerTerms accepted).2 with
      | error r => exact .refused asks loaded result
      | ok outcome =>
        have its : (g.answerTerms accepted).1.id = prompt.group := named (.answerTerms accepted)
        dsimp only
        rw [its]
        exact .accepted asks loaded result

/-! ## Every event -/

theorem answerDialog_stepped {front : Dialog} {rest : List Dialog} {accepted : Bool}
    (shown : c.dialogs = front :: rest) (answer : dialogAnswer? front key = some accepted)
    (now : Moment) : Stepped c now (.key key) (c.answerDialog accepted now.millis) := by
  have closed (unasked : c.operation? key = none) :
      Stepped c now (.key key) ({ c with dialogs := rest }, []) :=
    .closed shown answer (.of_none unasked)
  unfold answerDialog
  rw [shown]
  cases front with
  | confirm prompt => exact answerPrompt_stepped shown answer now
  | alert | redirect => exact closed (by simp only [operation?, shown])
  | exitGuard warnings action =>
    cases accepted with
    | false => exact closed (by simp only [operation?, shown])
    | true =>
      obtain rfl := eq_of_dialogAnswer?_exitGuard answer
      have departs : Departs c now.millis _ _ _ := .agreed shown
      exact departs.finishExit nofun
  | editText id name label buffer =>
    cases accepted with
    | false =>
      have other : key ≠ .enter := fun enter => by
        rw [dialogAnswer?_editText_iff.2 enter] at answer
        cases answer
      exact closed (by simp only [operation?, shown, if_neg other])
    | true =>
      obtain rfl := dialogAnswer?_editText_iff.1 answer
      have asks : c.operation? .enter = some (id, .editText name buffer) := by
        simp only [operation?, shown, if_true]
      have found : group? { c with dialogs := rest } id = c.group? id := rfl
      simp only [if_true, found]
      cases loaded : c.group? id with
      | none => exact .closed shown answer (.of_group? asks loaded)
      | some g => exact .of_concludeEdit asks loaded rfl rest (by rw [shown, List.tail_cons])

/-- While no dialog is shown, a key is meant for the page. -/
theorem handle_key_of_free (free : c.dialogs = []) (key : Key) (now : Moment) :
    c.handle (.key key) now = c.pageKey key now.millis := by
  simp [handle, pressed, typed?, free]

theorem pageKey_stepped (key : Key) (free : c.dialogs = []) (now : Moment) :
    Stepped c now (.key key) (c.pageKey key now.millis) := by
  have quits : Departs c now.millis (.key (.char 'q')) .quit c := .quit free
  have reloads : Departs c now.millis (.key (.char 'r')) .reload c := .reload free
  unfold pageKey
  split
  · exact quits.leavePage (.quit free)
  · exact reloads.leavePage (.reload free)
  · exact .moved free (.turned _ (by decide))
  · exact .moved free (.turned _ (by decide))
  · exact .moved free (.turned _ (by decide))
  · exact .moved free (.turned _ (by decide))
  · exact .moved free (.turned _ (by decide))
  · exact .moved free (.turned _ (by decide))
  · exact .moved free (.next (by decide))
  · exact .moved free (.next (by decide))
  · exact .moved free (.previous (by decide))
  · exact .moved free (.previous (by decide))
  · exact activateRow_stepped free (.inl rfl) now
  · exact activateRow_stepped free (.inr rfl) now
  · exact saveTab_stepped free now
  · refine .dropped (.of_none ?_)
    simp only [operation?, free]

theorem pressed_stepped (key : Key) (now : Moment) :
    Stepped c now (.key key) (c.pressed key now.millis) := by
  unfold pressed
  cases typed : c.typed? key with
  | some c' =>
    unfold typed? at typed
    split at typed
    next front =>
      obtain ⟨text, into, rfl⟩ := Option.map_eq_some_iff.1 typed
      exact .typed front into
    · cases typed
  | none =>
    dsimp only
    cases shown : c.dialogs with
    | nil => exact pageKey_stepped key shown now
    | cons front rest =>
      dsimp only
      cases answer : dialogAnswer? front key with
      | some accepted => exact answerDialog_stepped shown answer now
      | none =>
        refine .dropped (.of_none ?_)
        cases front with
        | confirm prompt => simp only [operation?, shown, answer, Option.map_none]
        | editText id name label buffer =>
          have other : key ≠ .enter := by
            rintro rfl
            cases answer
          simp only [operation?, shown, if_neg other]
        | alert | exitGuard | redirect => simp only [operation?, shown]

/-- What every event makes of a console, and what it asks for. -/
theorem stepped (c : Console) (e : Event) (now : Moment) : Stepped c now e (c.handle e now) := by
  cases e with
  | tick =>
    show Stepped c now .tick (c.tick now.millis)
    by_cases due : c.isDue now.millis
    · have departs : Departs c now.millis _ _ _ := .due due
      rw [tick_of_isDue due]
      exact departs.leavePage .due
    · rw [tick_of_not_isDue due]
      exact .expired due
  | key key => exact pressed_stepped key now
  | ignored => exact .ignored
  | pageFetched result => exact .pageFetched result
  | subscriptionsFetched result => exact .subscriptionsFetched result
  | wikiFetched result => exact .wikiFetched result
  | institutionsFetched result => exact .institutionsFetched result
  | saveSettled id result => exact .settled id result

end Console

end SettingsConsole
