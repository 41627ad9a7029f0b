import SettingsConsole.Proofs.Console.ExitGuard
import SettingsConsole.Proofs.Console.Status

/-!
# Quitting

The console quits on two events only: the user asks for it while no dialog is shown and nothing is
unsaved, or agrees to the warning that is shown (`Console.quitting_handle`).  A group whose request
is out is unsaved, so the console never quits at once while something is being saved, and any other
key leaves everything behind the warning alone (`Console.quitting_asks_first`).
-/

namespace SettingsConsole

namespace Console

/-- The events on which the console quits. -/
inductive Quits (c : Console) : Event → Prop
  | asked : c.dialogs = [] → (∀ g ∈ c.groups, ¬ g.isDirty) → Quits c (.key (.char 'q'))
  | agreed {warnings rest} : c.dialogs = .exitGuard warnings .quit :: rest →
      Quits c (.key (.char 'y'))

variable {c : Console} {key : Key} {now : Nat}

theorem leavePage_quit :
    c.leavePage .quit now = if ∀ g ∈ c.groups, ¬ g.isDirty then ({ c with quitting := true }, [])
      else (c.pushDialog (.exitGuard c.unsavedWarnings .quit), []) := by
  have other : ExitAction.quit = .reload → ¬ c.isSaving := nofun
  rw [leavePage_of_free other]
  simp only [unsavedWarnings_eq_nil_iff]
  rfl

/-! ## Which events quit -/

theorem Departs.quitting_eq {e : Event} {action : ExitAction} {left : Console}
    (h : Departs c now e action left) : left.quitting = c.quitting := by
  cases h <;> rfl

/-- Every event but those that quit leaves it at that. -/
theorem quitting_or_quits (c : Console) (e : Event) (now : Moment) :
    (c.handle e now).1.quitting = c.quitting ∨ c.Quits e := by
  have step := c.stepped e now
  generalize c.handle e now = s at step
  cases step with
  | ignored | dropped | expired | opened | obstructed | typed | closed | refused => exact .inl rfl
  | guarded _ departs => exact .inl departs.quitting_eq
  | deferred departs | reloaded departs | unconnected departs => exact .inl departs.quitting_eq
  | quit departs clean =>
    right
    cases departs with
    | quit free => exact .asked free (unsavedWarnings_eq_nil_iff.1 (clean (.quit free)))
    | agreed front => exact .agreed front
  | moved _ moves =>
    obtain ⟨tab, selection, rfl, -⟩ := moves.exists_eq
    exact .inl rfl
  | @accepted key id op g outcome => exact .inl (quitting_applyEdit _ id outcome now.millis)
  | settled id result =>
    left
    rw [saveSettled_eq]
    rfl
  | pageFetched result | subscriptionsFetched result | wikiFetched result
  | institutionsFetched result => cases result <;> exact .inl rfl

theorem Quits.quitting {e : Event} (h : c.Quits e) (now : Moment) :
    (c.handle e now).1.quitting = true := by
  cases h with
  | asked free clean =>
    have left : c.handle (.key (.char 'q')) now = c.leavePage .quit now.millis := by
      rw [handle_key_of_free free]
      rfl
    rw [left, leavePage_quit, if_pos clean]
  | agreed front => simp [handle, pressed, typed?, front, dialogAnswer?, answerDialog, finishExit]

/-- The console quits exactly on the events that quit, and stays so. -/
theorem quitting_handle (c : Console) (e : Event) (now : Moment) :
    (c.handle e now).1.quitting = true ↔ c.quitting = true ∨ c.Quits e := by
  constructor
  · intro quits
    rcases c.quitting_or_quits e now with same | asked
    · exact .inl (same ▸ quits)
    · exact .inr asked
  · rintro (before | asked)
    · rcases c.quitting_or_quits e now with same | asked
      · rw [same, before]
      · exact asked.quitting now
    · exact asked.quitting now

/-! ## The warning -/

/-- A key that does not agree to the warning that is shown closes it, or does nothing. -/
theorem handle_exitGuard {warnings : List String} {action : ExitAction} {rest : List Dialog}
    (front : c.dialogs = .exitGuard warnings action :: rest) (other : key ≠ .char 'y')
    (now : Moment) :
    c.handle (.key key) now = (c, []) ∨
      c.handle (.key key) now = ({ c with dialogs := rest }, []) := by
  have untyped : c.typed? key = none := by
    unfold typed?
    rw [front]
  show c.pressed key now.millis = _ ∨ c.pressed key now.millis = _
  unfold pressed
  rw [untyped, front]
  dsimp only
  cases answer : dialogAnswer? (.exitGuard warnings action) key with
  | none => exact .inl rfl
  | some accepted =>
    cases accepted with
    | true => exact absurd (eq_of_dialogAnswer?_exitGuard answer) other
    | false =>
      right
      unfold answerDialog
      rw [front]
      rfl

/-- Whatever events come, a group whose request is out is unsaved. -/
theorem Reached.isDirty_of_isSaving {first : Console} (h : Reached first c)
    (unloaded : first.groups = []) {g : SettingGroup} (member : g ∈ c.groups) (out : g.isSaving) :
    g.isDirty := by
  have unsaved := (h.lived unloaded g member).grounded.unsaved
    (by rw [of_decide_eq_true out]; nofun)
  unfold SettingGroup.isDirty
  simpa using unsaved

/-- The console comes to quit exactly if the user asks for it while no dialog is shown and no loaded
group is unsaved, or agrees to the warning that is shown.  A group whose request is out is unsaved,
so that asking while one is out never quits, and a key other than the one that agrees closes the
warning or does nothing: it neither quits nor reloads, and no group changes. -/
theorem quitting_asks_first {first : Console} (h : Reached first c) (unloaded : first.groups = [])
    (now : Moment) :
    (∀ e, (c.handle e now).1.quitting = true ↔ c.quitting = true ∨ c.Quits e) ∧
    (∀ g ∈ c.groups, g.isSaving → g.isDirty) ∧
    (c.isSaving → (c.handle (.key (.char 'q')) now).1.quitting = c.quitting) ∧
    ∀ warnings action rest, c.dialogs = .exitGuard warnings action :: rest →
      ∀ key, key ≠ .char 'y' →
        c.handle (.key key) now = (c, []) ∨
          c.handle (.key key) now = ({ c with dialogs := rest }, []) := by
  have dirty (g : SettingGroup) (member : g ∈ c.groups) (out : g.isSaving) : g.isDirty :=
    h.isDirty_of_isSaving unloaded member out
  refine ⟨fun e => c.quitting_handle e now, dirty, fun saving => ?_,
    fun _ _ _ front _ other => handle_exitGuard front other now⟩
  obtain ⟨g, member, out⟩ := List.any_eq_true.1 saving
  refine (c.quitting_or_quits _ now).resolve_right fun quits => ?_
  cases quits with
  | asked free clean => exact clean g member (dirty g member out)

/-- The wiki is being saved when the user asks to quit, does not agree with Enter, and then does. -/
theorem quitting_asks_first_wiki :
    let now : Moment := ⟨0, 2026, 3, 14, 9, 0⟩
    let c := (Session.smallRun [.key (.char ' '), .key .tab, .key .tab,
      .pageFetched (.ok Session.smallPage)]).2.console
    let asked := (c.handle (.key (.char 'q')) now).1
    c.isSaving ∧ asked.quitting = false ∧
      asked.dialogs = [.exitGuard ["The changes on wiki setting are not submitted!"] .quit] ∧
      (asked.handle (.key .enter) now = (asked, []) ∨
        asked.handle (.key .enter) now = ({ asked with dialogs := [] }, [])) ∧
      (asked.handle (.key (.char 'y')) now).1.quitting = true := by
  intro now c asked
  have reached : Session.smallStart.console.Reached c :=
    (Session.run_smallRun (by decide)).reached
  have saving : c.isSaving := by decide
  have front : asked.dialogs =
      [.exitGuard ["The changes on wiki setting are not submitted!"] .quit] := by decide
  obtain ⟨-, -, unquit, -⟩ := quitting_asks_first reached rfl now
  obtain ⟨quits, -, -, closes⟩ :=
    quitting_asks_first (reached.handled (.key (.char 'q')) now) rfl now
  exact ⟨saving, unquit saving, front, closes _ _ _ front .enter nofun,
    (quits _).2 (.inr (.agreed front))⟩

end Console

end SettingsConsole
