import SettingsConsole.Proofs.Group.Settlement

/-!
# The save cycle

A group is clean, edited, asking or saving.  Whatever it waits for, some change of it is not saved
(`Grounded`), so that a request that fails leaves it edited and never clean; and it waits for the
outcome of exactly one request as long as it is saving (`follows_save_cycle`).

An edit writes its value before the save that follows it, and the answer to a question ends the
question before anything else.  Neither is ever refused after that, so a refused operation changes
nothing (`refusal_changes_nothing`).
-/

namespace SettingsConsole

/-- The request that an edit or a save hands out. -/
def EditOutcome.request? : EditOutcome → Option Submission
  | .save (.submit request) => some request
  | _ => none

namespace SettingGroup

variable {p : Profile} {settings : List Setting} {log : List Entry} {g g' : SettingGroup}
  {op : Operation} {result : Except Refusal EditOutcome}

/-! ## Refused operations -/

/-- An operation that leaves a group waiting for an answer about terms has just switched the setting
on, or did nothing. -/
theorem Performed.of_consenting (h : Performed g op g' result) {key : String}
    (waits : g'.phase = .consenting key) :
    g' = g ∨ ∃ s, g.setting? key = some s ∧ s.terms.isSome ∧
      g'.setting? key = some { s with current := .flag true } := by
  have idle_ne {g₁ : SettingGroup} (idle : g₁.phase = .idle) (e : g₁.phase = .consenting key) :
      False := by
    rw [idle] at e
    cases e
  cases h with
  | refused => exact .inl rfl
  | forgotten => cases waits
  | redirected => exact .inl rfl
  | asked _ found _ _ asks =>
    cases waits
    exact .inr ⟨_, found, Option.isSome_of_eq_some asks, Setting.find?_assign_self found _⟩
  | edited edit => exact (idle_ne edit.idle waits).elim
  | saved edit _ save =>
    cases save with
    | unchanged => exact (idle_ne edit.idle waits).elim
    | asked => cases waits
    | sent => cases waits
  | declined => cases waits
  | confirmed => cases waits
  | takenBack => cases waits

/-- The terms that are asked about are those of a setting of the group, which is on. -/
theorem History.terms_of_consenting (h : History p settings log g) {key : String}
    (waits : g.phase = .consenting key) :
    ∃ s, g.setting? key = some s ∧ s.terms.isSome ∧ s.current = .flag true := by
  induction h with
  | created => cases waits
  | @moved log g m h ih =>
    cases m with
    | operate op =>
      rcases (g.performed op).of_consenting waits with same | ⟨s, -, asks, found⟩
      · have same : Move.apply g (.operate op) = g := same
        rw [same]
        exact ih (same ▸ waits)
      · exact ⟨_, found, asks, rfl⟩
    | succeed => cases waits
    | fail => cases waits
    | capture =>
      obtain ⟨s, found, asks, on⟩ := ih waits
      have captured : (Move.apply g .capture).setting? key = some s.acknowledged :=
        (find?_acknowledged g.settings key).trans (congrArg (Option.map _) found)
      exact ⟨s.acknowledged, captured, asks, on⟩

theorem History.setting_of_consenting (h : History p settings log g) {key : String}
    (waits : g.phase = .consenting key) : ∃ s, g.setting? key = some s := by
  obtain ⟨s, found, -⟩ := h.terms_of_consenting waits
  exact ⟨s, found⟩

/-- After any history, an operation that is refused leaves the group as it was. -/
theorem refusal_changes_nothing (h : History p settings log g) (op : Operation) {r : Refusal}
    (refused : (op.perform g).2 = .error r) : (op.perform g).1 = g := by
  have step := g.performed op
  rw [refused] at step
  generalize (op.perform g).1 = g' at step ⊢
  cases step with
  | refused => rfl
  | forgotten waits missing =>
    obtain ⟨s, found⟩ := h.setting_of_consenting waits
    rw [missing] at found
    cases found

/-- While the terms of an add-on are asked about, neither another add-on can be switched nor a
removal be confirmed. -/
theorem refusal_changes_nothing_addons :
    let p := Profile.addons "https://osf.example/api/v1/project/abc12/" "support@osf.io"
    let settings := [Setting.flag "dropbox" "Dropbox" true,
      (Setting.flag "s3" "Amazon S3" false).withTerms (some "Data is stored abroad.")]
    let (_, g) := played p settings [.operate (.toggle "s3"), .operate (.toggle "dropbox")]
    g.phase = .consenting "s3" ∧
      (Operation.perform (.toggle "dropbox") g).2 = .error .promptOpen ∧
      (Operation.perform (.toggle "dropbox") g).1 = g ∧
      (Operation.perform (.resolveRemoval true) g).2 = .error .nothingAsked ∧
      (Operation.perform (.resolveRemoval true) g).1 = g := by
  intro p settings
  have history := history_played p settings [.operate (.toggle "s3"), .operate (.toggle "dropbox")]
  exact ⟨by decide, rfl, refusal_changes_nothing history (.toggle "dropbox") rfl,
    rfl, refusal_changes_nothing history (.resolveRemoval true) rfl⟩

/-! ## What a group waits for is there -/

/-- A question about a removal is due, and whatever the group waits for, some change is not
saved. -/
structure Grounded (g : SettingGroup) : Prop where
  removal : g.phase = .confirming → g.AsksRemoval
  unsaved : g.phase ≠ .idle → ¬ g.changes.isEmpty

theorem Grounded.of_idle (idle : g.phase = .idle) : g.Grounded :=
  ⟨fun waits => absurd (waits.symm.trans idle) nofun, fun waits => absurd idle waits⟩

theorem AsksRemoval.not_isEmpty (h : g.AsksRemoval) : ¬ g.changes.isEmpty := by
  intro clean
  simp only [Changes.isEmpty, Bool.and_eq_true] at clean
  exact h.2 clean.1.1

theorem not_isEmpty_of_mem {s : Setting} (member : s ∈ g.settings) (dirty : s.isDirty) :
    ¬ g.changes.isEmpty :=
  fun clean => (Changes.isEmpty_ofSettings_iff _).1 clean s member dirty

theorem Saved.grounded {outcome : SaveOutcome} (h : Saved g g' outcome) (idle : g.phase = .idle) :
    g'.Grounded := by
  cases h with
  | unchanged => exact .of_idle idle
  | asked dirty asks => exact ⟨fun _ => asks, fun _ => dirty⟩
  | sent dirty => exact ⟨nofun, fun _ => dirty⟩

theorem Performed.grounded (h : Performed g op g' result) (grounded : g.Grounded) :
    g'.Grounded := by
  cases h with
  | refused => exact grounded
  | forgotten => exact .of_idle rfl
  | redirected => exact grounded
  | @asked key s _ _ found _ _ _ unknown =>
    refine ⟨nofun, fun _ => not_isEmpty_of_mem (Setting.mem_assign_of_find? found _) ?_⟩
    -- The flag is on now, and nothing was on in what is saved.
    refine decide_eq_true fun same : Setting.Value.flag true = s.saved => unknown ?_
    rw [← same]
    rfl
  | edited edit => exact .of_idle edit.idle
  | saved edit _ save => exact save.grounded edit.idle
  | declined => exact .of_idle rfl
  | confirmed waits => exact ⟨nofun, fun _ => (grounded.removal waits).not_isEmpty⟩
  | takenBack => exact .of_idle rfl

theorem History.grounded (h : History p settings log g) (orderly : Orderly log) : g.Grounded := by
  induction h with
  | created => exact .of_idle rfl
  | @moved log g m h ih =>
    have grounded := ih fun e older => orderly e (List.mem_cons_of_mem _ older)
    cases m with
    | operate op => exact (g.performed op).grounded grounded
    | succeed => exact .of_idle rfl
    | fail => exact .of_idle rfl
    | capture => cases orderly _ List.mem_cons_self

/-! ## Requests and their outcomes -/

/-- The request that was handed out by the move. -/
def Entry.request? (e : Entry) : Option Submission := e.outcome?.bind EditOutcome.request?

/-- Whether a move is the outcome of a request. -/
def Move.settles : Move → Bool
  | .succeed | .fail => true
  | .operate _ | .capture => false

/-- The number of requests whose outcome the group waits for. -/
def pending (g : SettingGroup) : Nat := if g.phase = .saving then 1 else 0

theorem pending_of_ne (other : g.phase ≠ .saving) : g.pending = 0 := if_neg other

theorem pending_of_idle (idle : g.phase = .idle) : g.pending = 0 :=
  pending_of_ne (by rw [idle]; nofun)

theorem Edited.pending {g₁ : SettingGroup} (h : Edited g op g₁) : g.pending = 0 := by
  cases h with
  | assigned idle => exact pending_of_idle idle
  | agreed waits => exact pending_of_ne (by rw [waits]; nofun)
  | untouched idle => exact pending_of_idle idle

/-- A group that waits for one request more has just handed it out. -/
theorem Performed.pending (h : Performed g op g' result) :
    g'.pending = g.pending +
      if (result.toOption.bind EditOutcome.request?).isSome then 1 else 0 := by
  cases h with
  | refused => rfl
  | forgotten waits => rw [pending_of_ne (g := g) (by rw [waits]; nofun)]; rfl
  | redirected => rfl
  | asked idle => rw [pending_of_idle idle]; rfl
  | edited edit => rw [edit.pending, pending_of_idle edit.idle]; rfl
  | saved edit _ save =>
    rw [edit.pending]
    cases save with
    | unchanged => exact pending_of_idle edit.idle
    | asked => rfl
    | sent => rfl
  | declined waits => rw [pending_of_ne (g := g) (by rw [waits]; nofun)]; rfl
  | confirmed waits => rw [pending_of_ne (g := g) (by rw [waits]; nofun)]; rfl
  | takenBack waits => rw [pending_of_ne (g := g) (by rw [waits]; nofun)]; rfl

/-- Every request that was handed out has had its outcome, but for the one that the group waits
for. -/
theorem History.countP_request? (h : History p settings log g) (orderly : Orderly log) :
    log.countP (·.request?.isSome) = log.countP (·.move.settles) + g.pending := by
  induction h with
  | created => rfl
  | @moved log g m h ih =>
    have before := ih fun e older => orderly e (List.mem_cons_of_mem _ older)
    have allowed := orderly _ List.mem_cons_self
    rw [List.countP_cons, List.countP_cons, before]
    cases m with
    | operate op =>
      have step : (Move.apply g (.operate op)).pending =
          g.pending + if (Entry.request? ⟨g, .operate op⟩).isSome then 1 else 0 :=
        (g.performed op).pending
      rw [step, if_neg (show ¬ (Move.operate op).settles from Bool.false_ne_true), Nat.add_zero,
        Nat.add_assoc]
    | succeed =>
      have out : g.pending = 1 := if_pos (of_decide_eq_true allowed)
      rw [out]
      rfl
    | fail =>
      have out : g.pending = 1 := if_pos (of_decide_eq_true allowed)
      rw [out]
      rfl
    | capture => cases allowed

/-! ## The cycle -/

/-- What a save of an idle group comes to. -/
theorem beginSave_iff (idle : g.phase = .idle) :
    ((∃ notice, g.beginSave.2 = .ok (.unchanged notice)) ↔ g.changes.isEmpty) ∧
      ((∃ question, g.beginSave.2 = .ok (.confirm question)) ↔ g.AsksRemoval) ∧
      ((∃ request, g.beginSave.2 = .ok (.submit request)) ↔
        ¬ g.changes.isEmpty ∧ ¬ g.AsksRemoval) := by
  obtain ⟨g', outcome, begun, saved⟩ := beginSave_saved idle
  rw [begun]
  cases saved with
  | unchanged clean =>
    have unasked : ¬ g.AsksRemoval := fun asks => asks.not_isEmpty clean
    simp [clean, unasked]
  | asked dirty asks => simp [dirty, asks]
  | sent dirty unasked => simp [dirty, unasked]

theorem asksRemoval_iff : g.AsksRemoval ↔ g.profile.confirmsRemoval ∧ g.changes.turnedOff ≠ [] := by
  unfold AsksRemoval
  rw [List.isEmpty_iff]

theorem status_fail (dirty : ¬ g.changes.isEmpty) : g.fail.1.status = .edited := by
  show (if !g.changes.isEmpty then GroupStatus.edited else .clean) = .edited
  exact if_pos (by simpa using dirty)

theorem status_succeed (g : SettingGroup) : g.succeed.1.status = .clean := by
  show (if !g.captureBaseline.changes.isEmpty then GroupStatus.edited else .clean) = .clean
  exact if_neg (by simp [g.isEmpty_changes_captureBaseline])

/-- A group goes through the save cycle in every orderly history.  It asks about a removal only
where there is one to ask about, and sends only what has changed; a save of an idle group sends
nothing, asks first or sends, as its changes demand; while a request is out every operation is
refused and changes nothing, so that exactly one request is out; and a success leaves the group
clean, a failure edited. -/
theorem follows_save_cycle (h : History p settings log g) (orderly : Orderly log) :
    ((g.phase = .confirming → p.confirmsRemoval ∧ g.changes.turnedOff ≠ []) ∧
      (g.phase = .saving → ¬ g.changes.isEmpty)) ∧
    (g.phase = .idle →
      ((∃ notice, g.beginSave.2 = .ok (.unchanged notice)) ↔ g.changes.isEmpty) ∧
      ((∃ question, g.beginSave.2 = .ok (.confirm question)) ↔
        p.confirmsRemoval ∧ g.changes.turnedOff ≠ []) ∧
      ((∃ request, g.beginSave.2 = .ok (.submit request)) ↔
        ¬ g.changes.isEmpty ∧ ¬ (p.confirmsRemoval ∧ g.changes.turnedOff ≠ []))) ∧
    ((g.phase = .saving → ∀ op : Operation,
        (op.perform g).1 = g ∧ ∃ r, (op.perform g).2 = .error r) ∧
      log.countP (·.request?.isSome) = log.countP (·.move.settles) +
        if g.phase = .saving then 1 else 0) ∧
    (g.succeed.1.status = .clean ∧ (g.phase = .saving → g.fail.1.status = .edited)) := by
  have grounded := h.grounded orderly
  have asks_iff := g.asksRemoval_iff
  rw [h.profile] at asks_iff
  rw [← asks_iff]
  have unsaved (out : g.phase = .saving) : ¬ g.changes.isEmpty :=
    grounded.unsaved (by rw [out]; nofun)
  exact ⟨⟨grounded.removal, unsaved⟩, beginSave_iff,
    ⟨fun out op => (g.performed op).of_saving out, h.countP_request? orderly⟩,
    g.status_succeed, fun out => status_fail (unsaved out)⟩

/-- An add-on is switched off, the removal confirmed and the request failed; the save is tried again
and its request is out. -/
theorem follows_save_cycle_addons :
    let p := Profile.addons "https://osf.example/api/v1/project/abc12/" "support@osf.io"
    let settings := [Setting.flag "dropbox" "Dropbox" true, .flag "github" "GitHub" false]
    let moves : List Move := [.operate (.resolveRemoval true), .operate .beginSave, .fail,
      .operate (.resolveRemoval true), .operate .beginSave, .operate (.toggle "dropbox")]
    let (log, g) := played p settings moves
    Orderly log ∧ g.phase = .saving ∧ ¬ g.changes.isEmpty ∧
      log.countP (·.move.settles) = 1 ∧ log.countP (·.request?.isSome) = 2 ∧
      g.fail.1.status = .edited := by
  intro p settings moves
  obtain ⟨⟨-, unsaved⟩, -, ⟨-, requests⟩, -, fails⟩ :=
    follows_save_cycle (history_played p settings moves) (by decide)
  have out : (played p settings moves).2.phase = .saving := by decide
  have settled : (played p settings moves).1.countP (·.move.settles) = 1 := by decide
  rw [settled, if_pos out] at requests
  exact ⟨by decide, out, unsaved out, settled, requests, fails out⟩

end SettingGroup

end SettingsConsole
