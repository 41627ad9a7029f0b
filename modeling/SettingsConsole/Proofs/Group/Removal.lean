import Mathlib.Data.List.Nodup
import SettingsConsole.Proofs.Group.History

/-!
# Removals are confirmed

A group that asks before it removes anything hands out a request that switches something off only
when the question about exactly that was answered with yes.  The question is asked at one step and
the request built at a later one; what ties them together is that a group that waits for the answer
is the one its latest question was about (`removalQuestion_of_confirming`).
-/

namespace SettingsConsole

namespace SettingGroup

variable {p : Profile} {settings : List Setting} {log : List Entry} {g g' : SettingGroup}

/-- With distinct keys a key is listed exactly if its setting was switched off. -/
theorem mem_turnedOff_iff (distinct : (g.settings.map Setting.key).Nodup) {s : Setting}
    (member : s ∈ g.settings) : s.key ∈ g.changes.turnedOff ↔ s.direction? = some .off := by
  constructor
  · intro listed
    obtain ⟨t, t_member, off, same⟩ := Changes.mem_keysOf.1 listed
    rwa [← List.inj_on_of_nodup_map distinct t_member member same]
  · intro off
    exact Changes.mem_keysOf.2 ⟨s, member, off, rfl⟩

/-- With distinct keys the question lists what was switched off, label by label. -/
theorem items_removalPrompt (distinct : (g.settings.map Setting.key).Nodup) :
    g.removalPrompt.items = g.switchedOff.map Setting.label := by
  have listed_iff : ∀ s ∈ g.settings,
      decide (s.key ∈ g.changes.turnedOff) = decide (s.direction? = some .off) :=
    fun s member => decide_eq_decide.2 (mem_turnedOff_iff distinct member)
  exact congrArg (List.map Setting.label) (List.filter_congr listed_iff)

/-- An operation that leaves a group waiting for an answer has just asked, or did nothing. -/
theorem Performed.of_confirming {op : Operation} {result : Except Refusal EditOutcome}
    (h : Performed g op g' result) (waits : g'.phase = .confirming) :
    g'.AsksRemoval ∧
        result.toOption.bind EditOutcome.removalQuestion? = some g'.removalPrompt ∨
      g' = g ∧ result.toOption.bind EditOutcome.removalQuestion? = none := by
  have idle_ne {g₁ : SettingGroup} (idle : g₁.phase = .idle) (e : g₁.phase = .confirming) :
      False := by
    rw [idle] at e
    cases e
  cases h with
  | refused => exact .inr ⟨rfl, rfl⟩
  | forgotten => cases waits
  | redirected => exact .inr ⟨rfl, rfl⟩
  | asked => cases waits
  | edited edit => exact (idle_ne edit.idle waits).elim
  | saved edit _ save =>
    cases save with
    | unchanged => exact (idle_ne edit.idle waits).elim
    | asked _ asks => exact .inl ⟨asks, rfl⟩
    | sent => cases waits
  | declined => cases waits
  | confirmed => cases waits
  | takenBack => cases waits

/-- The latest question of a group that waits for the answer is about the group as it is. -/
theorem History.removalQuestion_of_confirming (h : History p settings log g)
    (orderly : Orderly log) (waits : g.phase = .confirming) :
    log.findSome? Entry.removalQuestion? = some g.removalPrompt := by
  induction h with
  | created => cases waits
  | @moved log g m h ih =>
    cases m with
    | operate op =>
      rcases (g.performed op).of_confirming waits with ⟨-, asked⟩ | ⟨same, silent⟩
      · have asked : Entry.removalQuestion? ⟨g, .operate op⟩ = _ := asked
        rw [List.findSome?_cons, asked]
        rfl
      · have silent : Entry.removalQuestion? ⟨g, .operate op⟩ = none := silent
        have same : Move.apply g (.operate op) = g := same
        rw [List.findSome?_cons, silent, same]
        exact ih (fun e older => orderly e (List.mem_cons_of_mem _ older)) (same ▸ waits)
    | succeed => cases waits
    | fail => cases waits
    | capture => cases orderly _ List.mem_cons_self

/-- In an orderly history of a group that asks before it removes anything, a request that switches
something off is handed out by the answer yes, and the latest question listed the labels of exactly
what is switched off in the state that the request carries. -/
theorem removal_sent_only_confirmed (asks : p.confirmsRemoval)
    (distinct : (settings.map Setting.key).Nodup) (h : History p settings log g)
    (orderly : Orderly log) {op : Operation} {request : Submission}
    (sent : (op.perform g).2 = .ok (.save (.submit request)))
    (removes : (op.perform g).1.changes.turnedOff ≠ []) :
    op = .resolveRemoval true ∧ request = (op.perform g).1.submission ∧
      ∃ question, log.findSome? Entry.removalQuestion? = some question ∧
        question.items = (op.perform g).1.switchedOff.map Setting.label := by
  have step := g.performed op
  rw [sent] at step
  obtain ⟨-, carried, unasked | ⟨answered, waits, left⟩⟩ := step.of_submit
  · refine absurd ⟨?_, ?_⟩ unasked
    · rw [step.profile, h.profile]
      exact asks
    · simpa using removes
  · refine ⟨answered, carried, g.removalPrompt, h.removalQuestion_of_confirming orderly waits, ?_⟩
    rw [items_removalPrompt (h.map_key ▸ distinct), left]
    rfl

/-- Two add-ons are switched off and one on; what is tried while the question is open changes
nothing. -/
theorem removal_sent_only_confirmed_addons :
    let p := Profile.addons "https://osf.example/api/v1/project/abc12/" "support@osf.io"
    let settings := [Setting.flag "dropbox" "Dropbox" true, .flag "github" "GitHub" false,
      .flag "s3" "Amazon S3" true]
    let moves : List Move := [.operate (.toggle "dropbox"), .operate .beginSave,
      .operate (.toggle "s3"), .operate (.toggle "github"), .operate (.toggle "dropbox")]
    let (log, g) := played p settings moves
    Orderly log ∧ (Operation.perform (.resolveRemoval true) g).1.changes.turnedOff ≠ [] ∧
      ∃ question, log.findSome? Entry.removalQuestion? = some question ∧
        question.items = ["Dropbox", "Amazon S3"] := by
  intro p settings moves
  have sent : (Operation.perform (.resolveRemoval true) (played p settings moves).2).2 =
    .ok (.save (.submit _)) := rfl
  obtain ⟨-, -, question, latest, items⟩ := removal_sent_only_confirmed rfl (by decide)
    (history_played p settings moves) (by decide) sent (by decide)
  exact ⟨by decide, by decide, question, latest, items.trans (by decide)⟩

end SettingGroup

end SettingsConsole
