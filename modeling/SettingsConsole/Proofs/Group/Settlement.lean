import SettingsConsole.Proofs.Group.History
import SettingsConsole.Proofs.Json.Object

/-!
# What a settled request leaves behind

From the moment a group hands out a request until the outcome comes in, every operation is refused
(`performAll_of_saving`), so the values on the screen stay those that were sent.  A success takes
exactly them as saved; a failure leaves the group as it was when the request was built.
-/

namespace SettingsConsole

namespace PayloadShape

/-- Whether the body holds the value of every setting under its key. -/
def holdsValues : PayloadShape → Bool
  | .flat | .nodeAttributes _ => true
  | .affiliation | .empty => false

/-- The value under a key in a body of the shape. -/
def valueAt? (shape : PayloadShape) (body : Json) (key : String) : Option Json :=
  match shape with
  | .flat => body.field? key
  | .nodeAttributes _ =>
    ((body.field? "data").bind (Json.field? "attributes")).bind (Json.field? key)
  | .affiliation | .empty => none

end PayloadShape

/-- The setting is the last one with the key. -/
def Setting.IsLast (settings : List Setting) (key : String) (s : Setting) : Prop :=
  ∃ before after, settings = before ++ s :: after ∧ s.key = key ∧ ∀ t ∈ after, t.key ≠ key

namespace Profile

/-- Under a key stands the value of the last setting with it. -/
theorem field?_valuesJson_iff {settings : List Setting} {key : String} {v : Json} :
    (valuesJson settings).field? key = some v ↔
      ∃ s, Setting.IsLast settings key s ∧ v = s.current.toJson := by
  rw [valuesJson, Json.field?_ofFields, List.lookup_eq_some_iff]
  constructor
  · rintro ⟨later, earlier, split, others⟩
    have forward := congrArg List.reverse split
    rw [List.reverse_reverse, List.reverse_append, List.reverse_cons, List.append_assoc,
      List.singleton_append] at forward
    obtain ⟨before, rest, rfl, -, late⟩ := List.map_eq_append_iff.1 forward
    obtain ⟨s, after, rfl, pair, last⟩ := List.map_eq_cons_iff.1 late
    cases pair
    refine ⟨s, ⟨before, after, rfl, rfl, fun t member same => ?_⟩, rfl⟩
    have listed : (t.key, t.current.toJson) ∈ later := by
      rw [← List.mem_reverse, ← last]
      exact List.mem_map_of_mem member
    simpa [same] using others _ listed
  · rintro ⟨s, ⟨before, after, rfl, rfl, others⟩, rfl⟩
    refine ⟨(after.map fun t => (t.key, t.current.toJson)).reverse,
      (before.map fun t => (t.key, t.current.toJson)).reverse, by simp, fun f member => ?_⟩
    obtain ⟨t, listed, rfl⟩ := List.mem_map.1 (List.mem_reverse.1 member)
    simpa using (others t listed).symm

/-- With distinct keys each setting's value stands under its key. -/
theorem field?_valuesJson {settings : List Setting}
    (distinct : (settings.map Setting.key).Nodup) {s : Setting} (member : s ∈ settings) :
    (valuesJson settings).field? s.key = some s.current.toJson := by
  have keys : (settings.map fun s => (s.key, s.current.toJson)).map Prod.fst =
      settings.map Setting.key := List.map_map
  exact Json.field?_ofFields_of_mem (keys ▸ distinct) (List.mem_map.2 ⟨s, member, rfl⟩)

theorem valueAt?_buildPayload {p : Profile} (holds : p.payload.holdsValues)
    {settings : List Setting} (distinct : (settings.map Setting.key).Nodup) {s : Setting}
    (member : s ∈ settings) :
    (p.buildPayload settings).bind (p.payload.valueAt? · s.key) = some s.current.toJson := by
  unfold buildPayload
  cases shape : p.payload with
  | flat => exact field?_valuesJson distinct member
  | nodeAttributes node =>
    simp only [Option.bind_some, PayloadShape.valueAt?, Json.field?_ofFields]
    exact field?_valuesJson distinct member
  | affiliation => simp [shape, PayloadShape.holdsValues] at holds
  | empty => simp [shape, PayloadShape.holdsValues] at holds

end Profile

namespace SettingGroup

open Operation

theorem performAll_of_saving {g : SettingGroup} (out : g.phase = .saving)
    (ops : List Operation) : performAll ops g = g := by
  induction ops with
  | nil => rfl
  | cons op ops ih =>
    show performAll ops (op.perform g).1 = g
    rw [((g.performed op).of_saving out).1, ih]

theorem isEmpty_changes_captureBaseline (g : SettingGroup) :
    g.captureBaseline.changes.isEmpty := by
  refine (Changes.isEmpty_ofSettings_iff _).2 fun s member => ?_
  obtain ⟨t, -, rfl⟩ := List.mem_map.1 member
  rw [Setting.isDirty_acknowledged]
  exact Bool.false_ne_true

theorem find?_acknowledged (settings : List Setting) (key : String) :
    Setting.find? (settings.map Setting.acknowledged) key =
      (Setting.find? settings key).map Setting.acknowledged :=
  List.find?_map

/-- The payload speaks of the values that are shown, not of those that are saved. -/
theorem buildPayload_acknowledged (p : Profile) (settings : List Setting) :
    p.buildPayload (settings.map Setting.acknowledged) = p.buildPayload settings := by
  have values : Profile.valuesJson (settings.map Setting.acknowledged) =
      Profile.valuesJson settings := by
    unfold Profile.valuesJson
    rw [List.map_map]
    rfl
  unfold Profile.buildPayload
  rw [values, find?_acknowledged, Option.bind_map]
  rfl

/-- Once a request is handed out, whatever is tried before its outcome comes in, a success takes
the values that were sent as saved, and a failure leaves every value as it was when the request was
built. -/
theorem success_saves_what_was_sent {g : SettingGroup} {op : Operation} {request : Submission}
    (sent : (op.perform g).2 = .ok (.save (.submit request))) (later : List Operation) :
    let built := (op.perform g).1
    let waiting := performAll later built
    let saved := waiting.succeed.1
    request = built.submission ∧
      (∀ s ∈ saved.settings, s.saved = s.current) ∧ saved.changes.isEmpty ∧
      saved.phase = .idle ∧ saved.profile.buildPayload saved.settings = request.payload ∧
      ((g.settings.map Setting.key).Nodup → g.profile.payload.holdsValues →
        ∀ s ∈ saved.settings,
          request.payload.bind (g.profile.payload.valueAt? · s.key) = some s.saved.toJson) ∧
      waiting.fail.1.settings = built.settings := by
  intro built waiting saved
  have step := g.performed op
  rw [sent] at step
  obtain ⟨out, carried, -⟩ := step.of_submit
  have unmoved : waiting = built := performAll_of_saving out later
  have profile : saved.profile = g.profile := by
    show waiting.profile = g.profile
    rw [unmoved, step.profile]
  have settings : saved.settings = built.settings.map Setting.acknowledged := by
    rw [← unmoved]
    rfl
  have settled : ∀ s ∈ saved.settings, s.saved = s.current := by
    intro s member
    rw [settings] at member
    obtain ⟨t, -, rfl⟩ := List.mem_map.1 member
    rfl
  have payload : saved.profile.buildPayload saved.settings = request.payload := by
    rw [settings, buildPayload_acknowledged, carried, profile, ← step.profile]
    rfl
  refine ⟨carried, settled, isEmpty_changes_captureBaseline _, rfl, payload, ?_, ?_⟩
  · intro distinct holds s member
    have distinct : (saved.settings.map Setting.key).Nodup := by
      rw [settings, List.map_map]
      show (built.settings.map Setting.key).Nodup
      rw [step.map_key]
      exact distinct
    rw [← profile] at holds ⊢
    rw [settled s member, ← payload]
    exact Profile.valueAt?_buildPayload holds distinct member
  · rw [← unmoved]
    rfl

/-- A title is edited and saved; what is tried while the request is out is refused. -/
theorem success_saves_what_was_sent_title :
    let p := Profile.details "https://api.osf.example/v2/" "abc12" "support@osf.io"
    let settings := [Setting.text "title" "Title" "Demo" true,
      .text "description" "Description" "" false]
    let (_, g) := played p settings [.operate (.editText "title" "Synth")]
    let later : List Operation := [.editText "title" "Late", .beginSave, .resolveRemoval false]
    let waiting := performAll later (Operation.perform .beginSave g).1
    (∃ request, (Operation.perform .beginSave g).2 = .ok (.save (.submit request)) ∧
      ∀ s ∈ waiting.succeed.1.settings,
        request.payload.bind (p.payload.valueAt? · s.key) = some s.saved.toJson) ∧
      waiting.succeed.1.settings.map (·.saved) = [.text "Synth", .text ""] := by
  intro p settings
  have sent : (Operation.perform .beginSave (played p settings
    [.operate (.editText "title" "Synth")]).2).2 = .ok (.save (.submit _)) := rfl
  obtain ⟨-, -, -, -, -, values, -⟩ := success_saves_what_was_sent sent
    [.editText "title" "Late", .beginSave, .resolveRemoval false]
  exact ⟨⟨_, sent, values (by decide) rfl⟩, by decide⟩

end SettingGroup

end SettingsConsole
