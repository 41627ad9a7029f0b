import Mathlib.Data.List.Forall2
import SettingsConsole.Proofs.Group.SaveCycle

/-!
# Valid values

A group that is created with values of the right kinds holds valid values only, apart from those it
was created with.  A switch looks at the value that it turns, a selection and a text at the kind of
their setting, and a refusal of terms at nothing; so what carries the argument is that value and
kind go together, and that the setting whose terms are asked about is a flag
(`History.terms_of_consenting`).  `Setting.Revised` says what a move makes of one setting.
-/

namespace SettingsConsole

namespace Setting

/-- Whether a value is of a kind, valid or not. -/
def Kind.suits : Kind → Value → Bool
  | .boolean, .flag _ | .enumerated _ _, .choice _ | .text _, .text _ => true
  | _, _ => false

/-- The values that are valid for a kind. -/
inductive Kind.Admits : Kind → Value → Prop
  | flag (on) : Admits .boolean (.flag on)
  | option {o options clearable} : o ∈ options →
      Admits (.enumerated options clearable) (.choice (some o.value))
  | cleared {options} : Admits (.enumerated options true) (.choice none)
  | text {content} {required : Bool} : ¬ (required ∧ Text.saysNothing content) →
      Admits (.text required) (.text content)

/-- The values that a setting may come to hold: the one it was given with, and the valid ones. -/
def MayHold (first : Setting) (v : Value) : Prop := v = first.current ∨ first.kind.Admits v

/-- The setting is the one that was given, with values that it may hold. -/
structure Sound (first now : Setting) : Prop where
  form : now.form = first.form
  current : first.MayHold now.current
  saved : first.MayHold now.saved

/-- What a move makes of a setting. -/
inductive Revised (s : Setting) : Setting → Prop
  | kept : Revised s s
  | restored : Revised s s.restored
  | acknowledged : Revised s s.acknowledged
  | switched {was} (on) : s.current = .flag was → Revised s { s with current := .flag on }
  | given {v} : s.kind.Admits v → Revised s { s with current := v }

variable {first now next : Setting} {v : Value}

theorem Kind.Admits.suits {k : Kind} (h : k.Admits v) : k.suits v := by
  cases h <;> rfl

theorem Kind.admits_flag {k : Kind} {was : Bool} (flag : k.suits (.flag was)) (on : Bool) :
    k.Admits (.flag on) := by
  cases k with
  | boolean => exact .flag on
  | enumerated => cases flag
  | text => cases flag

theorem MayHold.suits (suited : first.kind.suits first.current) (h : first.MayHold v) :
    first.kind.suits v := by
  rcases h with rfl | valid
  · exact suited
  · exact valid.suits

/-- A move leaves a sound setting sound. -/
theorem Sound.revised (suited : first.kind.suits first.current) (sound : Sound first now)
    (h : Revised now next) : Sound first next := by
  have kind : now.kind = first.kind := congrArg Form.kind sound.form
  cases h with
  | kept => exact sound
  | restored => exact ⟨sound.form, sound.saved, sound.saved⟩
  | acknowledged => exact ⟨sound.form, sound.current, sound.current⟩
  | switched on was =>
    have flag := sound.current.suits suited
    rw [was] at flag
    exact ⟨sound.form, .inr (Kind.admits_flag flag on), sound.saved⟩
  | given valid => exact ⟨sound.form, .inr (kind ▸ valid), sound.saved⟩

theorem forall₂_assign {R : Setting → Setting → Prop} (refl : ∀ s, R s s) {key : String}
    {settings : List Setting} {s : Setting} (found : find? settings key = some s)
    (edit : R s { s with current := v }) : List.Forall₂ R settings (assign key v settings) := by
  induction settings with
  | nil => cases found
  | cons first rest ih =>
    unfold assign
    unfold find? at found ih
    by_cases here : first.key = key
    · rw [List.find?_cons_of_pos (by simpa using here)] at found
      rw [if_pos here, Option.some.inj found]
      exact .cons edit (List.forall₂_same.2 fun s _ => refl s)
    · rw [List.find?_cons_of_neg (by simpa using here)] at found
      rw [if_neg here]
      exact .cons (refl first) (ih found)

/-- Lists of settings of the same forms have the same keys, so that a key finds the same place. -/
theorem exists_find?_of_forall₂ {given held : List Setting} (h : List.Forall₂ Sound given held)
    {key : String} (found : find? given key = some first) :
    ∃ now, find? held key = some now ∧ Sound first now := by
  induction h with
  | nil => cases found
  | @cons g n given held sound _ ih =>
    have same : n.key = g.key := congrArg Form.key sound.form
    unfold find? at found ih ⊢
    by_cases here : g.key = key
    · rw [List.find?_cons_of_pos (by simpa using here)] at found
      rw [List.find?_cons_of_pos (by simpa [same] using here), ← Option.some.inj found]
      exact ⟨n, rfl, sound⟩
    · rw [List.find?_cons_of_neg (by simpa using here)] at found
      rw [List.find?_cons_of_neg (by simpa [same] using here)]
      exact ih found

theorem exists_sound_of_mem {given held : List Setting} (h : List.Forall₂ Sound given held)
    (member : now ∈ held) : ∃ first ∈ given, Sound first now := by
  induction h with
  | nil => cases member
  | @cons g n given held sound _ ih =>
    rcases List.mem_cons.1 member with rfl | later
    · exact ⟨g, List.mem_cons_self, sound⟩
    · obtain ⟨first, listed, sound⟩ := ih later
      exact ⟨first, List.mem_cons_of_mem _ listed, sound⟩

end Setting

/-! ## What a request holds -/

/-- The value that a body of the shape holds for the setting with the key. -/
def PayloadShape.sent? (shape : PayloadShape) (body : Json) (key : String) : Option Json :=
  match shape with
  | .affiliation =>
    if key = Profile.institutionKey then (body.field? "data").bind (Json.field? "id") else none
  | .flat | .nodeAttributes _ | .empty => shape.valueAt? body key

namespace Profile

variable {p : Profile} {settings : List Setting} {key : String} {v : Json}

theorem mem_of_field?_valuesJson (sent : (valuesJson settings).field? key = some v) :
    ∃ s ∈ settings, s.key = key ∧ v = s.current.toJson := by
  obtain ⟨s, ⟨before, after, rfl, its, -⟩, rfl⟩ := field?_valuesJson_iff.1 sent
  exact ⟨s, List.mem_append_right _ List.mem_cons_self, its, rfl⟩

/-- The institution in the body of an affiliation is the one that is selected. -/
theorem sent?_affiliation (shape : p.payload = .affiliation) :
    (p.buildPayload settings).bind (p.payload.sent? · institutionKey) =
      ((Setting.find? settings institutionKey).bind (·.current.selected?)).map .string := by
  unfold buildPayload
  rw [shape]
  simp only [Option.bind_some, PayloadShape.sent?, if_true, Json.field?_ofFields]
  cases (Setting.find? settings institutionKey).bind (·.current.selected?) with
  | none => rfl
  | some id => rfl

/-- Whatever a body holds for a key is the present value of a setting with that key. -/
theorem mem_of_sent? (sent : (p.buildPayload settings).bind (p.payload.sent? · key) = some v) :
    ∃ s ∈ settings, s.key = key ∧ v = s.current.toJson := by
  cases shape : p.payload with
  | flat =>
    simp only [buildPayload, shape, Option.bind_some] at sent
    exact mem_of_field?_valuesJson sent
  | nodeAttributes node =>
    simp only [buildPayload, shape, Option.bind_some, PayloadShape.sent?, PayloadShape.valueAt?,
      Json.field?_ofFields] at sent
    exact mem_of_field?_valuesJson sent
  | empty => simp [buildPayload, shape] at sent
  | affiliation =>
    obtain rfl : key = institutionKey := by
      by_contra other
      simp [buildPayload, shape, PayloadShape.sent?, other] at sent
    rw [sent?_affiliation shape] at sent
    obtain ⟨id, selected, rfl⟩ := Option.map_eq_some_iff.1 sent
    obtain ⟨s, found, chosen⟩ := Option.bind_eq_some_iff.1 selected
    have held := Setting.Value.selected?_eq_some_iff.1 chosen
    exact ⟨s, List.mem_of_find?_eq_some found, by simpa using List.find?_some found,
      by rw [held]; rfl⟩

end Profile

namespace SettingGroup

variable {p : Profile} {settings : List Setting} {log : List Entry} {g g' g₁ : SettingGroup}
  {op : Operation} {result : Except Refusal EditOutcome}

/-! ## What a move makes of the settings -/

theorem forall₂_revised_refl (settings : List Setting) :
    List.Forall₂ Setting.Revised settings settings :=
  List.forall₂_same.2 fun _ _ => .kept

theorem Accepts.revised {s : Setting} {v : Setting.Value} (h : Accepts p s op v) :
    Setting.Revised s { s with current := v } := by
  cases h with
  | off on => exact .switched false on
  | on off => exact .switched true off
  | option kind listed =>
    obtain ⟨o, member, value⟩ := List.any_eq_true.1 listed
    obtain rfl := of_decide_eq_true value
    exact .given (kind ▸ .option member)
  | cleared kind => exact .given (kind ▸ .cleared)
  | text kind filled => exact .given (kind ▸ .text filled)

theorem Edited.revised (h : Edited g op g₁) :
    List.Forall₂ Setting.Revised g.settings g₁.settings := by
  cases h with
  | assigned _ _ found accepts =>
    exact Setting.forall₂_assign (fun _ => .kept) found accepts.revised
  | agreed => exact forall₂_revised_refl _
  | untouched => exact forall₂_revised_refl _

/-- An operation revises the settings one by one, if the terms that are asked about are those of a
flag. -/
theorem Performed.revised (h : Performed g op g' result)
    (flag : ∀ {key}, g.phase = .consenting key →
      ∃ s, g.setting? key = some s ∧ s.terms.isSome ∧ s.current = .flag true) :
    List.Forall₂ Setting.Revised g.settings g'.settings := by
  cases h with
  | refused => exact forall₂_revised_refl _
  | forgotten => exact forall₂_revised_refl _
  | redirected => exact forall₂_revised_refl _
  | asked _ found off =>
    exact Setting.forall₂_assign (fun _ => .kept) found (.switched true off)
  | edited edit => exact edit.revised
  | saved edit _ save => exact save.settings ▸ edit.revised
  | declined waits found =>
    obtain ⟨s, same, -, on⟩ := flag waits
    cases found.symm.trans same
    exact Setting.forall₂_assign (fun _ => .kept) found (.switched false on)
  | confirmed => exact forall₂_revised_refl _
  | takenBack =>
    refine List.forall₂_map_right_iff.2 (List.forall₂_same.2 fun s _ => ?_)
    by_cases declined : s.key ∈ g.changes.turnedOff
    · rw [if_pos declined]
      exact .restored
    · rw [if_neg declined]
      exact .kept

theorem forall₂_revised_acknowledged (settings : List Setting) :
    List.Forall₂ Setting.Revised settings (settings.map Setting.acknowledged) :=
  List.forall₂_map_right_iff.2 (List.forall₂_same.2 fun _ _ => .acknowledged)

theorem History.revised (h : History p settings log g) (m : Move) :
    List.Forall₂ Setting.Revised g.settings (m.apply g).settings := by
  cases m with
  | operate op => exact (g.performed op).revised h.terms_of_consenting
  | succeed => exact forall₂_revised_acknowledged _
  | fail => exact forall₂_revised_refl _
  | capture => exact forall₂_revised_acknowledged _

/-! ## Every value is sound -/

theorem forall₂_sound_revised {given held next : List Setting}
    (suited : ∀ s ∈ given, s.kind.suits s.current) (sound : List.Forall₂ Setting.Sound given held)
    (revised : List.Forall₂ Setting.Revised held next) :
    List.Forall₂ Setting.Sound given next := by
  induction sound generalizing next with
  | nil =>
    cases revised
    exact .nil
  | cons first _ ih =>
    cases revised with
    | cons revision later =>
      have rest := ih (fun s member => suited s (List.mem_cons_of_mem _ member)) later
      exact .cons (first.revised (suited _ List.mem_cons_self) revision) rest

theorem History.sound (h : History p settings log g)
    (suited : ∀ s ∈ settings, s.kind.suits s.current) :
    List.Forall₂ Setting.Sound settings g.settings := by
  induction h with
  | created =>
    refine List.forall₂_map_right_iff.2 (List.forall₂_same.2 fun s _ => ?_)
    exact ⟨rfl, .inl rfl, .inl rfl⟩
  | moved m h ih => exact forall₂_sound_revised suited ih (h.revised m)

theorem choice_none_of_suits {k : Setting.Kind} {options : List Setting.Choice} {clearable : Bool}
    (enumerated : k = .enumerated options clearable) {v : Setting.Value} (suits : k.suits v)
    (unselected : v.selected? = none) : v = .choice none := by
  subst enumerated
  cases v with
  | choice selected => exact congrArg Setting.Value.choice unselected
  | flag => cases suits
  | text => cases suits

/-- After any history of a group that was created with values of the right kinds, its settings are
those it was created with, in their order and in all but their values, and every value that is shown
or saved is the one that its setting was created with or a valid one.  So is every value that a
request holds for a setting, and an affiliation holds no institution only where none may be
selected. -/
theorem holds_and_sends_valid_values (suited : ∀ s ∈ settings, s.kind.suits s.current)
    (h : History p settings log g) :
    List.Forall₂ Setting.Sound settings g.settings ∧
    ∀ {op : Operation} {request : Submission},
      (op.perform g).2 = .ok (.save (.submit request)) →
      (∀ key v, request.payload.bind (p.payload.sent? · key) = some v →
        ∃ s ∈ settings, s.key = key ∧ ∃ value, s.MayHold value ∧ v = value.toJson) ∧
      (p.payload = .affiliation →
        request.payload.bind (p.payload.sent? · Profile.institutionKey) = none →
        ∀ s options clearable, Setting.find? settings Profile.institutionKey = some s →
          s.kind = .enumerated options clearable → s.MayHold (.choice none)) := by
  refine ⟨h.sound suited, fun {op request} sent => ?_⟩
  have built : History p settings _ (op.perform g).1 := .moved (.operate op) h
  have sound := built.sound suited
  have step := g.performed op
  rw [sent] at step
  obtain ⟨-, carried, -⟩ := step.of_submit
  have payload : request.payload = p.buildPayload (op.perform g).1.settings := by
    rw [carried, ← built.profile]
    rfl
  rw [payload]
  constructor
  · intro key v held
    obtain ⟨now, member, name, rfl⟩ := Profile.mem_of_sent? held
    obtain ⟨first, given, it⟩ := Setting.exists_sound_of_mem sound member
    have same : now.key = first.key := congrArg Setting.Form.key it.form
    exact ⟨first, given, same.symm.trans name, now.current, it.current, rfl⟩
  · intro shape unsent first options clearable found enumerated
    obtain ⟨now, present, it⟩ := Setting.exists_find?_of_forall₂ sound found
    rw [Profile.sent?_affiliation shape, present, Option.bind_some, Option.map_eq_none_iff]
      at unsent
    have suits := it.current.suits (suited first (List.mem_of_find?_eq_some found))
    rw [← choice_none_of_suits enumerated suits unsent]
    exact it.current

/-- A blank title is refused, and the category that the node was given with, which is none of the
options, gives way to one of them. -/
theorem holds_and_sends_valid_values_details :
    let p := Profile.details "https://api.osf.example/v2/" "abc12" "support@osf.io"
    let settings := [Setting.text "title" "Title" "" true,
      .choice "category" "Category" [⟨"data", "Data"⟩, ⟨"project", "Project"⟩] (some "thesis")
        false]
    let moves : List Move := [.operate (.select "category" (some "thesis")),
      .operate (.select "category" (some "data")), .operate (.editText "title" " ")]
    let (_, g) := played p settings moves
    (∀ s ∈ settings, s.kind.suits s.current) ∧
      g.settings.map (·.current) = [.text "", .choice (some "data")] ∧
      List.Forall₂ Setting.Sound settings g.settings ∧
      ∃ request, (Operation.perform .beginSave g).2 = .ok (.save (.submit request)) ∧
        request.payload.bind (p.payload.sent? · "category") = some (.string "data") ∧
        ∃ s ∈ settings, s.key = "category" ∧
          ∃ value, s.MayHold value ∧ Json.string "data" = value.toJson := by
  intro p settings moves
  have suited : ∀ s ∈ settings, s.kind.suits s.current := by decide
  obtain ⟨sound, sends⟩ := holds_and_sends_valid_values suited (history_played p settings moves)
  have sent : (Operation.perform .beginSave (played p settings moves).2).2 =
    .ok (.save (.submit _)) := rfl
  have held : (p.buildPayload (played p settings moves).2.settings).bind
      (p.payload.sent? · "category") = some (.string "data") := by decide
  exact ⟨suited, by decide, sound, _, sent, held, (sends sent).1 _ _ held⟩

end SettingGroup

end SettingsConsole
