import SettingsConsole.Proofs.Group.Validity

/-!
# What a payload says

A payload states the present value of every setting of its group, changed or not.  A flat body and
the attributes of a node hold one object with the keys of the settings, in which the last of equal
keys counts; an affiliation names the selected institution or none.  A value is written differently
from every other value of its kind (`Kind.toJson_inj`), so that bodies are equal exactly if the
values are (`payload_states_values`).
-/

namespace SettingsConsole

/-- Values of one kind are written differently.  A text and a selection may be written alike. -/
theorem Setting.Kind.toJson_inj {k : Setting.Kind} {v w : Setting.Value} (hv : k.suits v)
    (hw : k.suits w) (same : v.toJson = w.toJson) : v = w := by
  cases k with
  | boolean =>
    cases v with
    | flag on =>
      cases w with
      | flag on' => exact congrArg Setting.Value.flag (Json.bool.inj same)
      | choice | text => cases hw
    | choice | text => cases hv
  | enumerated =>
    cases v with
    | choice selected =>
      cases w with
      | choice selected' =>
        cases selected with
        | none =>
          cases selected' with
          | none => rfl
          | some => cases same
        | some =>
          cases selected' with
          | none => cases same
          | some => exact congrArg (Setting.Value.choice ∘ some) (Json.string.inj same)
      | flag | text => cases hw
    | flag | text => cases hv
  | text =>
    cases v with
    | text content =>
      cases w with
      | text content' => exact congrArg Setting.Value.text (Json.string.inj same)
      | flag | choice => cases hw
    | flag | choice => cases hv

namespace Profile

variable {p : Profile} {settings a b : List Setting} {node : String}

/-- A node document with attributes. -/
def nodeBody (node : String) (attributes : Json) : Json :=
  .object [("data", .object
    [("attributes", attributes), ("id", .string node), ("type", .string "nodes")])]

/-- The relationship of a node to an institution, or to none. -/
def affiliationBody : Option String → Json
  | some id =>
    .object [("data", .object [("id", .string id), ("type", .string "institutions")])]
  | none => .object [("data", .null)]

/-! ## The body of each shape -/

theorem buildPayload_flat (shape : p.payload = .flat) (settings : List Setting) :
    p.buildPayload settings = some (valuesJson settings) := by
  unfold buildPayload
  rw [shape]

theorem buildPayload_nodeAttributes (shape : p.payload = .nodeAttributes node)
    (settings : List Setting) :
    p.buildPayload settings = some (nodeBody node (valuesJson settings)) := by
  unfold buildPayload
  rw [shape]
  rfl

theorem buildPayload_affiliation (shape : p.payload = .affiliation) (settings : List Setting) :
    p.buildPayload settings = some (affiliationBody
      ((Setting.find? settings institutionKey).bind (·.current.selected?))) := by
  unfold buildPayload
  rw [shape]
  cases (Setting.find? settings institutionKey).bind (·.current.selected?) with
  | none => rfl
  | some id => rfl

theorem affiliationBody_inj {selected selected' : Option String}
    (same : affiliationBody selected = affiliationBody selected') : selected = selected' := by
  cases selected <;> cases selected' <;> simp_all [affiliationBody]

theorem buildPayload_eq_iff (holds : p.payload.holdsValues) :
    p.buildPayload a = p.buildPayload b ↔ valuesJson a = valuesJson b := by
  cases shape : p.payload with
  | flat => rw [buildPayload_flat shape, buildPayload_flat shape, Option.some.injEq]
  | nodeAttributes node =>
    rw [buildPayload_nodeAttributes shape, buildPayload_nodeAttributes shape]
    simp [nodeBody]
  | affiliation => rw [shape] at holds; cases holds
  | empty => rw [shape] at holds; cases holds

/-- The object of the values has the keys of the settings and, under each, the value of the last
setting with it. -/
theorem exists_valuesJson (settings : List Setting) :
    ∃ fields, valuesJson settings = .object fields ∧ Json.Ascending fields ∧
      (∀ key, key ∈ fields.map Prod.fst ↔ key ∈ settings.map Setting.key) ∧
      ∀ key v, fields.lookup key = some v ↔
        ∃ s, Setting.IsLast settings key s ∧ v = s.current.toJson := by
  obtain ⟨fields, made, ascending, keys⟩ :=
    Json.exists_ofFields (settings.map fun s => (s.key, s.current.toJson))
  have made : valuesJson settings = .object fields := made
  refine ⟨fields, made, ascending, fun key => ?_, fun key v => ?_⟩
  · rw [keys, List.map_map]
    rfl
  · rw [← field?_valuesJson_iff, made]
    rfl

/-! ## Telling payloads apart -/

/-- Lists of the same distinct keys, each of one kind in both, make one object exactly if equal keys
have equal values. -/
theorem valuesJson_eq_iff (distinct : (a.map Setting.key).Nodup)
    (same : (a.map fun s => (s.key, s.kind)).Perm (b.map fun s => (s.key, s.kind)))
    (suitsA : ∀ s ∈ a, s.kind.suits s.current) (suitsB : ∀ s ∈ b, s.kind.suits s.current) :
    valuesJson a = valuesJson b ↔ ∀ s ∈ a, ∀ t ∈ b, s.key = t.key → s.current = t.current := by
  have keys : (a.map Setting.key).Perm (b.map Setting.key) := by
    simpa [List.map_map, Function.comp_def] using same.map Prod.fst
  have distinctB : (b.map Setting.key).Nodup := keys.nodup_iff.1 distinct
  have partner {s : Setting} (member : s ∈ a) : ∃ t ∈ b, t.key = s.key ∧ t.kind = s.kind := by
    have listed := same.mem_iff.1 (List.mem_map.2 ⟨s, member, rfl⟩)
    obtain ⟨t, member, pair⟩ := List.mem_map.1 listed
    exact ⟨t, member, congrArg Prod.fst pair, congrArg Prod.snd pair⟩
  constructor
  · intro equal s inA t inB key
    have written := field?_valuesJson distinct inA
    rw [equal, key, field?_valuesJson distinctB inB] at written
    obtain ⟨t', inB', key', kind⟩ := partner inA
    obtain rfl := List.inj_on_of_nodup_map distinctB inB' inB (key'.trans key)
    -- Only values of one kind are told apart by what is written, so the kinds have to agree.
    exact Setting.Kind.toJson_inj (suitsA s inA) (kind ▸ suitsB t' inB')
      (Option.some.inj written).symm
  · intro equal
    refine Json.ofFields_ext fun key => Option.ext fun v => ⟨fun sent => ?_, fun sent => ?_⟩
    · obtain ⟨s, inA, rfl, rfl⟩ := mem_of_field?_valuesJson sent
      obtain ⟨t, inB, its, -⟩ := partner inA
      rw [← its, equal s inA t inB its.symm]
      exact field?_valuesJson distinctB inB
    · obtain ⟨t, inB, rfl, rfl⟩ := mem_of_field?_valuesJson sent
      obtain ⟨s, inA, its⟩ := List.mem_map.1 (keys.mem_iff.2 (List.mem_map_of_mem inB))
      rw [← its, ← equal s inA t inB its]
      exact field?_valuesJson distinct inA

/-- A flat payload is an object with the keys of the settings and, under each, the value of the last
setting with it; a node document carries the same object as its attributes.  An affiliation is to
the institution that the first setting for it selects, and to none exactly if there is no such
selection.  Two flat payloads or node documents for settings with the same distinct keys and kinds,
in whatever order, are equal exactly if all values are. -/
theorem payload_states_values (p : Profile) :
    (∀ settings : List Setting, ∃ fields, Json.Ascending fields ∧
      (∀ key, key ∈ fields.map Prod.fst ↔ key ∈ settings.map Setting.key) ∧
      (∀ key v, fields.lookup key = some v ↔
        ∃ s, Setting.IsLast settings key s ∧ v = s.current.toJson) ∧
      (p.payload = .flat → p.buildPayload settings = some (.object fields)) ∧
      ∀ node, p.payload = .nodeAttributes node →
        p.buildPayload settings = some (nodeBody node (.object fields))) ∧
    (p.payload = .affiliation → ∀ settings : List Setting,
      (p.buildPayload settings = some (affiliationBody none) ↔
        ∀ s, Setting.find? settings institutionKey = some s →
          ∀ id, s.current ≠ .choice (some id)) ∧
      ∀ s id, Setting.find? settings institutionKey = some s → s.current = .choice (some id) →
        p.buildPayload settings = some (affiliationBody (some id))) ∧
    (p.payload.holdsValues → ∀ a b : List Setting, (a.map Setting.key).Nodup →
      (a.map fun s => (s.key, s.kind)).Perm (b.map fun s => (s.key, s.kind)) →
      (∀ s ∈ a, s.kind.suits s.current) → (∀ s ∈ b, s.kind.suits s.current) →
      (p.buildPayload a = p.buildPayload b ↔
        ∀ s ∈ a, ∀ t ∈ b, s.key = t.key → s.current = t.current)) := by
  refine ⟨fun settings => ?_, fun shape settings => ⟨?_, fun s id found chosen => ?_⟩,
    fun holds a b distinct same suitsA suitsB => ?_⟩
  · obtain ⟨fields, made, ascending, keys, values⟩ := exists_valuesJson settings
    refine ⟨fields, ascending, keys, values, fun shape => ?_, fun node shape => ?_⟩
    · rw [← made, buildPayload_flat shape]
    · rw [← made, buildPayload_nodeAttributes shape]
  · rw [buildPayload_affiliation shape, Option.some.injEq]
    constructor
    · intro none s found id chosen
      have unselected := affiliationBody_inj none
      rw [found, Option.bind_some, chosen] at unselected
      cases unselected
    · intro unselected
      refine congrArg affiliationBody (Option.bind_eq_none_iff.2 fun s found => ?_)
      refine Option.eq_none_iff_forall_ne_some.2 fun id chosen => ?_
      exact unselected s found id (Setting.Value.selected?_eq_some_iff.1 chosen)
  · rw [buildPayload_affiliation shape, found, Option.bind_some, chosen]
    rfl
  · rw [buildPayload_eq_iff holds, valuesJson_eq_iff distinct same suitsA suitsB]

/-- Of two settings with one key the later one is sent; an institution is cleared and chosen; and a
category and a title that are written alike are told apart by their keys, in either order. -/
theorem payload_states_values_mixed :
    let addons := Profile.addons "https://osf.example/api/v1/project/abc12/" "support@osf.io"
    let details := Profile.details "https://api.osf.example/v2/" "abc12" "support@osf.io"
    let institution := Profile.institution "https://api.osf.example/v2/" "abc12" "support@osf.io"
    let region := Setting.choice "s3" "Region" [] (some "eu") true
    let settings := [.flag "s3" "Amazon S3" false, region, .text "title" "Title" "Demo" true]
    let chosen := Setting.choice institutionKey "Primary institution" [] (some "cos") true
    let cleared := { chosen with current := .choice none }
    let titled := [Setting.text "title" "Title" "data" true,
      .choice "category" "Category" [] (some "data") false]
    let renamed := [Setting.choice "category" "Kind" [] (some "data") false,
      .text "title" "Name" "data" true]
    (∃ fields, addons.payload = .flat ∧ addons.buildPayload settings = some (.object fields) ∧
      Setting.IsLast settings "s3" region ∧ fields.lookup "s3" = some (.string "eu")) ∧
    (∃ fields, details.payload = .nodeAttributes "abc12" ∧
      details.buildPayload settings = some (nodeBody "abc12" (.object fields))) ∧
    institution.payload = .affiliation ∧
    institution.buildPayload [cleared, chosen] = some (affiliationBody none) ∧
    Setting.find? [chosen, cleared] institutionKey = some chosen ∧
    chosen.current = .choice (some "cos") ∧
    institution.buildPayload [chosen, cleared] = some (affiliationBody (some "cos")) ∧
    details.payload.holdsValues ∧ (titled.map Setting.key).Nodup ∧
    (titled.map fun s => (s.key, s.kind)).Perm (renamed.map fun s => (s.key, s.kind)) ∧
    (∀ s ∈ titled, s.kind.suits s.current) ∧ (∀ s ∈ renamed, s.kind.suits s.current) ∧
    details.buildPayload titled = details.buildPayload renamed := by
  intro addons details institution region settings chosen cleared titled renamed
  have last : Setting.IsLast settings "s3" region := ⟨[_], [_], rfl, rfl, by decide⟩
  have distinct : (titled.map Setting.key).Nodup := by decide
  have same : (titled.map fun s => (s.key, s.kind)).Perm
      (renamed.map fun s => (s.key, s.kind)) := by decide
  have suits : ∀ s ∈ titled, s.kind.suits s.current := by decide
  have suits' : ∀ s ∈ renamed, s.kind.suits s.current := by decide
  obtain ⟨fields, -, -, values, flat, -⟩ := (payload_states_values addons).1 settings
  obtain ⟨attributes, -, -, -, -, document⟩ := (payload_states_values details).1 settings
  obtain ⟨-, affiliation, -⟩ := payload_states_values institution
  have unselected : ∀ s, Setting.find? [cleared, chosen] institutionKey = some s →
      ∀ id, s.current ≠ .choice (some id) := by
    rintro s found id taken
    cases found
    cases taken
  exact ⟨⟨fields, rfl, flat rfl, last, (values _ _).2 ⟨region, last, rfl⟩⟩,
    ⟨attributes, rfl, document "abc12" rfl⟩, rfl, (affiliation rfl _).1.2 unselected, rfl, rfl,
    (affiliation rfl _).2 chosen "cos" rfl rfl, rfl, distinct, same, suits, suits',
    ((payload_states_values details).2.2 rfl _ _ distinct same suits suits').2 (by decide)⟩

end Profile

end SettingsConsole
