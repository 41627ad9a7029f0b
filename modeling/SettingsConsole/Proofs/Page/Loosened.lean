import Mathlib.Data.List.Forall2
import SettingsConsole.Proofs.Json.Object

/-!
# What may be left out and added

What is fetched consists of records within records.  A field may be left out where its value says
nothing: where it is `null` and may be, or where it is the default of the field.  And a record may
have fields that nothing is known of.  `Loosened` relates a value to what it may be turned into by
leaving out the former and adding the latter, in any records in it at any depth; lists and data stay
as they are.  Which fields a record has is said by `RecordType.fields`.
-/

namespace SettingsConsole

/-- The types of the records in what is fetched, apart from documents. -/
inductive RecordType where
  | pageContext
  | nodeSummary
  | addonState
  | wikiState
  | externalAccount
  | treeTarget
  | subscriptionEvent
  | subscriptionNode
  | wikiPermission
  | wikiSettingsNode
  | institutionAttributes
  | resourceLinks
  | institution
  | userEmbeds
  | embeddedUser
  | nodeEmbeds
  | embeddedNode

/-- The form of a written value. -/
inductive Schema where
  /-- A text, a flag, or an object whose keys are data. -/
  | data
  | list (item : Schema)
  /-- `null` or a value. -/
  | optional (inner : Schema)
  | record (type : RecordType)
  /-- A record with its content under the key `data`. -/
  | document (content : Schema)

/-- A field of a record. -/
structure Field where
  name : String
  schema : Schema
  /-- The value for which the field may be left out. -/
  omitted? : Option Json

namespace Field

/-- A field that is always there. -/
def required (name : String) (schema : Schema) : Field := ⟨name, schema, none⟩

/-- A field that may be left out if it is `null`. -/
def optional (name : String) (inner : Schema) : Field := ⟨name, .optional inner, some .null⟩

/-- A field that may be left out if it has the default. -/
def defaulted (name : String) (schema : Schema) (default : Json) : Field :=
  ⟨name, schema, some default⟩

end Field

/-- The fields of the records of a type. -/
def RecordType.fields : RecordType → List Field
  | .pageContext =>
    [.required "node" (.record .nodeSummary),
     .defaulted "addons" (.list (.record .addonState)) (.list []),
     .optional "commentLevel" .data,
     .defaulted "wiki" (.record .wikiState) (.ofFields [("isEnabled", .bool false)]),
     .defaulted "accounts" (.list (.record .externalAccount)) (.list []),
     .defaulted "categories" .data (.object [])]
  | .nodeSummary =>
    [.required "id" .data, .required "title" .data, .optional "nodeType" .data,
     .defaulted "isRegistration" .data (.bool false), .defaulted "description" .data (.string ""),
     .optional "category" .data, .defaulted "parentExists" .data (.bool false)]
  | .addonState =>
    [.required "name" .data, .required "label" .data, .required "enabled" .data,
     .optional "capabilities" .data]
  | .wikiState => [.required "isEnabled" .data]
  | .externalAccount =>
    [.required "provider" .data, .required "label" .data, .required "connected" .data]
  | .treeTarget => [.defaulted "title" .data (.string "")]
  | .subscriptionEvent => [.required "title" .data, .optional "notificationType" .data]
  | .subscriptionNode =>
    [.optional "node" (.record .treeTarget), .optional "event" (.record .subscriptionEvent),
     .defaulted "children" (.list (.record .subscriptionNode)) (.list [])]
  | .wikiPermission => [.required "permission" .data]
  | .wikiSettingsNode =>
    [.optional "node" (.record .treeTarget), .optional "select" (.record .wikiPermission),
     .defaulted "children" (.list (.record .wikiSettingsNode)) (.list [])]
  | .institutionAttributes => [.required "name" .data]
  | .resourceLinks => [.optional "html" .data]
  | .institution =>
    [.required "id" .data, .required "attributes" (.record .institutionAttributes),
     .defaulted "links" (.record .resourceLinks) (.ofFields [("html", .null)])]
  | .userEmbeds => [.required "institutions" (.document (.list (.record .institution)))]
  | .embeddedUser => [.required "embeds" (.record .userEmbeds)]
  | .nodeEmbeds =>
    [.required "primary_institution" (.document (.optional (.record .institution)))]
  | .embeddedNode => [.required "embeds" (.record .nodeEmbeds)]

/-- The fields of a value that is a record. -/
def Schema.fields? : Schema → Option (List Field)
  | .record type => some type.fields
  | .document (.optional inner) => some [.optional "data" inner]
  | .document content => some [.required "data" content]
  | .data | .list _ | .optional _ => none

/-- What a value may be turned into.  In a record, a field that it is known to have is still there
with what its value is turned into, or has been left out for that value; its other keys may be
any. -/
inductive Loosened : Schema → Json → Json → Prop
  | same {s v} : Loosened s v v
  | some {s v w} : Loosened s v w → Loosened (.optional s) v w
  | cons {s v w vs ws} : Loosened s v w → Loosened (.list s) (.list vs) (.list ws) →
      Loosened (.list s) (.list (v :: vs)) (.list (w :: ws))
  | record {s fields given made} : s.fields? = .some fields →
      (∀ f ∈ fields, ∀ v w, given.lookup f.name = .some v → made.lookup f.name = .some w →
        Loosened f.schema v w) →
      (∀ f ∈ fields, ∀ v, given.lookup f.name = .some v → made.lookup f.name = none →
        f.omitted? = .some v) →
      Loosened s (.object given) (.object made)

/-- How a field of a value stands in a record: with what the value is turned into, or left out. -/
structure Stands (made : List (String × Json)) (f : Field) (v : Json) : Prop where
  present : ∀ w, made.lookup f.name = some w → Loosened f.schema v w
  absent : made.lookup f.name = none → f.omitted? = some v

namespace Loosened

variable {s : Schema} {v w : Json} {vs : List Json} {fields : List Field}
  {given made : List (String × Json)} {f : Field} {key : String}

theorem eq_of_data (h : Loosened .data v w) : w = v := by
  cases h with
  | same => rfl
  | record shape => cases shape

theorem of_optional (h : Loosened (.optional s) v w) : Loosened s v w := by
  cases h with
  | same => exact .same
  | some h => exact h
  | record shape => cases shape

/-- `null` stays `null`, and nothing else becomes `null`. -/
theorem eq_null_iff (h : Loosened s v w) : w = .null ↔ v = .null := by
  -- by induction, as an optional value may itself be of an optional schema
  induction h with
  | same => rfl
  | some _ ih => exact ih
  | cons | record => simp

theorem eq_nil (h : Loosened (.list s) (.list []) w) : w = .list [] := by
  cases h with
  | same => rfl

theorem exists_cons (h : Loosened (.list s) (.list (v :: vs)) w) :
    ∃ x xs, w = .list (x :: xs) ∧ Loosened s v x ∧ Loosened (.list s) (.list vs) (.list xs) := by
  cases h with
  | same => exact ⟨v, vs, rfl, .same, .same⟩
  | cons first later => exact ⟨_, _, rfl, first, later⟩

/-! ## Records -/

theorem exists_object (h : Loosened s (.object given) w) (shape : s.fields? = .some fields) :
    ∃ made, w = .object made := by
  cases h with
  | same => exact ⟨given, rfl⟩
  | some => cases shape
  | record => exact ⟨_, rfl⟩

theorem stands (h : Loosened s (.object given) (.object made)) (shape : s.fields? = .some fields)
    (listed : f ∈ fields) (value : given.lookup f.name = .some v) : Stands made f v := by
  cases h with
  | same =>
    refine ⟨fun w found => ?_, fun missing => ?_⟩
    · cases value.symm.trans found
      exact .same
    · cases value.symm.trans missing
  | some => cases shape
  | record shape' present absent =>
    cases shape.symm.trans shape'
    exact ⟨fun w found => present f listed v w value found, absent f listed v value⟩

theorem of_stands (shape : s.fields? = .some fields)
    (stand : ∀ f ∈ fields, ∀ v, given.lookup f.name = .some v → Stands made f v) :
    Loosened s (.object given) (.object made) :=
  .record shape (fun f listed v w value => (stand f listed v value).present w)
    (fun f listed v value => (stand f listed v value).absent)

/-- A record that is written with all its fields in order becomes an object in which each of them
stands. -/
theorem exists_stands (h : Loosened s (.ofFields given) w) (shape : s.fields? = .some fields)
    (complete : fields.map Field.name = given.map Prod.fst)
    (distinct : (fields.map Field.name).Nodup) :
    ∃ made, w = .object made ∧
      List.Forall₂ (fun f value => Stands made f value.2) fields given := by
  obtain ⟨made, rfl⟩ := exists_object h shape
  have equal : List.Forall₂ Eq (fields.map Field.name) (given.map Prod.fst) :=
    complete ▸ List.forall₂_refl _
  have names := List.forall₂_map_right_iff.1 (List.forall₂_map_left_iff.1 equal)
  rw [List.forall₂_iff_zip] at names
  refine ⟨made, rfl, List.forall₂_iff_zip.2 ⟨names.1, fun {f value} paired => ?_⟩⟩
  obtain ⟨listed, member⟩ := List.of_mem_zip paired
  refine h.stands shape listed ?_
  rw [names.2 paired]
  exact Json.field?_ofFields_of_mem (complete ▸ distinct) member

/-! ## Changing one field -/

/-- A key may be added that the record is not known to have. -/
theorem add (h : Loosened s (.object given) (.object made)) (shape : s.fields? = .some fields)
    (key : String) (unknown : ∀ f ∈ fields, f.name ≠ key) (x : Json) :
    Loosened s (.object given) (.object (Json.insertField key x made)) := by
  refine of_stands shape fun f listed v value => ?_
  have before := h.stands shape listed value
  constructor <;> rw [Json.lookup_insertField_of_ne (unknown f listed)]
  · exact before.present
  · exact before.absent

/-- A field may be left out for its value. -/
theorem leaveOut (h : Loosened s (.object given) (.object made)) (shape : s.fields? = .some fields)
    (key : String) (omitted : ∀ f ∈ fields, f.name = key → f.omitted? = given.lookup key) :
    Loosened s (.object given) (.object (made.filter (·.1 ≠ key))) := by
  refine of_stands shape fun f listed v value => ?_
  have before := h.stands shape listed value
  by_cases it : f.name = key
  · subst it
    have left_out := Json.lookup_filter_self made f.name
    refine ⟨fun w found => ?_, fun _ => (omitted f listed rfl).trans value⟩
    cases left_out.symm.trans found
  · constructor <;> rw [Json.lookup_filter_ne made it]
    · exact before.present
    · exact before.absent

/-- The value of a field may be loosened itself. -/
theorem change (h : Loosened s (.object given) (.object made)) (shape : s.fields? = .some fields)
    (f : Field) (listed : f ∈ fields) (distinct : (fields.map Field.name).Nodup)
    (value : given.lookup f.name = .some v) (inner : Loosened f.schema v w) :
    Loosened s (.object given) (.object (Json.insertField f.name w made)) := by
  refine of_stands shape fun f' listed' v' value' => ?_
  by_cases same : f'.name = f.name
  · obtain rfl := List.inj_on_of_nodup_map distinct listed' listed same
    cases value.symm.trans value'
    have changed := Json.lookup_insertField_self f'.name w made
    refine ⟨fun x found => ?_, fun missing => ?_⟩
    · cases changed.symm.trans found
      exact inner
    · cases changed.symm.trans missing
  · have before := h.stands shape listed' value'
    constructor <;> rw [Json.lookup_insertField_of_ne same]
    · exact before.present
    · exact before.absent

end Loosened

end SettingsConsole
