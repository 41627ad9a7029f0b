import SettingsConsole.Json.Number
import SettingsConsole.Text.Quoted

/-!
# Decoding JSON into records

What arrives as JSON is decoded into types of the library.  A record may be written in two forms: as
an object, where unknown keys are ignored, or as the list of its fields in order of declaration.
Each field is decoded once (`Record.slot`); `Record.check` then raises the fault that comes first
in the written form, and absent fields are asked for last, in order of declaration.
-/

namespace SettingsConsole

/-- What a decoder asks for. -/
inductive Wanted where
  | text
  | flag
  | list
  | map
  | record (name : String)
  deriving DecidableEq, Repr

/-- Why a JSON value is not what was asked for. -/
inductive DecodeError where
  /-- The value is of another kind. -/
  | wrongKind (found : Json) (wanted : Wanted)
  /-- A record written as an object lacks a field. -/
  | missingField (name : String)
  /-- A record written as a list ends before a field that it has to have. -/
  | endsBefore (position : Nat) (record : String) (size : Nat)
  /-- A record written as a list has more elements than fields. -/
  | tooManyElements (length : Nat)
  deriving DecidableEq, Repr

namespace Wanted

/-- The words for what was asked for. -/
def words : Wanted → String
  | .text => "a string"
  | .flag => "a boolean"
  | .list => "a sequence"
  | .map => "a map"
  | .record name => "struct " ++ name

end Wanted

namespace DecodeError

/-- The words for what was found. -/
def foundText : Json → String
  | .null => "null"
  | .bool b => "boolean `" ++ toString b ++ "`"
  | .number (.whole n) => "integer `" ++ toString n ++ "`"
  | .number (.double bits) => "floating point `" ++ Json.Number.doubleText bits ++ "`"
  | .string s => "string " ++ Text.quoted s
  | .list _ => "sequence"
  | .object _ => "map"

/-- The text of an error. -/
def message : DecodeError → String
  | .wrongKind found wanted => "invalid type: " ++ foundText found ++ ", expected " ++ wanted.words
  | .missingField name => "missing field `" ++ name ++ "`"
  | .endsBefore position record size =>
    "invalid length " ++ toString position ++ ", expected struct " ++ record ++ " with " ++
      toString size ++ (if size = 1 then " element" else " elements")
  | .tooManyElements length =>
    "invalid length " ++ toString length ++ ", expected fewer elements in array"

end DecodeError

/-- A decoder of one type. -/
abbrev Decoder (α : Type) := Json → Except DecodeError α

namespace Decode

/-! ## Plain values -/

/-- A text. -/
def text : Decoder String
  | .string s => .ok s
  | v => .error (.wrongKind v .text)

/-- A flag. -/
def flag : Decoder Bool
  | .bool b => .ok b
  | v => .error (.wrongKind v .flag)

/-- `null` or a value. -/
def optional {α : Type} (decode : Decoder α) : Decoder (Option α)
  | .null => .ok none
  | v => (decode v).map some

/-- The elements of a list, in order up to the first that fails. -/
def elements {α : Type} (decode : Decoder α) : List Json → Except DecodeError (List α)
  | [] => .ok []
  | v :: rest =>
    match decode v with
    | .error e => .error e
    | .ok a => (elements decode rest).map (a :: ·)

/-- A list. -/
def list {α : Type} (decode : Decoder α) : Decoder (List α)
  | .list items => elements decode items
  | v => .error (.wrongKind v .list)

/-- The entries of an object, in order up to the first that fails. -/
def entries {α : Type} (decode : Decoder α) :
    List (String × Json) → Except DecodeError (List (String × α))
  | [] => .ok []
  | (k, v) :: rest =>
    match decode v with
    | .error e => .error e
    | .ok a => (entries decode rest).map ((k, a) :: ·)

/-- An object whose keys are data. -/
def map {α : Type} (decode : Decoder α) : Decoder (List (String × α))
  | .object fields => entries decode fields
  | v => .error (.wrongKind v .map)

end Decode

/-! ## Records -/

/-- The two written forms of a record. -/
inductive RecordForm where
  | named (fields : List (String × Json))
  | positional (items : List Json)

/-- A written record, with the name and the number of fields of its type. -/
structure Record where
  name : String
  size : Nat
  form : RecordForm

/-- A field of a record: its place, and the decoded value or the fault if it is present. -/
structure Slot (α : Type) where
  position : Nat
  name : String
  outcome : Option (Except DecodeError α)

/-- The name of the field and its fault, if it has one. -/
def Slot.fault {α : Type} (s : Slot α) : String × Option DecodeError :=
  (s.name, match s.outcome with
    | some (.error e) => some e
    | _ => none)

namespace Record

/-- The record that a JSON value is written as. -/
def ofJson (name : String) (size : Nat) : Json → Except DecodeError Record
  | .object fields => .ok ⟨name, size, .named fields⟩
  | .list items => .ok ⟨name, size, .positional items⟩
  | v => .error (.wrongKind v (.record name))

/-- The JSON of a field, if the record has it. -/
def value? (r : Record) (position : Nat) (field : String) : Option Json :=
  match r.form with
  | .named fields => fields.lookup field
  | .positional items => items[position]?

/-- Decodes a field. -/
def slot {α : Type} (r : Record) (position : Nat) (field : String) (decode : Decoder α) : Slot α :=
  ⟨position, field, (r.value? position field).map decode⟩

/-- Raises the first fault of the present fields: in the order of the object's keys, or in order of
declaration, in which `faults` is given. -/
def check (r : Record) (faults : List (String × Option DecodeError)) : Except DecodeError Unit :=
  let first := match r.form with
    | .named fields => fields.findSome? fun (key, _) => (faults.lookup key).join
    | .positional _ => faults.findSome? fun (_, fault) => fault
  match first with
  | some e => .error e
  | none => .ok ()

/-- The error for a field that the record has to have. -/
def absence {α : Type} (r : Record) (s : Slot α) : DecodeError :=
  match r.form with
  | .named _ => .missingField s.name
  | .positional _ => .endsBefore s.position r.name r.size

/-- The value of a field that may be absent from a list too: the default if it is. -/
def defaulted {α : Type} (_ : Record) (default : α) (s : Slot α) : Except DecodeError α :=
  s.outcome.getD (.ok default)

/-- The value of a field that the record has to have. -/
def required {α : Type} (r : Record) (s : Slot α) : Except DecodeError α :=
  s.outcome.getD (.error (r.absence s))

/-- The value of a field that an object may leave out. -/
def optional {α : Type} (r : Record) (s : Slot (Option α)) : Except DecodeError (Option α) :=
  match r.form with
  | .named _ => r.defaulted none s
  | .positional _ => r.required s

/-- Refuses a list that has more elements than the record has fields. -/
def close (r : Record) : Except DecodeError Unit :=
  match r.form with
  | .named _ => .ok ()
  | .positional items =>
    if r.size < items.length then .error (.tooManyElements items.length) else .ok ()

end Record

/-- A record with a single field, as the value of that field. -/
def Decode.single {α : Type} (name field : String) (decode : Decoder α) : Decoder α := fun v => do
  let r ← Record.ofJson name 1 v
  let s := r.slot 0 field decode
  r.check [s.fault]
  let a ← r.required s
  r.close
  return a

/-- A record with a single field that has a default, as the value of that field. -/
def Decode.singleDefaulted {α : Type} (name field : String) (default : α) (decode : Decoder α) :
    Decoder α := fun v => do
  let r ← Record.ofJson name 1 v
  let s := r.slot 0 field decode
  r.check [s.fault]
  let a ← r.defaulted default s
  r.close
  return a

/-- A record with a single field that an object may leave out, as the value of that field. -/
def Decode.singleOptional {α : Type} (name field : String) (decode : Decoder α) :
    Decoder (Option α) := fun v => do
  let r ← Record.ofJson name 1 v
  let s := r.slot 0 field (Decode.optional decode)
  r.check [s.fault]
  let a ← r.optional s
  r.close
  return a

end SettingsConsole
