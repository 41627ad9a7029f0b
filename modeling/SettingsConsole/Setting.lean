import SettingsConsole.Json.Basic
import SettingsConsole.Text.Blank

/-!
# Settings

A setting has a key, a label, a kind and two values: the one shown now and the one the service last
acknowledged.  Its kind says which values it accepts; the values that the constructors
`Setting.flag`, `Setting.choice` and `Setting.text` give are of the setting's kind.
-/

namespace SettingsConsole

namespace Setting

/-- The value of a setting. -/
inductive Value where
  | flag (on : Bool)
  /-- A selection among options, or none. -/
  | choice (selected : Option String)
  | text (content : String)
  deriving DecidableEq, Repr

/-- An option of an enumerated setting: what is stored and what is shown. -/
structure Choice where
  value : String
  label : String
  deriving DecidableEq, Repr

/-- What a setting accepts. -/
inductive Kind where
  | boolean
  | enumerated (options : List Choice) (clearable : Bool)
  /-- Free text; a required one may not be blank. -/
  | text (required : Bool)
  deriving DecidableEq, Repr

namespace Value

/-- The value as it is sent. -/
def toJson : Value → Json
  | .flag on => .bool on
  | .choice (some selected) => .string selected
  | .choice none => .null
  | .text content => .string content

/-- Whether the value grants something: a text always does, so no text edit takes anything away. -/
def isEnabled : Value → Bool
  | .flag on => on
  | .choice selected => selected.isSome
  | .text _ => true

/-- The selected option. -/
def selected? : Value → Option String
  | .choice selected => selected
  | _ => none

/-- The text. -/
def content? : Value → Option String
  | .text content => some content
  | _ => none

theorem selected?_eq_some_iff {v : Value} {selected : String} :
    v.selected? = some selected ↔ v = .choice (some selected) := by
  cases v <;> simp [selected?]

end Value

end Setting

/-- A setting of the page. -/
structure Setting where
  key : String
  label : String
  kind : Setting.Kind
  /-- The value shown now. -/
  current : Setting.Value
  /-- The value the service last acknowledged. -/
  saved : Setting.Value
  /-- The terms to accept when the setting is switched on. -/
  terms : Option String
  deriving DecidableEq, Repr

namespace Setting

/-! ## Building settings -/

/-- A setting that is clean at a value. -/
def ofValue (key label : String) (kind : Kind) (value : Value) : Setting :=
  ⟨key, label, kind, value, value, none⟩

/-- A setting that is on or off. -/
def flag (key label : String) (on : Bool) : Setting := ofValue key label .boolean (.flag on)

/-- A setting with one of several options, or none. -/
def choice (key label : String) (options : List Choice) (selected : Option String)
    (clearable : Bool) : Setting :=
  ofValue key label (.enumerated options clearable) (.choice selected)

/-- A setting that is a text. -/
def text (key label content : String) (required : Bool) : Setting :=
  ofValue key label (.text required) (.text content)

/-- The setting with terms; terms that say nothing are none. -/
def withTerms (s : Setting) (terms : Option String) : Setting :=
  { s with terms := terms.filter fun t => !Text.saysNothing t }

/-! ## Reading settings -/

/-- Whether the value differs from the acknowledged one. -/
def isDirty (s : Setting) : Bool := s.current ≠ s.saved

/-- The words for a value of this setting: the label of a known option, else the value itself. -/
def labelFor (s : Setting) : Value → String
  | .choice (some v) =>
    match s.kind with
    | .enumerated options _ =>
      match options.find? (·.value = v) with
      | some option => option.label
      | none => v
    | _ => v
  | .choice none => "None"
  | .text content => content
  | .flag true => "on"
  | .flag false => "off"

/-- The setting with its present value taken as acknowledged. -/
def acknowledged (s : Setting) : Setting := { s with saved := s.current }

/-- The setting back at its acknowledged value. -/
def restored (s : Setting) : Setting := { s with current := s.saved }

/-- Gives the first setting with a key a new value. -/
def assign (key : String) (value : Value) : List Setting → List Setting
  | [] => []
  | s :: rest =>
    if s.key = key then { s with current := value } :: rest else s :: assign key value rest

/-- The first setting with a key. -/
def find? (settings : List Setting) (key : String) : Option Setting :=
  settings.find? (·.key = key)

@[simp] theorem isDirty_acknowledged (s : Setting) : s.acknowledged.isDirty = false := by
  simp [isDirty, acknowledged]

@[simp] theorem isDirty_restored (s : Setting) : s.restored.isDirty = false := by
  simp [isDirty, restored]

/-- What does not depend on the value shown is not changed by an assignment. -/
theorem map_assign {α : Type} {f : Setting → α} (unseen : ∀ s v, f { s with current := v } = f s)
    (key : String) (value : Value) (settings : List Setting) :
    (assign key value settings).map f = settings.map f := by
  induction settings with
  | nil => rfl
  | cons s rest ih =>
    unfold assign
    split
    · rw [List.map_cons, List.map_cons, unseen]
    · rw [List.map_cons, List.map_cons, ih]

theorem find?_assign_self {key : String} {settings : List Setting} {s : Setting}
    (found : find? settings key = some s) (value : Value) :
    find? (assign key value settings) key = some { s with current := value } := by
  induction settings with
  | nil => cases found
  | cons first rest ih =>
    unfold assign
    unfold find? at found ih ⊢
    by_cases here : first.key = key
    · rw [List.find?_cons_of_pos (by simpa using here)] at found
      rw [if_pos here, List.find?_cons_of_pos (by simpa using here), Option.some.inj found]
    · rw [List.find?_cons_of_neg (by simpa using here)] at found
      rw [if_neg here, List.find?_cons_of_neg (by simpa using here)]
      exact ih found

theorem find?_assign_of_ne {key other : String} (ne : other ≠ key) (value : Value)
    (settings : List Setting) :
    find? (assign key value settings) other = find? settings other := by
  induction settings with
  | nil => rfl
  | cons first rest ih =>
    unfold assign
    unfold find? at ih ⊢
    split
    next here =>
      have elsewhere : ¬ first.key = other := fun e => ne (e.symm.trans here)
      rw [List.find?_cons_of_neg (by simpa using elsewhere),
        List.find?_cons_of_neg (by simpa using elsewhere)]
    next => rw [List.find?_cons, List.find?_cons, ih]

/-- What is found after an assignment has just been assigned, or was found before. -/
theorem find?_assign_cases {key other : String} {settings : List Setting} {s s' : Setting}
    {value : Value} (present : find? settings key = some s)
    (found : find? (assign key value settings) other = some s') :
    other = key ∧ s' = { s with current := value } ∨ find? settings other = some s' := by
  by_cases same : other = key
  · subst same
    rw [find?_assign_self present] at found
    exact .inl ⟨rfl, (Option.some.inj found).symm⟩
  · rw [find?_assign_of_ne same] at found
    exact .inr found

/-- The first setting with the key is there with its new value. -/
theorem mem_assign_of_find? {key : String} {settings : List Setting} {s : Setting}
    (found : find? settings key = some s) (value : Value) :
    { s with current := value } ∈ assign key value settings :=
  List.mem_of_find?_eq_some (find?_assign_self found value)

theorem getElem?_assign_of_ne {key : String} {settings : List Setting} {i : Nat} {s : Setting}
    (at_i : settings[i]? = some s) (other : s.key ≠ key) (value : Value) :
    (assign key value settings)[i]? = some s := by
  induction settings generalizing i with
  | nil => exact at_i
  | cons first rest ih =>
    unfold assign
    cases i with
    | zero =>
      obtain rfl : first = s := by simpa using at_i
      rw [if_neg other]
      exact at_i
    | succ i =>
      rw [List.getElem?_cons_succ] at at_i
      split
      · exact at_i
      · exact ih at_i

end Setting

end SettingsConsole
