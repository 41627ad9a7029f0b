import SettingsConsole.Text.Quoted

/-!
# Environment variables

The value of a variable is a text, or bytes that are no UTF-8.  Reading a variable as a text fails
if it is not set or is no text.
-/

namespace SettingsConsole

/-- The value of a variable. -/
inductive VariableValue where
  | text (content : String)
  /-- Bytes that are no UTF-8. -/
  | raw (bytes : List UInt8)
  deriving DecidableEq, Repr

/-- The environment: the variables that are set, of equal names the first. -/
structure Environment where
  bindings : List (String × VariableValue)
  deriving DecidableEq, Repr

/-- Why a variable cannot be read as a text. -/
inductive VariableError where
  | notSet
  | notUnicode (bytes : List UInt8)
  deriving DecidableEq, Repr

namespace VariableValue

/-- The value with the given bytes. -/
def ofBytes (bytes : List UInt8) : VariableValue :=
  match Text.decodeUtf8? bytes with
  | some content => .text content
  | none => .raw bytes

end VariableValue

namespace VariableError

/-- The text of an error. -/
def message : VariableError → String
  | .notSet => "environment variable not found"
  | .notUnicode bytes => "environment variable was not valid unicode: " ++ Text.quotedBytes bytes

end VariableError

namespace Environment

/-- The variable as a text. -/
def read (e : Environment) (name : String) : Except VariableError String :=
  match e.bindings.lookup name with
  | none => .error .notSet
  | some (.text content) => .ok content
  | some (.raw bytes) => .error (.notUnicode bytes)

/-- The variable as a text, if it can be read as one. -/
def read? (e : Environment) (name : String) : Option String := (e.read name).toOption

/-- The environment in which a variable has the given text. -/
def set (e : Environment) (name content : String) : Environment :=
  ⟨(name, .text content) :: e.bindings⟩

theorem read_set_self (e : Environment) (name content : String) :
    (e.set name content).read name = .ok content := by
  simp [set, read]

theorem read_set_of_ne (e : Environment) {name other : String} (h : other ≠ name)
    (content : String) : (e.set name content).read other = e.read other := by
  have hb : (other == name) = false := beq_false_of_ne h
  simp [set, read, List.lookup_cons, hb]

end Environment

end SettingsConsole
