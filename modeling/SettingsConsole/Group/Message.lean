import SettingsConsole.Group.Profile

/-!
# What a settings group says

Requests that are handed out to be sent, questions and messages for the user, the reasons for which
an operation is refused, and the outcomes of the operations that are not.
-/

namespace SettingsConsole

/-- One attempt to save a group. -/
structure Submission where
  group : GroupId
  method : Method
  endpoint : String
  payload : Option Json
  deriving DecidableEq, Repr

/-- What a prompt asks about. -/
inductive PromptKind where
  /-- Something is about to be taken away. -/
  | removal
  /-- The setting with this key was switched on and has terms. -/
  | terms (key : String)
  deriving DecidableEq, Repr

/-- A question to the user. -/
structure Prompt where
  group : GroupId
  kind : PromptKind
  title : String
  message : String
  /-- The labels of the settings it is about. -/
  items : List String
  confirmLabel : String
  deriving DecidableEq, Repr

/-- A message that goes away by itself. -/
structure Notice where
  text : String
  /-- Milliseconds it stays up. -/
  life : Nat
  deriving DecidableEq, Repr

/-- A message that stays up until it is acknowledged. -/
structure Alert where
  title : String
  message : String
  deriving DecidableEq, Repr

namespace Alert

/-- A failed request, with the address of the support. -/
def requestFailed (message support : String) : Alert :=
  ⟨"Request failed", message ++ " If this persists please contact " ++ support ++ "."⟩

end Alert

/-- Why an operation on a group is refused. -/
inductive Refusal where
  | saving
  | promptOpen
  | nothingAsked
  | unknownSetting (key : String)
  | wrongKind (key : String)
  | notAnOption (key : String) (value : Option String)
  | blank (label : String)
  deriving DecidableEq, Repr

namespace Refusal

/-- The text of a refusal. -/
def message : Refusal → String
  | .saving => "A save is already in progress"
  | .promptOpen => "Answer the open prompt first"
  | .nothingAsked => "Nothing is waiting for confirmation"
  | .unknownSetting key => "Unknown setting '" ++ key ++ "'"
  | .wrongKind key => "Setting '" ++ key ++ "' does not accept that kind of value"
  | .notAnOption key value =>
    "'" ++ value.getD "None" ++ "' is not an option for '" ++ key ++ "'"
  | .blank label => label ++ " cannot be blank"

end Refusal

/-- What a save leads to. -/
inductive SaveOutcome where
  /-- Nothing differs from what is saved, so nothing is sent. -/
  | unchanged (notice : Option Notice)
  | confirm (prompt : Prompt)
  | submit (request : Submission)
  /-- The user declined; the settings with these keys are back at their saved values. -/
  | rolledBack (keys : List String)
  deriving DecidableEq, Repr

/-- What an edit leads to. -/
inductive EditOutcome where
  | updated
  | prompt (prompt : Prompt)
  | save (outcome : SaveOutcome)
  /-- Switching this on happens elsewhere. -/
  | redirect (url : String)
  deriving DecidableEq, Repr

/-- What a successful save leads to: an announcement, and a reload after a delay. -/
structure Success where
  notice : Option Notice
  reloadDelay : Nat
  deriving DecidableEq, Repr

end SettingsConsole
