import SettingsConsole.Config.Environment
import SettingsConsole.Service

/-!
# Configuration

What the console has to know before it starts, read from environment variables.  Four variables
have to be set, the timeout has to be a whole number if it is a text at all, and the others have
defaults.  The first variable that is in the way is named, in the order in which they are read.
-/

namespace SettingsConsole

/-- The configuration of the console. -/
structure Config where
  service : Service
  scope : Scope
  /-- Where to write a log. -/
  logPath : Option String
  deriving DecidableEq, Repr

/-- Why a text is not a whole number of at most 64 bits. -/
inductive WholeNumberError where
  | empty
  | invalidDigit
  | tooLarge
  deriving DecidableEq, Repr

namespace WholeNumberError

/-- The text of an error. -/
def message : WholeNumberError → String
  | .empty => "cannot parse integer from empty string"
  | .invalidDigit => "invalid digit found in string"
  | .tooLarge => "number too large to fit in target type"

end WholeNumberError

/-- Reads digits one by one; the first that is no digit or makes the number too large decides. -/
def wholeOfDigits (limit : Nat) : Nat → List Char → Except WholeNumberError Nat
  | n, [] => .ok n
  | n, c :: rest =>
    if c.isDigit then
      let m := n * 10 + (c.toNat - 48)
      if m < limit then wholeOfDigits limit m rest else .error .tooLarge
    else .error .invalidDigit

/-- Reads a whole number below `2 ^ 64`, with an optional plus sign. -/
def readWhole (text : String) : Except WholeNumberError Nat :=
  match text.toList with
  | [] => .error .empty
  | ['+'] => .error .invalidDigit
  | '+' :: rest => wholeOfDigits (Nat.pow 2 64) 0 rest
  | cs => wholeOfDigits (Nat.pow 2 64) 0 cs

namespace Config

/-- Why there is no configuration. -/
inductive Error where
  | variable (name : String) (cause : VariableError)
  | timeout (name : String) (cause : WholeNumberError)
  deriving DecidableEq, Repr

/-- The text of an error with its cause. -/
def Error.message : Error → String
  | .variable name cause => name ++ " must be set: " ++ cause.message
  | .timeout name cause => name ++ " must be a whole number of seconds: " ++ cause.message

/-! ## Variables -/

/-- The root of the service. -/
def urlVariable : String := "OSF_API_URL"

/-- What the addresses of the second interface start with. -/
def v2Variable : String := "OSF_API_V2_PREFIX"

/-- The token that authorises requests. -/
def tokenVariable : String := "OSF_TOKEN"

/-- How many seconds to wait for an answer. -/
def timeoutVariable : String := "OSF_HTTP_TIMEOUT_SECS"

/-- The node of the page. -/
def nodeVariable : String := "OSF_NODE_ID"

/-- The user of the page. -/
def userVariable : String := "OSF_USER_ID"

/-- The address of the support. -/
def supportVariable : String := "OSF_SUPPORT_EMAIL"

/-- Where to write a log. -/
def logVariable : String := "PROJECT_SETTINGS_LOG"

/-- The address of the support unless another is given. -/
def defaultSupport : String := "support@osf.io"

/-- The timeout unless another is given. -/
def defaultTimeout : Nat := 10

/-! ## Normal forms -/

/-- A text without slashes at its end. -/
def dropSlashes (s : String) : String :=
  String.ofList (s.toList.reverse.dropWhile (· = '/')).reverse

/-- A text with a slash at its end, added if it has none. -/
def endInSlash (s : String) : String := if s.toList.getLast? = some '/' then s else s ++ "/"

/-! ## Loading -/

/-- A variable that has to be set. -/
def requireVariable (e : Environment) (name : String) : Except Error String :=
  (e.read name).mapError (.variable name)

/-- The timeout; a variable that is no text counts as not set. -/
def readTimeout (e : Environment) : Except Error Nat :=
  match e.read? timeoutVariable with
  | some text => (readWhole text).mapError (.timeout timeoutVariable)
  | none => .ok defaultTimeout

/-- The configuration that an environment gives. -/
def load (e : Environment) : Except Error Config := do
  let url := dropSlashes (← requireVariable e urlVariable)
  let v2 := endInSlash ((e.read? v2Variable).getD (url ++ "/v2/"))
  let token ← requireVariable e tokenVariable
  let timeoutSecs ← readTimeout e
  let node ← requireVariable e nodeVariable
  let user ← requireVariable e userVariable
  let support := (e.read? supportVariable).getD defaultSupport
  return { service := { url, v2, token, timeoutSecs }
           scope := { node, user, support }
           logPath := e.read? logVariable }

end Config

end SettingsConsole
