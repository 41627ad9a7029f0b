import SettingsConsole.Console.State

/-!
# Events and effects

What reaches the console, and what it asks for in turn.
-/

namespace SettingsConsole

/-- A key. -/
inductive Key where
  | char (c : Char)
  | enter
  | escape
  | tab
  | backTab
  | left
  | right
  | up
  | down
  | backspace
  /-- Any key without a meaning here. -/
  | other
  deriving DecidableEq, Repr

/-- What reaches the console.  A failed result carries words about its cause, which are never
shown. -/
inductive Event where
  | tick
  | key (key : Key)
  /-- The pointer moved or the screen has another size. -/
  | ignored
  | pageFetched (result : Except String PageContent)
  | subscriptionsFetched (result : Except String (List (Outline Subscription)))
  | wikiFetched (result : Except String (List (Outline String)))
  | institutionsFetched (result : Except String InstitutionChoices)
  /-- The outcome of a request that saves a group. -/
  | saveSettled (group : GroupId) (result : Except String Unit)

/-- What the console asks for. -/
inductive Effect where
  /-- Fetch all areas of the page. -/
  | load
  /-- Send a request that saves a group. -/
  | send (request : Submission)
  deriving DecidableEq, Repr

end SettingsConsole
