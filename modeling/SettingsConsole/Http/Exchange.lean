import SettingsConsole.Group.Message
import SettingsConsole.Json.Decode

/-!
# Exchanges with the service

A call is what the console wants of the service; a request is what reaches the service for it, if a
request can be made at all.  What may stand in an address or a header, and what JSON is, is not the
console's to say: it leaves that to its libraries, which are parameters here (`Web`).  The network
is a function that answers requests or does not.  A call succeeds exactly when an answer arrives
whose status is in the two hundreds and whose body is JSON.
-/

namespace SettingsConsole

/-- The libraries through which the console reaches the web. -/
class Web where
  /-- The address that a request goes to, for a text with pairs to add to its query, if it is the
  text of an address. -/
  address? (text : String) (pairs : Option (List (String × String))) : Option String
  /-- A header as it reaches the service, if the text may stand in one. -/
  header? (text : String) : Option String
  /-- The JSON of a value. -/
  write (value : Json) : String
  /-- The text of the body of an answer. -/
  bodyText (body : String) : String
  /-- The value of a text that is JSON. -/
  read? (text : String) : Option Json

/-- A request as the service sees it. -/
structure HttpRequest where
  method : String
  url : String
  authorization : String
  accept : String
  contentType : Option String
  body : String
  deriving DecidableEq, Repr

/-- An answer of the service. -/
structure HttpResponse where
  status : Nat
  body : String
  deriving DecidableEq, Repr

/-- What answers requests, or leaves them unanswered. -/
abbrev Network := HttpRequest → Option HttpResponse

/-- Why a call fails. -/
inductive CallFailure where
  /-- No request could be made, or none was answered. -/
  | unanswered (url : String)
  /-- The service refused. -/
  | refused (status : Nat) (body : String)
  /-- The body is not JSON. -/
  | notJson (url : String)
  /-- The body is JSON of another form than expected. -/
  | unexpected (url : String) (cause : DecodeError)
  deriving DecidableEq, Repr

namespace CallFailure

/-- The text of a failure. -/
def message : CallFailure → String
  | .unanswered url => "Failed to send request to " ++ url ++ ": no answer"
  | .refused status body =>
    "API request failed with status: " ++ toString status ++ " - " ++ body
  | .notJson url => "Failed to parse JSON from " ++ url ++ ": not JSON"
  | .unexpected url cause => "Failed to parse JSON from " ++ url ++ ": " ++ cause.message

end CallFailure

/-- What the console wants of the service. -/
structure Call where
  method : String
  url : String
  /-- Pairs to add to the query of the address, if it may be changed. -/
  query : Option (List (String × String))
  /-- Whether the type of the content is given, also when there is none. -/
  hasContentType : Bool
  body : Option Json
  deriving DecidableEq, Repr

namespace Method

/-- The name of a method in a request. -/
def text : Method → String
  | .post => "POST"
  | .put => "PUT"
  | .patch => "PATCH"
  | .delete => "DELETE"

end Method

namespace Call

/-- The call that asks for the value at an address. -/
def get (url : String) (query : List (String × String)) : Call :=
  ⟨"GET", url, some query, false, none⟩

/-- The call that saves a group. -/
def ofSubmission (s : Submission) : Call := ⟨s.method.text, s.endpoint, none, true, s.payload⟩

variable [Web]

/-- The request for a call, if one can be made. -/
def request? (token : String) (c : Call) : Option HttpRequest := do
  let url ← Web.address? c.url c.query
  let authorization ← Web.header? ("Bearer " ++ token)
  return { method := c.method
           url
           authorization
           accept := "application/json"
           contentType := if c.hasContentType then some "application/json" else none
           body := (c.body.map Web.write).getD "" }

/-- What a call makes of its answer. -/
def read (c : Call) : Option HttpResponse → Except CallFailure Json
  | none => .error (.unanswered c.url)
  | some r =>
    let body := Web.bodyText r.body
    if 200 ≤ r.status ∧ r.status < 300 then
      match Web.read? body with
      | some v => .ok v
      | none => .error (.notJson c.url)
    else .error (.refused r.status body)

/-- Makes a call. -/
def perform (token : String) (network : Network) (c : Call) : Except CallFailure Json :=
  c.read (c.request? token >>= network)

/-- Makes a call and decodes its answer. -/
def fetch {α : Type} (token : String) (network : Network) (decode : Decoder α) (c : Call) :
    Except CallFailure α := do
  let v ← c.perform token network
  (decode v).mapError (.unexpected c.url)

end Call

end SettingsConsole
