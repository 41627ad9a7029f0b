import SettingsConsole.Console.Event
import SettingsConsole.Http.Client
import SettingsConsole.Http.Standard

/-!
# Outcomes of effects

What becomes of the effects that the console asks for.  Each area of the page is fetched on its own
and reports on its own.  Without a client a save fails at once.
-/

namespace SettingsConsole

namespace Console

/-- The client of the console, if it has one. -/
def client? (c : Console) : Option Client := if c.online then some ⟨c.service, c.scope⟩ else none

end Console

namespace CallFailure

/-- The result of a call with the words about a failure. -/
def inWords {α : Type} (result : Except CallFailure α) : Except String α :=
  result.mapError message

end CallFailure

namespace Effect

/-- The calls that an effect makes, in order. -/
def calls (client : Client) : Effect → List Call
  | .load => [client.pageCall, client.subscriptionsCall, client.wikiCall, client.institutionsCall,
      client.primaryCall]
  | .send request => [.ofSubmission request]

variable [Web]

/-- The events that report how the areas of the page were fetched. -/
def loaded (client : Client) (network : Network) : List Event :=
  [.pageFetched (CallFailure.inWords (client.fetchPage network)),
   .subscriptionsFetched (CallFailure.inWords (client.fetchSubscriptions network)),
   .wikiFetched (CallFailure.inWords (client.fetchWiki network)),
   .institutionsFetched (CallFailure.inWords (client.fetchChoices network))]

/-- The event that reports how a save ended. -/
def settled (client : Option Client) (network : Network) (request : Submission) : Event :=
  .saveSettled request.group (match client with
    | some client => (CallFailure.inWords (client.submit network request)).map fun _ => ()
    | none => .error "API client not initialized")

/-- The events with which the outcomes of an effect come back. -/
def outcomes (client : Option Client) (network : Network) : Effect → List Event
  | .load =>
    match client with
    | some client => loaded client network
    | none => []
  | .send request => [settled client network request]

end Effect

end SettingsConsole
