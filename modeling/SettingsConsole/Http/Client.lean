import SettingsConsole.Http.Exchange
import SettingsConsole.Page.Content
import SettingsConsole.Page.Outline
import SettingsConsole.Service

/-!
# The client of the service

The calls that load the page and save a group, for one service and one node and user.
-/

namespace SettingsConsole

/-- What is needed to call the service for the page. -/
structure Client where
  service : Service
  scope : Scope
  deriving DecidableEq, Repr

namespace Client

variable (c : Client)

/-- The root of the first interface for the node. -/
def nodeApi : String := c.service.nodeApi c.scope.node

/-! ## Calls -/

/-- Asks for the content of the page. -/
def pageCall : Call := .get (c.nodeApi ++ "settings/") []

/-- Asks for the notification settings. -/
def subscriptionsCall : Call := .get (c.nodeApi ++ "subscriptions/") []

/-- Asks for the wiki permissions. -/
def wikiCall : Call := .get (c.nodeApi ++ "wiki/settings/") []

/-- Asks for the institutions of the user. -/
def institutionsCall : Call :=
  .get (c.service.v2 ++ "users/" ++ c.scope.user ++ "/") [("embed", "institutions")]

/-- Asks for the primary institution of the node. -/
def primaryCall : Call :=
  .get (c.service.v2 ++ "nodes/" ++ c.scope.node ++ "/") [("embed", "primary_institution")]

/-! ## Results -/

variable [Web]

/-- The content of the page. -/
def fetchPage (network : Network) : Except CallFailure PageContent :=
  c.pageCall.fetch c.service.token network PageContent.decode

/-- The notification settings. -/
def fetchSubscriptions (network : Network) : Except CallFailure (List (Outline Subscription)) :=
  c.subscriptionsCall.fetch c.service.token network (Outline.decodeForest Subscription.format)

/-- The wiki permissions. -/
def fetchWiki (network : Network) : Except CallFailure (List (Outline String)) :=
  c.wikiCall.fetch c.service.token network (Outline.decodeForest WikiPermission.format)

/-- The institutions of the user. -/
def fetchInstitutions (network : Network) : Except CallFailure (List Institution) :=
  c.institutionsCall.fetch c.service.token network Institution.decodeOfUser

/-- The primary institution of the node. -/
def fetchPrimary (network : Network) : Except CallFailure (Option Institution) :=
  c.primaryCall.fetch c.service.token network Institution.decodeOfNode

/-- The institutions to choose from.  A primary one that cannot be fetched counts as none. -/
def fetchChoices (network : Network) : Except CallFailure InstitutionChoices :=
  (c.fetchInstitutions network).map fun available =>
    ⟨available, ((c.fetchPrimary network).toOption).join⟩

/-- Saves a group. -/
def submit (network : Network) (s : Submission) : Except CallFailure Json :=
  (Call.ofSubmission s).perform c.service.token network

end Client

end SettingsConsole
