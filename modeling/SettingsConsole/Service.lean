/-!
# The service and the page on it

Where the service is, how requests to it are authorised, and for which node and user the page is
shown.
-/

namespace SettingsConsole

/-- The service that keeps the settings. -/
structure Service where
  /-- The root of the service, without a slash at the end. -/
  url : String
  /-- What the addresses of the second interface start with, a slash at the end. -/
  v2 : String
  /-- The token that authorises requests. -/
  token : String
  /-- How many seconds to wait for an answer. -/
  timeoutSecs : Nat
  deriving DecidableEq, Repr

/-- What the page is shown for. -/
structure Scope where
  node : String
  user : String
  /-- The address of the support, named in alerts. -/
  support : String
  deriving DecidableEq, Repr

namespace Service

/-- The root of the first interface for a node, a slash at the end. -/
def nodeApi (s : Service) (node : String) : String := s.url ++ "/api/v1/project/" ++ node ++ "/"

/-- Where an account with a provider is connected and disconnected. -/
def oauthUrl (s : Service) (provider : String) : String :=
  s.url ++ "/api/v1/settings/" ++ provider ++ "/oauth/"

end Service

end SettingsConsole
