import SettingsConsole.Setting

/-!
# Profiles of settings groups

A profile says what is particular to one group of settings: where and how it is saved, what the
request carries, when the user is asked first, and the words shown.  All groups share one save cycle
(`Group.Cycle`); they differ in their profiles only.
-/

namespace SettingsConsole

/-- Names a group on the page; external accounts are named by their provider. -/
inductive GroupId where
  | details
  | addons
  | wiki
  | comments
  | institution
  | account (provider : String)
  deriving DecidableEq, Repr

namespace GroupId

/-- The written form of a group's name. -/
def text : GroupId → String
  | .details => "details"
  | .addons => "addons"
  | .wiki => "wiki"
  | .comments => "comments"
  | .institution => "institution"
  | .account provider => "account:" ++ provider

/-- Whether the group belongs to an external account. -/
def isAccount : GroupId → Bool
  | .account _ => true
  | _ => false

end GroupId

/-- How a group is saved. -/
inductive Method where
  | post
  | put
  | patch
  | delete
  deriving DecidableEq, Repr

/-- What a request carries. -/
inductive PayloadShape where
  /-- The value of every setting under its key, changed or not. -/
  | flat
  /-- A relationship document with the selected institution. -/
  | affiliation
  /-- A node document with every setting as an attribute. -/
  | nodeAttributes (node : String)
  /-- No body. -/
  | empty
  deriving DecidableEq, Repr

/-- What is announced after a save. -/
inductive NoticeRule where
  | silent
  | text (words : String)
  /-- By the value of a flag. -/
  | byFlag (key enabled disabled : String)
  deriving DecidableEq, Repr

/-- What is said when a save fails. -/
inductive FailureRule where
  | text (words : String)
  /-- By whether a choice was set or cleared. -/
  | byChoice (key set cleared : String)
  deriving DecidableEq, Repr

/-- What is particular to one group of settings. -/
structure Profile where
  id : GroupId
  /-- The group's name in the warning about unsaved changes. -/
  label : String
  endpoint : String
  method : Method
  payload : PayloadShape
  /-- Whether switching anything off is confirmed before it is sent. -/
  confirmsRemoval : Bool
  confirmTitle : String
  confirmLabel : String
  /-- Whether every edit is saved at once. -/
  savesOnEdit : Bool
  /-- Where the user is sent to switch a flag on, if the service cannot do it by request. -/
  enableUrl : Option String
  notice : NoticeRule
  /-- Milliseconds from a successful save to the reload of the page. -/
  reloadDelay : Nat
  failure : FailureRule
  /-- The address of the support, named in alerts. -/
  support : String
  deriving DecidableEq, Repr

namespace Profile

/-! ## Keys with a meaning -/

/-- The key of the wiki flag, also the name of the wiki among the add-ons. -/
def wikiKey : String := "wiki"

/-- The key of the comment level. -/
def commentLevelKey : String := "commentLevel"

/-- The key of the primary institution. -/
def institutionKey : String := "primaryInst"

/-- The key of an account's connection. -/
def connectedKey : String := "connected"

/-! ## The groups of the page -/

/-- Milliseconds a notice stays up. -/
def noticeLife : Nat := 5000

/-- Title, description and category, saved as one node document. -/
def details (v2 node support : String) : Profile where
  id := .details
  label := "project"
  endpoint := v2 ++ "nodes/" ++ node ++ "/"
  method := .patch
  payload := .nodeAttributes node
  confirmsRemoval := false
  confirmTitle := "Update project?"
  confirmLabel := "Save"
  savesOnEdit := false
  enableUrl := none
  notice := .text "Settings updated"
  reloadDelay := 0
  failure := .text "Unable to update project settings."
  support := support

/-- The add-ons; deselecting one is confirmed. -/
def addons (nodeApi support : String) : Profile where
  id := .addons
  label := "addon"
  endpoint := nodeApi ++ "settings/addons/"
  method := .post
  payload := .flat
  confirmsRemoval := true
  confirmTitle := "Are you sure you want to remove the add-ons you have deselected?"
  confirmLabel := "Remove"
  savesOnEdit := false
  enableUrl := none
  notice := .text "Settings updated"
  reloadDelay := 0
  failure := .text "Sorry, we had trouble saving your settings."
  support := support

/-- The wiki, saved as soon as it is switched; disabling it is confirmed. -/
def wiki (nodeApi support : String) : Profile where
  id := .wiki
  label := "wiki"
  endpoint := nodeApi ++ "settings/addons/"
  method := .post
  payload := .flat
  confirmsRemoval := true
  confirmTitle := "Are you sure you want to disable the wiki?"
  confirmLabel := "Disable"
  savesOnEdit := true
  enableUrl := none
  notice := .byFlag wikiKey "Wiki Enabled" "Wiki Disabled"
  reloadDelay := 1500
  failure := .text "Unable to update wiki"
  support := support

/-- The comment level. -/
def comments (nodeApi support : String) : Profile where
  id := .comments
  label := "commenting"
  endpoint := nodeApi ++ "settings/comments/"
  method := .post
  payload := .flat
  confirmsRemoval := false
  confirmTitle := "Change commenting settings?"
  confirmLabel := "Confirm"
  savesOnEdit := false
  enableUrl := none
  notice := .text "Successfully updated settings."
  reloadDelay := 0
  failure := .text "Could not set commenting configuration. Please try again."
  support := support

/-- The primary institution, saved as a relationship of the node. -/
def institution (v2 node support : String) : Profile where
  id := .institution
  label := "institution"
  endpoint := v2 ++ "nodes/" ++ node ++ "/relationships/institution/"
  method := .put
  payload := .affiliation
  confirmsRemoval := false
  confirmTitle := "Change affiliated institution?"
  confirmLabel := "Confirm"
  savesOnEdit := false
  enableUrl := none
  notice := .silent
  reloadDelay := 0
  failure := .byChoice institutionKey "Unable to add institution to this node!"
    "Unable to remove institution from this node!"
  support := support

/-- An external account: it is connected in the browser and disconnected by a request without a
body, after confirmation. -/
def account (oauthUrl provider label support : String) : Profile where
  id := .account provider
  label := label ++ " account"
  endpoint := oauthUrl
  method := .delete
  payload := .empty
  confirmsRemoval := true
  confirmTitle := "Disconnect " ++ label ++ " Account?"
  confirmLabel := "Disconnect"
  savesOnEdit := true
  enableUrl := some oauthUrl
  notice := .silent
  reloadDelay := 0
  failure := .text ("Unable to disconnect " ++ label ++ ".")
  support := support

/-! ## What a profile makes of the settings -/

/-- The values of the settings under their keys. -/
def valuesJson (settings : List Setting) : Json :=
  Json.ofFields (settings.map fun s => (s.key, s.current.toJson))

/-- The body of a request that saves the settings as they are shown. -/
def buildPayload (p : Profile) (settings : List Setting) : Option Json :=
  match p.payload with
  | .flat => some (valuesJson settings)
  | .affiliation =>
    let data := match (Setting.find? settings institutionKey).bind (·.current.selected?) with
      | some id => Json.ofFields [("type", .string "institutions"), ("id", .string id)]
      | none => .null
    some (Json.ofFields [("data", data)])
  | .nodeAttributes node =>
    some (Json.ofFields [("data", Json.ofFields
      [("type", .string "nodes"), ("id", .string node), ("attributes", valuesJson settings)])])
  | .empty => none

/-- What is announced once the settings are saved. -/
def successText (p : Profile) (settings : List Setting) : Option String :=
  match p.notice with
  | .silent => none
  | .text words => some words
  | .byFlag key enabled disabled =>
    (Setting.find? settings key).map fun s => if s.current = .flag true then enabled else disabled

/-- What is said when the settings could not be saved. -/
def failureText (p : Profile) (settings : List Setting) : String :=
  match p.failure with
  | .text words => words
  | .byChoice key set cleared =>
    if ((Setting.find? settings key).bind (·.current.selected?)).isSome then set else cleared

end Profile

end SettingsConsole
