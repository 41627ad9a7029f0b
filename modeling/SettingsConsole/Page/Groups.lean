import SettingsConsole.Group.Cycle
import SettingsConsole.Page.Content
import SettingsConsole.Service

/-!
# Settings groups of the page

The groups that the content of a page and the institutions give rise to.  Each starts clean.
-/

namespace SettingsConsole

namespace PageContent

/-- Title, description and, for a part of another node, category.  A registration has no editable
details. -/
def detailsGroup? (c : PageContent) (service : Service) (scope : Scope) : Option SettingGroup :=
  if c.node.isRegistration then none
  else
    let options := c.categories.entries.map fun (key, name) => (⟨key, name⟩ : Setting.Choice)
    let category := Setting.choice "category" "Category" options c.node.category false
    some (.create (.details service.v2 scope.node scope.support)
      ([.text "title" "Title" c.node.title true,
        .text "description" "Description" c.node.description false] ++
        (if c.node.parentExists then [category] else [])))

/-- The setting of an add-on. -/
def addonSetting (a : Addon) : Setting := (Setting.flag a.name a.label a.enabled).withTerms a.terms

/-- The add-ons without the wiki, which has a group of its own. -/
def addonsGroup (c : PageContent) (service : Service) (scope : Scope) : SettingGroup :=
  .create (.addons (service.nodeApi scope.node) scope.support)
    ((c.addons.filter (·.name ≠ Profile.wikiKey)).map addonSetting)

/-- The wiki. -/
def wikiGroup (c : PageContent) (service : Service) (scope : Scope) : SettingGroup :=
  .create (.wiki (service.nodeApi scope.node) scope.support)
    [.flag Profile.wikiKey "Wiki" c.wikiEnabled]

/-- Who may comment. -/
def commentLevels : List Setting.Choice :=
  [⟨"private", "Only contributors can post comments"⟩,
   ⟨"public", "When the project is public, any user can post comments"⟩]

/-- The comment level, if the node has one. -/
def commentsGroup? (c : PageContent) (service : Service) (scope : Scope) : Option SettingGroup :=
  c.commentLevel.map fun level =>
    .create (.comments (service.nodeApi scope.node) scope.support)
      [.choice Profile.commentLevelKey "Commenting" commentLevels (some level) false]

/-- The connection of an account. -/
def accountGroup (service : Service) (scope : Scope) (a : Account) : SettingGroup :=
  .create (.account (service.oauthUrl a.provider) a.provider a.label scope.support)
    [.flag Profile.connectedKey a.label a.connected]

/-- The accounts, a group each. -/
def accountGroups (c : PageContent) (service : Service) (scope : Scope) : List SettingGroup :=
  c.accounts.map (accountGroup service scope)

/-- All groups that the content of the page gives rise to, in the order in which they are shown. -/
def groups (c : PageContent) (service : Service) (scope : Scope) : List SettingGroup :=
  (c.detailsGroup? service scope).toList ++
    [c.addonsGroup service scope, c.wikiGroup service scope] ++
    (c.commentsGroup? service scope).toList ++ c.accountGroups service scope

end PageContent

namespace InstitutionChoices

/-- An institution as an option. -/
def option (i : Institution) : Setting.Choice := ⟨i.id, i.name⟩

/-- The institutions to choose from: the available ones, and the present one if it is not among
them, since the node may belong to an institution that the user does not. -/
def options (c : InstitutionChoices) : List Setting.Choice :=
  let available := c.available.map option
  match c.primary with
  | some i => if available.any (·.value = i.id) then available else available ++ [option i]
  | none => available

/-- The primary institution. -/
def group (c : InstitutionChoices) (service : Service) (scope : Scope) : SettingGroup :=
  .create (.institution service.v2 scope.node scope.support)
    [.choice Profile.institutionKey "Primary institution" c.options (c.primary.map (·.id)) true]

end InstitutionChoices

end SettingsConsole
