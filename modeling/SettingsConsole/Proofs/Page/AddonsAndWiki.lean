import SettingsConsole.Proofs.Console.Session
import SettingsConsole.Proofs.Group.Payload
import SettingsConsole.Proofs.Group.Switch

/-!
# The add-ons and the wiki

Both groups are saved to one address, and a request overwrites every key that it carries.  A group
sends the value of each of its settings, changed or not, so what matters is which settings it has;
and these are given when it is built.  The add-ons leave the wiki out and the wiki is all that its
own group has, so neither ever writes what belongs to the other (`addons_and_wiki_stay_apart`).
-/

namespace SettingsConsole

namespace SettingGroup

/-- The group is what a group that was built came to, whatever happened to it. -/
def CameOf (g built : SettingGroup) : Prop :=
  ∃ p settings log, create p settings = built ∧ History p settings log g

variable {g built : SettingGroup} {key label : String} {first : Bool}

theorem CameOf.profile (h : g.CameOf built) : g.profile = built.profile := by
  obtain ⟨p, settings, log, rfl, history⟩ := h
  exact history.profile

theorem CameOf.map_key (h : g.CameOf built) :
    g.settings.map Setting.key = built.settings.map Setting.key := by
  obtain ⟨p, settings, log, rfl, history⟩ := h
  rw [history.map_key, create, List.map_map]
  rfl

theorem CameOf.isSwitch (h : g.CameOf built) (switch : built.IsSwitch key label first first) :
    ∃ on was, g.IsSwitch key label on was := by
  obtain ⟨p, settings, log, rfl, history⟩ := h
  obtain ⟨on, was, still, -⟩ := history.isSwitch switch
  exact ⟨on, was, still⟩

theorem not_isDirty_create (p : Profile) (settings : List Setting) :
    ¬ (create p settings).isDirty := by
  have clean := (SettingGroup.mk p settings .idle).isEmpty_changes_captureBaseline
  have same : (create p settings).changes =
      (SettingGroup.mk p settings .idle).captureBaseline.changes := rfl
  simp [isDirty, same, clean]

end SettingGroup

namespace PageContent

open SettingGroup

variable {content : PageContent} {service : Service} {scope : Scope} {g : SettingGroup}

/-- Where the add-ons and the wiki are saved. -/
def addonsAddress (service : Service) (scope : Scope) : String :=
  service.nodeApi scope.node ++ "settings/addons/"

theorem map_key_addonsGroup (content : PageContent) (service : Service) (scope : Scope) :
    (content.addonsGroup service scope).settings.map Setting.key =
      (content.addons.map Addon.name).filter (· ≠ Profile.wikiKey) := by
  rw [List.filter_map]
  simp only [addonsGroup, create, List.map_map]
  rfl

/-- Whatever happened to the add-ons, they send the value of each add-on but the wiki. -/
theorem addons_submission (h : g.CameOf (content.addonsGroup service scope)) :
    ∃ fields, g.submission =
        ⟨.addons, .post, addonsAddress service scope, some (.object fields)⟩ ∧
      Json.Ascending fields ∧
      ∀ key, key ∈ fields.map Prod.fst ↔
        key ∈ content.addons.map Addon.name ∧ key ≠ Profile.wikiKey := by
  have own : g.profile = .addons (service.nodeApi scope.node) scope.support := h.profile
  have flat : g.profile.payload = .flat := by rw [own]; rfl
  obtain ⟨fields, made, ascending, keys, -⟩ := Profile.exists_valuesJson g.settings
  refine ⟨fields, ?_, ascending, fun key => ?_⟩
  · unfold submission
    rw [Profile.buildPayload_flat flat, made, SettingGroup.id, own]
    rfl
  · rw [keys, h.map_key, map_key_addonsGroup, List.mem_filter, decide_eq_true_iff]

/-- Whatever happened to the wiki, it sends its flag and nothing else. -/
theorem wiki_submission (h : g.CameOf (content.wikiGroup service scope)) :
    ∃ on, g.submission = ⟨.wiki, .post, addonsAddress service scope,
      some (.object [(Profile.wikiKey, .bool on)])⟩ := by
  have own : g.profile = .wiki (service.nodeApi scope.node) scope.support := h.profile
  obtain ⟨on, was, switch⟩ := h.isSwitch (IsSwitch.wiki content service scope)
  refine ⟨on, ?_⟩
  unfold submission
  rw [switch, SettingGroup.id, own]
  rfl

/-- At first each add-on is sent as it was fetched. -/
theorem field?_addonsGroup (distinct : (content.addons.map Addon.name).Nodup) {a : Addon}
    (member : a ∈ content.addons) (own : a.name ≠ Profile.wikiKey) :
    (content.addonsGroup service scope).submission.payload.bind (Json.field? a.name) =
      some (.bool a.enabled) := by
  have distinct : ((content.addonsGroup service scope).settings.map Setting.key).Nodup := by
    rw [map_key_addonsGroup]
    exact distinct.filter _
  have listed : (addonSetting a).acknowledged ∈ (content.addonsGroup service scope).settings :=
    List.mem_map_of_mem (List.mem_map_of_mem (List.mem_filter.2 ⟨member, decide_eq_true own⟩))
  exact Profile.field?_valuesJson distinct listed

/-- The add-ons and the wiki of a page, whatever happened to either group since it was built, are
saved to one address by requests that have no key in common: the add-ons send every add-on but the
wiki, the wiki sends its flag.  Both start clean, with the values that were fetched. -/
theorem addons_and_wiki_stay_apart (content : PageContent) (service : Service) (scope : Scope) :
    (∀ {addons wiki : SettingGroup}, addons.CameOf (content.addonsGroup service scope) →
      wiki.CameOf (content.wikiGroup service scope) →
      ∃ fields on,
        addons.submission =
          ⟨.addons, .post, addonsAddress service scope, some (.object fields)⟩ ∧
        wiki.submission =
          ⟨.wiki, .post, addonsAddress service scope,
            some (.object [(Profile.wikiKey, .bool on)])⟩ ∧
        Json.Ascending fields ∧
        (∀ key, key ∈ fields.map Prod.fst ↔
          key ∈ content.addons.map Addon.name ∧ key ≠ Profile.wikiKey) ∧
        Profile.wikiKey ∉ fields.map Prod.fst) ∧
    ¬ (content.addonsGroup service scope).isDirty ∧
    ¬ (content.wikiGroup service scope).isDirty ∧
    (content.wikiGroup service scope).submission.payload =
      some (.object [(Profile.wikiKey, .bool content.wikiEnabled)]) ∧
    ((content.addons.map Addon.name).Nodup →
      ∀ a ∈ content.addons, a.name ≠ Profile.wikiKey →
        (content.addonsGroup service scope).submission.payload.bind (Json.field? a.name) =
          some (.bool a.enabled)) := by
  refine ⟨fun cameOfAddons cameOfWiki => ?_, not_isDirty_create _ _, not_isDirty_create _ _, rfl,
    fun distinct a member own => field?_addonsGroup distinct member own⟩
  obtain ⟨fields, sent, ascending, keys⟩ := addons_submission cameOfAddons
  obtain ⟨on, switched⟩ := wiki_submission cameOfWiki
  exact ⟨fields, on, sent, switched, ascending, keys, fun member => ((keys _).1 member).2 rfl⟩

/-- An add-on is switched on and saved while the removal of the wiki is asked about; the add-ons
list the wiki too, and do not send it. -/
theorem addons_and_wiki_stay_apart_github :
    let service := Session.smallService
    let scope := Session.smallScope
    let content := { Session.smallPage with
      addons := [⟨"github", "GitHub", false, none⟩, ⟨"wiki", "Wiki", true, none⟩,
        ⟨"dropbox", "Dropbox", true, none⟩]
      wikiEnabled := true }
    let addons := (played (.addons (service.nodeApi "abc12") "support@osf.io")
      [.flag "github" "GitHub" false, .flag "dropbox" "Dropbox" true]
      [.operate .beginSave, .operate (.toggle "github")]).2
    let wiki := (played (.wiki (service.nodeApi "abc12") "support@osf.io")
      [.flag "wiki" "Wiki" true] [.operate (.toggle "wiki")]).2
    addons.CameOf (content.addonsGroup service scope) ∧ addons.phase = .saving ∧
      wiki.CameOf (content.wikiGroup service scope) ∧ wiki.phase = .confirming ∧
      addons.submission.endpoint = wiki.submission.endpoint ∧
      addons.submission.payload =
        some (.object [("dropbox", .bool true), ("github", .bool true)]) ∧
      wiki.submission.payload = some (.object [("wiki", .bool false)]) ∧
      (content.addons.map Addon.name).Nodup ∧
      (content.addonsGroup service scope).submission.payload.bind (Json.field? "github") =
        some (.bool false) := by
  intro service scope content addons wiki
  have cameOfAddons : addons.CameOf (content.addonsGroup service scope) :=
    ⟨_, _, _, by decide, history_played _ _ _⟩
  have cameOfWiki : wiki.CameOf (content.wikiGroup service scope) :=
    ⟨_, _, _, by decide, history_played _ _ _⟩
  have distinct : (content.addons.map Addon.name).Nodup := by decide
  obtain ⟨apart, -, -, -, fetched⟩ := addons_and_wiki_stay_apart content service scope
  obtain ⟨fields, on, sent, switched, -⟩ := apart cameOfAddons cameOfWiki
  exact ⟨cameOfAddons, by decide, cameOfWiki, by decide, by rw [sent, switched], by decide,
    by decide, distinct, fetched distinct ⟨"github", "GitHub", false, none⟩ (by decide) (by decide)⟩

end PageContent

end SettingsConsole
