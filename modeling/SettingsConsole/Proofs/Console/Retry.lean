import SettingsConsole.Proofs.Console.Lineage
import SettingsConsole.Proofs.Console.Offered
import SettingsConsole.Proofs.Group.SaveCycle
import SettingsConsole.Proofs.Group.Switch

/-!
# Saves that are tried again

A request that fails leaves the edits of its group as they are, so that the user can try again by
what the console offers on the tab of the group.  Where the tab has a save key, that does it.  The
wiki has none, and is switched back and forth.  The group of an account has none either, and once it
is switched off it only points to the browser: its request cannot be sent again (`canSend_again`).
-/

namespace SettingsConsole

namespace SettingGroup

variable {g : SettingGroup} {op : Operation} {key label : String} {on was : Bool}

/-! ## Groups of one flag -/

namespace IsSwitch

theorem of_mem_rows (switch : g.IsSwitch key label on was) {row : Row} (member : row ∈ g.rows) :
    row.key = key ∧ row.action = .toggle := by
  unfold SettingGroup.rows at member
  rw [switch] at member
  rw [List.mem_singleton.1 member]
  exact ⟨rfl, rfl⟩

theorem offers_toggle (switch : g.IsSwitch key label on was) : g.Offers (.toggle key) := by
  refine ⟨g.row { Setting.flag key label was with current := .flag on } .toggle label on, ?_,
    rfl, rfl⟩
  unfold SettingGroup.rows
  rw [switch]
  cases on <;> exact List.mem_singleton.2 rfl

/-- A switch that is saved on every edit is switched back, which sends nothing, and forth again. -/
theorem canSend (switch : g.IsSwitch key label on was) (idle : g.phase = .idle)
    (here : g.profile.enableUrl = none) (saves : g.profile.savesOnEdit)
    (dirty : ¬ g.changes.isEmpty) : g.CanSend g.submission := by
  have back := switch.assign !on
  have clean : (g.assign key (.flag !on)).changes.isEmpty := by
    have changed : on ≠ was := fun same => dirty (switch.isEmpty_iff.2 same)
    exact back.isEmpty_iff.2 (Bool.not_eq.2 changed)
  have first : (Operation.toggle key).perform g = (g.assign key (.flag !on),
      .ok (.save (.unchanged (g.assign key (.flag !on)).successNotice))) := by
    show g.toggle key = _
    rw [switch.toggle idle here, afterEdit_of_savesOnEdit (g := g.assign key _) saves,
      beginSave_of_isEmpty (g := g.assign key _) idle clean]
    rfl
  have led : g.Leads ((Operation.toggle key).perform g).1 := .offered .here switch.offers_toggle
  rw [first] at led
  obtain ⟨g', outcome, begun, saved⟩ := beginSave_saved idle
  have second : (Operation.toggle key).perform (g.assign key (.flag !on)) =
      (g', .ok (.save outcome)) := by
    show SettingGroup.toggle (g.assign key (.flag !on)) key = _
    rw [back.toggle idle here, Bool.not_not, switch.assign_assign, afterEdit_of_savesOnEdit saves,
      begun]
    rfl
  exact .of_saved led back.offers_toggle second saved dirty

/-- A switch that is off and is switched on elsewhere only points there, on a tab without a save
key. -/
theorem perform_of_offers (switch : g.IsSwitch key label false was) (idle : g.phase = .idle)
    {url : String} (elsewhere : g.profile.enableUrl = some url)
    (keyless : g.id.tab.saveTarget? ≠ some g.id) (offered : g.Offers op) :
    op.perform g = (g, .ok (.redirect url)) := by
  cases op with
  | toggle k =>
    obtain ⟨row, member, name, -⟩ := offered
    obtain rfl : key = k := (switch.of_mem_rows member).1.symm.trans name
    have points := switch.toggle_elsewhere elsewhere
    rw [obstacle?_of_idle idle] at points
    exact points
  | select k value =>
    obtain ⟨row, member, -, action⟩ := offered
    cases (switch.of_mem_rows member).2.symm.trans action
  | editText k content =>
    obtain ⟨row, member, -, action⟩ := offered
    cases (switch.of_mem_rows member).2.symm.trans action
  | answerTerms accepted =>
    obtain ⟨k, asked⟩ := offered
    cases idle.symm.trans asked
  | beginSave => exact absurd offered keyless
  | resolveRemoval confirmed => cases idle.symm.trans offered

theorem not_canSend (switch : g.IsSwitch key label false was) (idle : g.phase = .idle)
    {url : String} (elsewhere : g.profile.enableUrl = some url)
    (keyless : g.id.tab.saveTarget? ≠ some g.id) (request : Submission) :
    ¬ g.CanSend request := by
  have points {op : Operation} (offered : g.Offers op) : op.perform g = (g, .ok (.redirect url)) :=
    switch.perform_of_offers idle elsewhere keyless offered
  have stays {h : SettingGroup} (led : g.Leads h) : h = g := by
    induction led with
    | here => rfl
    | offered led offered ih =>
      rw [ih] at offered ⊢
      rw [points offered]
  rintro ⟨h, op, led, offered, sent⟩
  rw [stays led] at offered sent
  rw [points offered] at sent
  cases sent

end IsSwitch

end SettingGroup

/-! ## The groups of the page -/

namespace SettingGroup

variable {p : Profile} {settings : List Setting} {log : List Entry} {g : SettingGroup}
  {service : Service} {scope : Scope}

/-- A group that was fetched is saved by key on its tab, is the wiki, or belongs to an account. -/
theorem IsBuilt.kinds (h : g.IsBuilt service scope) :
    g.id.tab.saveTarget? = some g.id ∨
      (∃ content : PageContent, g = content.wikiGroup service scope) ∨
      ∃ a, g = PageContent.accountGroup service scope a := by
  rcases h with ⟨content, member⟩ | ⟨choices, rfl⟩
  · rcases PageContent.created_of_mem_groups member with
      ⟨_, rfl⟩ | ⟨_, rfl⟩ | wiki | ⟨_, rfl⟩ | ⟨a, -, account⟩
    · exact .inl rfl
    · exact .inl rfl
    · exact .inr (.inl ⟨content, wiki⟩)
    · exact .inl rfl
    · exact .inr (.inr ⟨a, account⟩)
  · exact .inl rfl

theorem History.canSend_wiki (h : History p settings log g) {content : PageContent}
    (wiki : create p settings = content.wikiGroup service scope) (idle : g.phase = .idle)
    (dirty : ¬ g.changes.isEmpty) : g.CanSend g.submission := by
  have own : g.profile = _ := h.profile.trans (congrArg SettingGroup.profile wiki)
  obtain ⟨on, was, switch, -⟩ := h.isSwitch (wiki ▸ IsSwitch.wiki content service scope)
  refine switch.canSend idle ?_ ?_ dirty
  · rw [own]
    rfl
  · rw [own]
    rfl

theorem History.not_canSend_account (h : History p settings log g) {a : Account}
    (account : create p settings = PageContent.accountGroup service scope a)
    (idle : g.phase = .idle) (dirty : ¬ g.changes.isEmpty) (request : Submission) :
    ¬ g.CanSend request := by
  have own : g.profile = _ := h.profile.trans (congrArg SettingGroup.profile account)
  obtain ⟨on, was, switch, only⟩ := h.isSwitch (account ▸ IsSwitch.account service scope a)
  have elsewhere : g.profile.enableUrl = some (service.oauthUrl a.provider) := by
    rw [own]
    rfl
  -- It cannot be on, since then it would have been saved as on, and nothing would have changed.
  obtain rfl : on = false := by
    cases on with
    | false => rfl
    | true =>
      rcases only rfl with saved | here
      · exact absurd (switch.isEmpty_iff.2 saved.symm) dirty
      · cases elsewhere.symm.trans here
  refine switch.not_canSend idle elsewhere ?_ request
  unfold SettingGroup.id
  rw [own]
  nofun

/-- After a failed save the group is idle, its changes are there still, and they are what the
request carried. -/
theorem History.failed (h : History p settings log g) (orderly : Orderly log) {op : Operation}
    {request : Submission} (sent : (op.perform g).2 = .ok (.save (.submit request)))
    (later : List Operation) :
    let failed := (Operation.performAll later (op.perform g).1).fail.1
    (∃ log, History p settings log failed) ∧ failed.phase = .idle ∧ ¬ failed.changes.isEmpty ∧
      failed.submission = request := by
  intro failed
  have step := g.performed op
  rw [sent] at step
  obtain ⟨out, carried, -⟩ := step.of_submit
  have failed_eq : failed = (op.perform g).1.fail.1 := by
    show (Operation.performAll later (op.perform g).1).fail.1 = _
    rw [performAll_of_saving out]
  have built : History p settings _ (op.perform g).1 := .moved (.operate op) h
  have grounded := built.grounded (List.forall_mem_cons.2 ⟨rfl, orderly⟩)
  rw [failed_eq]
  exact ⟨⟨_, .moved .fail built⟩, rfl, grounded.unsaved (by rw [out]; nofun), carried.symm⟩

/-- After a failed save of a group of the page, what the console offers on its tab can send the same
request again, unless the group belongs to an account: then it can send no request at all. -/
theorem canSend_again (built : (create p settings).IsBuilt service scope)
    (h : History p settings log g) (orderly : Orderly log) {op : Operation} {request : Submission}
    (sent : (op.perform g).2 = .ok (.save (.submit request))) (later : List Operation) :
    let failed := (Operation.performAll later (op.perform g).1).fail.1
    (¬ p.id.isAccount → failed.CanSend request) ∧
      (p.id.isAccount → ∀ again, ¬ failed.CanSend again) := by
  intro failed
  obtain ⟨⟨log, h⟩, idle, dirty, rfl⟩ := h.failed orderly sent later
  have id : failed.id = p.id := congrArg Profile.id h.profile
  rcases built.kinds with saves | ⟨content, wiki⟩ | ⟨a, account⟩
  · have other : ¬ p.id.isAccount := (GroupId.tab_of_saveTarget? saves).2
    have saves : failed.id.tab.saveTarget? = some failed.id := id ▸ saves
    exact ⟨fun _ => canSend_by_key idle dirty saves, fun it => absurd it other⟩
  · have other : ¬ p.id.isAccount := by
      rw [show p.id = .wiki from congrArg SettingGroup.id wiki]
      nofun
    exact ⟨fun _ => h.canSend_wiki wiki idle dirty, fun it => absurd it other⟩
  · have it : p.id.isAccount := by
      rw [show p.id = .account a.provider from congrArg SettingGroup.id account]
      rfl
    exact ⟨fun other => absurd it other, fun _ => h.not_canSend_account account idle dirty⟩

/-- The wiki is switched off, which is confirmed and fails. -/
theorem canSend_again_wiki :
    let service := Session.smallService
    let scope := Session.smallScope
    let content := { Session.smallPage with wikiEnabled := true }
    let p := Profile.wiki (service.nodeApi scope.node) scope.support
    let settings := [Setting.flag "wiki" "Wiki" true]
    let (log, asking) := played p settings [.operate (.toggle "wiki")]
    let sent := (Operation.perform (.resolveRemoval true) asking).1
    create p settings ∈ content.groups service scope ∧ Orderly log ∧ ¬ p.id.isAccount ∧
      sent.fail.1.CanSend sent.submission := by
  intro service scope content p settings
  have listed : create p settings ∈ content.groups service scope :=
    List.mem_append_left _ (List.mem_append_left _ (List.mem_append_right _ (.tail _ (.head _))))
  have orderly : Orderly (played p settings [.operate (.toggle "wiki")]).1 := by decide
  have sent : (Operation.perform (.resolveRemoval true)
    (played p settings [.operate (.toggle "wiki")]).2).2 = .ok (.save (.submit _)) := rfl
  have again := canSend_again (.inl ⟨content, listed⟩) (history_played p settings _) orderly sent []
  exact ⟨listed, orderly, nofun, again.1 nofun⟩

/-- The removal of an account is confirmed and fails; nothing that is offered then sends it again,
or anything else. -/
theorem not_canSend_again_github :
    let service := Session.smallService
    let scope := Session.smallScope
    let content := { Session.smallPage with accounts := [⟨"github", "GitHub", true⟩] }
    let p := Profile.account (service.oauthUrl "github") "github" "GitHub" scope.support
    let settings := [Setting.flag "connected" "GitHub" true]
    let (log, failed) := played p settings
      [.fail, .operate (.resolveRemoval true), .operate (.toggle "connected")]
    create p settings ∈ content.groups service scope ∧ Orderly log ∧
      log.findSome? Entry.request? = some failed.submission ∧ ∀ again, ¬ failed.CanSend again := by
  intro service scope content p settings
  have listed : create p settings ∈ content.groups service scope :=
    List.mem_append_right _ (.head _)
  have off : (played p settings [.fail, .operate (.resolveRemoval true),
    .operate (.toggle "connected")]).2.IsSwitch "connected" "GitHub" false true := rfl
  exact ⟨listed, by decide, by decide, off.not_canSend rfl rfl nofun⟩

end SettingGroup

end SettingsConsole
