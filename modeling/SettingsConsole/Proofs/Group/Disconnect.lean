import SettingsConsole.Proofs.Console.Session
import SettingsConsole.Proofs.Group.Removal
import SettingsConsole.Proofs.Group.SaveCycle
import SettingsConsole.Proofs.Group.Switch

/-!
# Accounts are deleted only on a confirmed disconnect

The group of an account sends the same request whatever its flag says, so what the request means
rests on when it is sent.  The flag can only be switched on elsewhere, hence it is on only if that
is saved, and whatever is unsaved is a disconnect, which is asked about.  A group that waits for the
answer is off (`History.off_of_confirming`).
-/

namespace SettingsConsole

namespace SettingGroup

variable {p : Profile} {settings : List Setting} {log : List Entry} {g g' : SettingGroup}
  {op : Operation} {request : Submission} {key label : String} {on was : Bool}
  {content : PageContent} {service : Service} {scope : Scope} {a : Account}

/-- While a switch is asked about it is off, and saved as on if nobody has taken the values as saved
by hand meanwhile. -/
theorem History.off_of_confirming (h : History p settings log g)
    (created : (create p settings).IsSwitch key label was was) (waits : g.phase = .confirming) :
    ∃ was, g.IsSwitch key label false was ∧
      (was = true ∨ ∃ e ∈ log, e.move = .capture ∧ e.before.phase = .confirming) := by
  induction h with
  | created => cases waits
  | @moved log g m h ih =>
    have still {was : Bool}
        (before : was = true ∨ ∃ e ∈ log, e.move = .capture ∧ e.before.phase = .confirming) :
        was = true ∨ ∃ e ∈ (⟨g, m⟩ :: log : List Entry),
          e.move = .capture ∧ e.before.phase = .confirming := by
      rcases before with saved | ⟨e, older, captured⟩
      · exact .inl saved
      · exact .inr ⟨e, List.mem_cons_of_mem _ older, captured⟩
    cases m with
    | operate op =>
      rcases (g.performed op).of_confirming waits with ⟨asks, -⟩ | ⟨same, -⟩
      · obtain ⟨on, was, switch, -⟩ := (History.moved (.operate op) h).isSwitch created
        obtain ⟨rfl, rfl⟩ := switch.turnedOff_iff.1 (asksRemoval_iff.1 asks).2
        exact ⟨true, switch, .inl rfl⟩
      · have same : Move.apply g (.operate op) = g := same
        rw [same] at waits ⊢
        obtain ⟨was, switch, before⟩ := ih waits
        exact ⟨was, switch, still before⟩
    | succeed => cases waits
    | fail => cases waits
    | capture =>
      obtain ⟨was, switch, -⟩ := ih waits
      exact ⟨false, switch.captureBaseline, .inr ⟨_, List.mem_cons_self, rfl, waits⟩⟩

/-- A switch that is never on without being saved so, and whose removal is asked about, sends
nothing but on the answer yes. -/
theorem IsSwitch.confirmed_of_submit
    (h : Performed g op g' (.ok (.save (.submit request))))
    (switch : g'.IsSwitch key label on was) (only : on = true → was = true)
    (confirms : g.profile.confirmsRemoval) :
    op = .resolveRemoval true ∧ g.phase = .confirming := by
  cases h with
  | saved edit _ save =>
    cases save with
    | sent dirty unasked =>
      have changed : on ≠ was := fun same => dirty (switch.isEmpty_iff.2 same)
      have off : on = false := by
        cases on with
        | false => rfl
        | true => exact absurd (only rfl).symm changed
      have saved : was = true := by simpa [off] using changed.symm
      have removes := switch.turnedOff_iff.2 ⟨off, saved⟩
      exact absurd (asksRemoval_iff.2 ⟨edit.profile ▸ confirms, removes⟩) unasked
  | confirmed waits => exact ⟨rfl, waits⟩

theorem History.profile_of_account (h : History p settings log g)
    (account : PageContent.accountGroup service scope a = create p settings) :
    g.profile = .account (service.oauthUrl a.provider) a.provider a.label scope.support :=
  h.profile.trans (congrArg SettingGroup.profile account.symm)

/-- A request of an account's group is the deletion of the account, on the answer yes to the
question about its disconnect. -/
theorem History.deletion (h : History p settings log g)
    (account : PageContent.accountGroup service scope a = create p settings)
    (switch : g.IsSwitch Profile.connectedKey a.label on was)
    (sent : (op.perform g).2 = .ok (.save (.submit request))) :
    op = .resolveRemoval true ∧
      request = ⟨.account a.provider, .delete, service.oauthUrl a.provider, none⟩ ∧
      on = false ∧ (was = true ∨ ∃ e ∈ log, e.move = .capture ∧ e.before.phase = .confirming) := by
  have own := h.profile_of_account account
  have created : (create p settings).IsSwitch Profile.connectedKey a.label a.connected
      a.connected := account ▸ IsSwitch.account service scope a
  have step := g.performed op
  rw [sent] at step
  obtain ⟨on', was', switch', only⟩ := (History.moved (.operate op) h).isSwitch created
  have only : on' = true → was' = true := by
    intro lit
    rcases only lit with saved | here
    · exact saved
    · rw [profile_apply, own] at here
      cases here
  have confirms : g.profile.confirmsRemoval := by
    rw [own]
    rfl
  obtain ⟨answered, waits⟩ := switch'.confirmed_of_submit step only confirms
  obtain ⟨saved, asked, before⟩ := h.off_of_confirming created waits
  obtain ⟨rfl, rfl⟩ := switch.unique asked
  refine ⟨answered, ?_, rfl, before⟩
  obtain ⟨-, carried, -⟩ := step.of_submit
  rw [carried]
  unfold submission SettingGroup.id
  rw [step.profile, own]
  rfl

/-- Whatever happened to the group of an account, a request that it hands out is the deletion of the
account, without a body; it is handed out by the answer yes, when the flag is off, and saved as on
unless somebody has taken it as saved by hand while the question was open.  To toggle a flag that is
off leads to the browser, or is refused while the group waits for something, and changes nothing
either way. -/
theorem deleted_only_on_confirmed_disconnect
    (built : create p settings ∈ content.accountGroups service scope)
    (h : History p settings log g) :
    ∃ a ∈ content.accounts, ∃ s, g.settings = [s] ∧ s.key = Profile.connectedKey ∧
      (∀ {op : Operation} {request : Submission},
        (op.perform g).2 = .ok (.save (.submit request)) →
        op = .resolveRemoval true ∧
        request = ⟨.account a.provider, .delete, service.oauthUrl a.provider, none⟩ ∧
        s.current = .flag false ∧
        (s.saved = .flag true ∨ ∃ e ∈ log, e.move = .capture ∧ e.before.phase = .confirming)) ∧
      (s.current = .flag false →
        (Operation.toggle Profile.connectedKey).perform g = (g, match g.obstacle? with
          | none => .ok (.redirect (service.oauthUrl a.provider))
          | some r => .error r)) := by
  obtain ⟨a, listed, account⟩ := List.mem_map.1 built
  obtain ⟨on, was, switch, -⟩ := h.isSwitch (account ▸ IsSwitch.account service scope a)
  refine ⟨a, listed, _, switch, rfl, fun sent => ?_, fun off => ?_⟩
  · obtain ⟨answered, deletion, off, before⟩ := h.deletion account switch sent
    have saved : was = true → Setting.Value.flag was = .flag true := congrArg _
    exact ⟨answered, deletion, congrArg _ off, before.imp_left saved⟩
  · obtain rfl : on = false := by simpa using off
    have elsewhere : g.profile.enableUrl = some (service.oauthUrl a.provider) := by
      rw [h.profile_of_account account]
      rfl
    exact switch.toggle_elsewhere elsewhere

/-- A disconnect is declined and asked about again; the answer yes sends the deletion. -/
theorem deleted_only_on_confirmed_disconnect_github :
    let service := Session.smallService
    let scope := Session.smallScope
    let content := { Session.smallPage with
      accounts := [⟨"figshare", "figshare", false⟩, ⟨"github", "GitHub", true⟩] }
    let p := Profile.account (service.oauthUrl "github") "github" "GitHub" scope.support
    let settings := [Setting.flag "connected" "GitHub" true]
    let asking := played p settings [.operate (.toggle "connected"),
      .operate (.resolveRemoval false), .operate (.toggle "connected")]
    create p settings ∈ content.accountGroups service scope ∧
      ∃ a ∈ content.accounts, ∃ s, asking.2.settings = [s] ∧ s.current = .flag false ∧
        s.saved = .flag true ∧
        (Operation.perform (.resolveRemoval true) asking.2).2 = .ok (.save (.submit
          ⟨.account a.provider, .delete, service.oauthUrl a.provider, none⟩)) := by
  intro service scope content p settings asking
  have built : create p settings ∈ content.accountGroups service scope := .tail _ (.head _)
  have sent : (Operation.perform (.resolveRemoval true) asking.2).2 =
      .ok (.save (.submit (Operation.perform (.resolveRemoval true) asking.2).1.submission)) := by
    decide
  obtain ⟨a, listed, s, one, -, sends, -⟩ :=
    deleted_only_on_confirmed_disconnect built (history_played p settings _)
  obtain ⟨-, deletion, off, saved | captured⟩ := sends sent
  · exact ⟨built, a, listed, s, one, off, saved, deletion ▸ sent⟩
  · exact absurd captured (by decide)

/-- While the disconnect is asked about the flag is off, and to toggle it leads nowhere; and what is
taken as saved by hand meanwhile is not the connection. -/
theorem not_redirected_while_disconnecting :
    let service := Session.smallService
    let scope := Session.smallScope
    let content := { Session.smallPage with accounts := [⟨"github", "GitHub", true⟩] }
    let p := Profile.account (service.oauthUrl "github") "github" "GitHub" scope.support
    let settings := [Setting.flag "connected" "GitHub" true]
    let (log, asking) := played p settings [.operate (.toggle "connected")]
    let captured := asking.captureBaseline
    create p settings ∈ content.accountGroups service scope ∧ Orderly log ∧
      asking.settings.map Setting.current = [.flag false] ∧
      (Operation.toggle "connected").perform asking = (asking, .error .promptOpen) ∧
      captured.settings.map Setting.saved = [.flag false] ∧
      (Operation.perform (.resolveRemoval true) captured).2 =
        .ok (.save (.submit captured.submission)) := by
  intro service scope content p settings
  have built : create p settings ∈ content.accountGroups service scope := .head _
  exact ⟨built, by decide, by decide, by decide, by decide, by decide⟩

end SettingGroup

end SettingsConsole
