import SettingsConsole.Proofs.Group.Baseline
import SettingsConsole.Proofs.Group.SaveCycle
import SettingsConsole.Proofs.Page.AddonsAndWiki

/-!
# What is said about a save

The notice and the alert about a save are put into words when its outcome comes in, from the values
that are shown then.  They speak of the values that were sent all the same: while the request is out
every edit is refused, and taking the shown values as saved changes none of them
(`SettingGroup.applyAll_of_saving`).  So the notice about the wiki names the flag that was sent, and
the alert about the institution tells setting it from clearing it
(`texts_speak_of_what_was_sent`).
-/

namespace SettingsConsole

namespace SettingGroup

variable {g g' built : SettingGroup} {op : Operation} {moves : List Move}

/-! ## While a request is out -/

theorem captureBaseline_captureBaseline (g : SettingGroup) :
    g.captureBaseline.captureBaseline = g.captureBaseline := by
  unfold captureBaseline
  rw [List.map_map]
  rfl

/-- Until the outcome of a request comes in, a group stays as it is, apart from what counts as
saved. -/
theorem applyAll_of_saving (out : g.phase = .saving) (unsettled : ∀ m ∈ moves, ¬ m.settles) :
    g.applyAll moves = g ∨ g.applyAll moves = g.captureBaseline := by
  induction moves generalizing g with
  | nil => exact .inl rfl
  | cons m moves ih =>
    obtain ⟨first, later⟩ := List.forall_mem_cons.1 unsettled
    have steps : g.applyAll (m :: moves) = (m.apply g).applyAll moves := rfl
    rw [steps]
    cases m with
    | operate op =>
      have same : Move.apply g (.operate op) = g := ((g.performed op).of_saving out).1
      rw [same]
      exact ih out later
    | capture =>
      have captured := ih (g := g.captureBaseline) out later
      rw [captureBaseline_captureBaseline, or_self] at captured
      exact .inr captured
    | succeed | fail => exact absurd rfl first

theorem successText_acknowledged (p : Profile) (settings : List Setting) :
    p.successText (settings.map Setting.acknowledged) = p.successText settings := by
  unfold Profile.successText
  cases p.notice with
  | silent | text => rfl
  | byFlag key enabled disabled =>
    dsimp only
    rw [find?_acknowledged, Option.map_map]
    rfl

theorem failureText_acknowledged (p : Profile) (settings : List Setting) :
    p.failureText (settings.map Setting.acknowledged) = p.failureText settings := by
  unfold Profile.failureText
  cases p.failure with
  | text => rfl
  | byChoice key set cleared =>
    dsimp only
    rw [find?_acknowledged, Option.bind_map]
    rfl

/-- What is said about the outcome of a request is what would have been said as it was handed
out. -/
theorem texts_of_saving (out : g.phase = .saving) (unsettled : ∀ m ∈ moves, ¬ m.settles) :
    (g.applyAll moves).successNotice = g.successNotice ∧
      (g.applyAll moves).failureAlert = g.failureAlert := by
  have captured : g.captureBaseline.successNotice = g.successNotice ∧
      g.captureBaseline.failureAlert = g.failureAlert := by
    refine ⟨?_, ?_⟩
    · unfold successNotice
      rw [← successText_acknowledged g.profile g.settings]
      rfl
    · unfold failureAlert
      rw [← failureText_acknowledged g.profile g.settings]
      rfl
  rcases applyAll_of_saving out unsettled with same | taken
  · rw [same]
    exact ⟨rfl, rfl⟩
  · rw [taken]
    exact captured

theorem CameOf.perform (h : g.CameOf built) (op : Operation) : (op.perform g).1.CameOf built := by
  obtain ⟨p, settings, log, made, history⟩ := h
  exact ⟨p, settings, _, made, .moved (.operate op) history⟩

/-- The notice of a save with nothing to send is about the values that are shown. -/
theorem Performed.of_unchanged {notice : Option Notice}
    (h : Performed g op g' (.ok (.save (.unchanged notice)))) :
    g'.changes.isEmpty ∧ notice = g'.successNotice := by
  cases h with
  | saved _ _ save =>
    cases save with
    | unchanged clean => exact ⟨clean, rfl⟩

end SettingGroup

/-! ## The wiki -/

namespace PageContent

open SettingGroup

variable {content : PageContent} {service : Service} {scope : Scope} {g : SettingGroup}

/-- The notice about the wiki names the flag that is shown. -/
theorem text_successNotice_wiki (h : g.CameOf (content.wikiGroup service scope)) {label : String}
    {on was : Bool} (switch : g.IsSwitch Profile.wikiKey label on was) :
    g.successNotice.map Notice.text = some (if on then "Wiki Enabled" else "Wiki Disabled") := by
  have own : g.profile = .wiki (service.nodeApi scope.node) scope.support := h.profile
  unfold successNotice
  rw [switch, own]
  cases on <;> rfl

/-- The notice about a flag that was sent names that flag. -/
theorem text_of_sent {op : Operation} {request : Submission} {later : List Move}
    (h : g.CameOf (content.wikiGroup service scope))
    (sent : (op.perform g).2 = .ok (.save (.submit request)))
    (unsettled : ∀ m ∈ later, ¬ m.settles) :
    ∃ on, request.payload = some (.object [(Profile.wikiKey, .bool on)]) ∧
      ((op.perform g).1.applyAll later).succeed.2.notice.map Notice.text =
        some (if on then "Wiki Enabled" else "Wiki Disabled") := by
  have step := g.performed op
  rw [sent] at step
  obtain ⟨out, carried, -⟩ := step.of_submit
  have built := h.perform op
  obtain ⟨on, was, switch⟩ := built.isSwitch (IsSwitch.wiki content service scope)
  refine ⟨on, ?_, ?_⟩
  · have own : (op.perform g).1.profile = .wiki (service.nodeApi scope.node) scope.support :=
      built.profile
    rw [carried]
    unfold submission
    rw [switch, own]
    rfl
  · show ((op.perform g).1.applyAll later).successNotice.map Notice.text = _
    rw [(texts_of_saving out unsettled).1]
    exact text_successNotice_wiki built switch

/-- The notice of a save with nothing to send names the flag that is saved. -/
theorem text_of_unchanged {op : Operation} {notice : Option Notice}
    (h : g.CameOf (content.wikiGroup service scope))
    (unchanged : (op.perform g).2 = .ok (.save (.unchanged notice))) :
    ∃ on, g.savedValues = [(Profile.wikiKey, .flag on)] ∧
      notice.map Notice.text = some (if on then "Wiki Enabled" else "Wiki Disabled") := by
  have step := g.performed op
  rw [unchanged] at step
  obtain ⟨clean, its⟩ := step.of_unchanged
  have built := h.perform op
  obtain ⟨on, was, switch⟩ := built.isSwitch (IsSwitch.wiki content service scope)
  obtain rfl := switch.isEmpty_iff.1 clean
  refine ⟨on, ?_, ?_⟩
  · rw [← g.savedValues_perform op]
    unfold savedValues
    rw [switch]
    rfl
  · rw [its]
    exact text_successNotice_wiki built switch

end PageContent

/-! ## The institution -/

theorem Alert.requestFailed_inj {message message' support : String}
    (same : requestFailed message support = requestFailed message' support) :
    message = message' := by
  have texts := congrArg (·.message.toList) same
  simp only [requestFailed, String.toList_append] at texts
  exact String.toList_inj.1 (List.append_cancel_right
    (List.append_cancel_right (List.append_cancel_right texts)))

namespace InstitutionChoices

open SettingGroup

variable {choices : InstitutionChoices} {service : Service} {scope : Scope} {g : SettingGroup}

/-- The alert about the institution as it would be set, and as it would be cleared. -/
theorem failureAlert_institution (h : g.CameOf (choices.group service scope)) :
    ∃ data, g.submission.payload = some (.object [("data", data)]) ∧
      (data ≠ .null ∧ g.failureAlert =
          .requestFailed "Unable to add institution to this node!" scope.support ∨
        data = .null ∧ g.failureAlert =
          .requestFailed "Unable to remove institution from this node!" scope.support) := by
  have own : g.profile = .institution service.v2 scope.node scope.support := h.profile
  unfold submission failureAlert
  rw [own]
  -- The body and the text look at the same setting, and fork on whether it selects something.
  simp only [Profile.buildPayload, Profile.failureText, Profile.institution]
  cases (Setting.find? g.settings Profile.institutionKey).bind (·.current.selected?) with
  | none => exact ⟨.null, rfl, .inr ⟨rfl, rfl⟩⟩
  | some chosen => exact ⟨_, rfl, .inl ⟨Json.ofFields_ne_null _, rfl⟩⟩

/-- The alert about an institution that was sent says whether it was to be set or cleared. -/
theorem alert_of_sent {op : Operation} {request : Submission} {later : List Move}
    (h : g.CameOf (choices.group service scope))
    (sent : (op.perform g).2 = .ok (.save (.submit request)))
    (unsettled : ∀ m ∈ later, ¬ m.settles) :
    ∃ data, request.payload = some (.object [("data", data)]) ∧
      (((op.perform g).1.applyAll later).fail.2 =
        .requestFailed "Unable to add institution to this node!" scope.support ↔ data ≠ .null) ∧
      (((op.perform g).1.applyAll later).fail.2 =
        .requestFailed "Unable to remove institution from this node!" scope.support ↔
          data = .null) := by
  have step := g.performed op
  rw [sent] at step
  obtain ⟨out, carried, -⟩ := step.of_submit
  have apart : Alert.requestFailed "Unable to add institution to this node!" scope.support ≠
      .requestFailed "Unable to remove institution from this node!" scope.support :=
    fun same => absurd (Alert.requestFailed_inj same) (by decide)
  have said : ((op.perform g).1.applyAll later).fail.2 = (op.perform g).1.failureAlert :=
    (texts_of_saving out unsettled).2
  obtain ⟨data, held, words⟩ := failureAlert_institution (h.perform op)
  refine ⟨data, carried ▸ held, ?_⟩
  rw [said]
  rcases words with ⟨set, words⟩ | ⟨cleared, words⟩
  · rw [words]
    exact ⟨iff_of_true rfl set, iff_of_false apart set⟩
  · rw [words]
    exact ⟨iff_of_false apart.symm (not_not_intro cleared), iff_of_true rfl cleared⟩

end InstitutionChoices

open SettingGroup in
/-- Whatever happened to the wiki and to the institution before, and whatever is tried between a
request and its outcome, the notice about the wiki names the flag that was sent, and the alert about
the institution speaks of setting it exactly if an institution was sent.  If there is nothing to
send, the notice about the wiki names the flag that is saved. -/
theorem texts_speak_of_what_was_sent (content : PageContent) (choices : InstitutionChoices)
    (service : Service) (scope : Scope) {g : SettingGroup} {op : Operation} :
    (g.CameOf (content.wikiGroup service scope) →
      (∀ request later, (op.perform g).2 = .ok (.save (.submit request)) →
        (∀ m ∈ later, ¬ m.settles) →
        ∃ on, request.payload = some (.object [(Profile.wikiKey, .bool on)]) ∧
          ((op.perform g).1.applyAll later).succeed.2.notice.map Notice.text =
            some (if on then "Wiki Enabled" else "Wiki Disabled")) ∧
      ∀ notice, (op.perform g).2 = .ok (.save (.unchanged notice)) →
        ∃ on, g.savedValues = [(Profile.wikiKey, .flag on)] ∧
          notice.map Notice.text = some (if on then "Wiki Enabled" else "Wiki Disabled")) ∧
    (g.CameOf (choices.group service scope) →
      ∀ request later, (op.perform g).2 = .ok (.save (.submit request)) →
        (∀ m ∈ later, ¬ m.settles) →
        ∃ data, request.payload = some (.object [("data", data)]) ∧
          (((op.perform g).1.applyAll later).fail.2 =
            .requestFailed "Unable to add institution to this node!" scope.support ↔
              data ≠ .null) ∧
          (((op.perform g).1.applyAll later).fail.2 =
            .requestFailed "Unable to remove institution from this node!" scope.support ↔
              data = .null)) :=
  ⟨fun wiki => ⟨fun _ _ sent unsettled => PageContent.text_of_sent wiki sent unsettled,
      fun _ unchanged => PageContent.text_of_unchanged wiki unchanged⟩,
    fun institution _ _ sent unsettled =>
      InstitutionChoices.alert_of_sent institution sent unsettled⟩

open SettingGroup in
/-- The wiki is removed and the institution cleared, and while both requests are out the other value
is tried and what is shown counts as saved: the texts are about what was sent. -/
theorem texts_speak_of_what_was_sent_wiki_removed :
    let service := Session.smallService
    let scope := Session.smallScope
    let content := { Session.smallPage with wikiEnabled := true }
    let choices : InstitutionChoices := ⟨[⟨"inst1", "Synth", none⟩], some ⟨"inst1", "Synth", none⟩⟩
    let kept := content.wikiGroup service scope
    let wiki := (played (.wiki (service.nodeApi "abc12") "support@osf.io")
      [.flag "wiki" "Wiki" true] [.operate (.toggle "wiki")]).2
    let institution := (played (.institution service.v2 "abc12" "support@osf.io")
      [.choice "primaryInst" "Primary institution" choices.options (some "inst1") true]
      [.operate (.select "primaryInst" none)]).2
    let removed := (Operation.resolveRemoval true).perform wiki
    let cleared := Operation.beginSave.perform institution
    let sentWiki := Submission.mk .wiki .post
      "https://osf.example/api/v1/project/abc12/settings/addons/"
      (some (.object [("wiki", .bool false)]))
    let sentInstitution := Submission.mk .institution .put
      "https://api.osf.example/v2/nodes/abc12/relationships/institution/"
      (some (.object [("data", .null)]))
    let toWiki : List Move :=
      [.operate (.toggle "wiki"), .capture, .operate (.resolveRemoval false)]
    let toInstitution : List Move :=
      [.operate (.select "primaryInst" (some "inst1")), .capture, .operate .beginSave]
    (∃ notice, (Operation.beginSave.perform kept).2 = .ok (.save (.unchanged notice)) ∧
      notice.map Notice.text = some "Wiki Enabled") ∧
    removed.2 = .ok (.save (.submit sentWiki)) ∧
    (removed.1.applyAll toWiki).succeed.2.notice.map Notice.text = some "Wiki Disabled" ∧
    cleared.2 = .ok (.save (.submit sentInstitution)) ∧
    (cleared.1.applyAll toInstitution).fail.2 =
      .requestFailed "Unable to remove institution from this node!" "support@osf.io" := by
  intro service scope content choices kept wiki institution removed cleared sentWiki sentInstitution
    toWiki toInstitution
  have ofKept : kept.CameOf (content.wikiGroup service scope) := ⟨_, _, _, rfl, .created⟩
  have ofWiki : wiki.CameOf (content.wikiGroup service scope) :=
    ⟨_, _, _, by decide, history_played _ _ _⟩
  have ofInstitution : institution.CameOf (choices.group service scope) :=
    ⟨_, _, _, by decide, history_played _ _ _⟩
  have wikiSent : removed.2 = .ok (.save (.submit sentWiki)) := by decide
  have institutionSent : cleared.2 = .ok (.save (.submit sentInstitution)) := by decide
  have unchanged : (Operation.beginSave.perform kept).2 =
      .ok (.save (.unchanged kept.successNotice)) := by decide
  refine ⟨⟨_, unchanged, ?_⟩, wikiSent, ?_, institutionSent, ?_⟩
  · obtain ⟨on, saved, text⟩ :=
      ((texts_speak_of_what_was_sent content choices service scope).1 ofKept).2 _ unchanged
    cases saved
    exact text
  · obtain ⟨on, carried, text⟩ := ((texts_speak_of_what_was_sent content choices service scope).1
      ofWiki).1 sentWiki toWiki wikiSent (by decide)
    cases carried
    exact text
  · obtain ⟨data, carried, -, removal⟩ := (texts_speak_of_what_was_sent content choices service
      scope).2 ofInstitution sentInstitution toInstitution institutionSent (by decide)
    cases carried
    exact removal.2 rfl

end SettingsConsole
