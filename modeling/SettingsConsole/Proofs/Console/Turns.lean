import SettingsConsole.Proofs.Console.Prompts
import SettingsConsole.Proofs.Console.Reload
import SettingsConsole.Proofs.Console.Rows
import SettingsConsole.Proofs.Group.Validity

/-!
# What happens to a console

A console is drawn and events reach it, in any order (`Console.Turns`).  Drawing moves the selection
and nothing else; how it does is up to the library that draws (`Console.Redraw`).  So whatever
events keep of the groups and the dialogs holds here too.  Apart from their values, the groups other
than the institution are those of one content of the page, the latest that arrived since a reload
started (`Console.Turns.map_plan`).  If its add-ons and accounts have names of their own, a group is
found by its name and a setting of it by its key.
-/

namespace SettingsConsole

/-- No two add-ons have the same name, and no two accounts the same provider. -/
structure PageContent.HasDistinctNames (content : PageContent) : Prop where
  addons : (content.addons.map Addon.name).Nodup
  accounts : (content.accounts.map Account.provider).Nodup

namespace Console

/-- What can happen to a console: it is drawn, or an event reaches it. -/
inductive Turn where
  | drawn (width height : Nat)
  | handled (event : Event) (now : Moment)

/-- What drawing a console on a screen of some width and height makes of its selection. -/
abbrev Redraw := Console → Nat → Nat → Selection

/-- Drawing selects no other row, if there is one in the place of the selected row. -/
def Redraw.Keeps (redraw : Redraw) : Prop :=
  ∀ (c : Console) (width height : Nat), (∀ i ∈ c.selection.selected, i < c.rows.length) →
    (redraw c width height).selected = c.selection.selected

/-- Drawing leaves the selection as it is. -/
def Redraw.still : Redraw := fun c _ _ => c.selection

theorem Redraw.keeps_still : still.Keeps := fun _ _ _ _ => rfl

/-- The console after a turn. -/
def Turn.apply (redraw : Redraw) (c : Console) : Turn → Console
  | .drawn width height => { c with selection := redraw c width height }
  | .handled event now => (c.handle event now).1

/-- What happened to a console, the latest first, each turn with the console that it met, and what
the console became. -/
inductive Turns (redraw : Redraw) (first : Console) : List (Console × Turn) → Console → Prop
  | opened : Turns redraw first [] first
  | taken {log c} (t : Turn) : Turns redraw first log c →
      Turns redraw first ((c, t) :: log) (t.apply redraw c)

/-- The content that the groups of the page were built from: the latest that arrived, if no reload
started since. -/
def loadedContent? : List (Console × Turn) → Option PageContent
  | [] => none
  | (_, .drawn _ _) :: earlier => loadedContent? earlier
  | (c, .handled e now) :: earlier =>
    if .load ∈ (c.handle e now).2 then none
    else match e with
      | .pageFetched (.ok content) => some content
      | _ => loadedContent? earlier

variable {redraw : Redraw} {first c : Console} {log : List (Console × Turn)} {e : Event}

/-! ## Invariants -/

/-- What holds first, whatever is selected, and is kept by every event holds after every turn. -/
theorem Turns.invariant (h : Turns redraw first log c) (I : Console → Prop) (initially : I first)
    (drawn : ∀ c selection, I c → I { c with selection })
    (handled : ∀ c e now, I c → I (c.handle e now).1) : I c := by
  induction h with
  | opened => exact initially
  | taken t _ ih =>
    cases t with
    | drawn width height => exact drawn _ _ ih
    | handled e now => exact handled _ e now ih

theorem Turns.lived (h : Turns redraw first log c) (unloaded : first.groups = []) :
    c.service = first.service ∧ c.scope = first.scope ∧
      ∀ g ∈ c.groups, g.Lived first.service first.scope := by
  refine h.invariant (fun c => c.service = first.service ∧ c.scope = first.scope ∧
    ∀ g ∈ c.groups, g.Lived first.service first.scope) ?_ (fun _ _ same => same) ?_
  · rw [unloaded]
    exact ⟨rfl, rfl, List.forall_mem_nil _⟩
  · rintro c e now ⟨service, scope, lived⟩
    have step := c.handled e now
    refine ⟨step.service.trans service, step.scope.trans scope, fun g member => ?_⟩
    rw [← service, ← scope] at lived ⊢
    exact (step.regrouped.origin member).lived lived

/-- Questions and phases are in step. -/
theorem Turns.inStep (h : Turns redraw first log c) (unloaded : first.groups = [])
    (free : first.dialogs = []) : InStep c.groups c.dialogs := by
  induction h with
  | opened =>
    rw [unloaded, free]
    exact .of_quiet (List.forall_mem_nil _) (List.forall_mem_nil _)
  | @taken log c t earlier ih =>
    cases t with
    | drawn => exact ih
    | handled e now =>
      obtain ⟨-, -, lived⟩ := earlier.lived unloaded
      exact (c.handled e now).inStep ih (fun g listed => (lived g listed).hasPlainFlags)
        (fun g listed => (lived g listed).not_savesOnEdit)

theorem Turns.count_institution (h : Turns redraw first log c) (unloaded : first.groups = []) :
    c.loaded.count .institution ≤ 1 := by
  refine h.invariant (fun c => c.loaded.count .institution ≤ 1) ?_ (fun _ _ same => same)
    fun c e now once => (c.handle_groups e now).count_institution once
  unfold loaded
  rw [unloaded]
  exact Nat.zero_le 1

/-! ## The content that the groups come from -/

theorem filter_map_plan_pageInstalled (c : Console) (content : PageContent) :
    ((content.groups c.service c.scope ++ (c.group? .institution).toList).map
      SettingGroup.plan).filter (·.1 ≠ .institution) =
        (content.groups c.service c.scope).map SettingGroup.plan := by
  have built : ((content.groups c.service c.scope).map SettingGroup.plan).filter
      (·.1 ≠ .institution) = (content.groups c.service c.scope).map SettingGroup.plan := by
    refine List.filter_eq_self.2 fun p listed => ?_
    obtain ⟨g, member, rfl⟩ := List.mem_map.1 listed
    exact decide_eq_true (ne_institution_of_mem_groups member)
  rw [List.map_append, List.filter_append, built]
  cases found : c.group? .institution with
  | none => exact List.append_nil _
  | some g => simp [SettingGroup.plan, id_of_group? found]

theorem filter_map_plan_removeGroup (groups : List SettingGroup) :
    ((removeGroup .institution groups).map SettingGroup.plan).filter (·.1 ≠ .institution) =
      (groups.map SettingGroup.plan).filter (·.1 ≠ .institution) := by
  induction groups with
  | nil => rfl
  | cons g rest ih =>
    unfold removeGroup
    by_cases it : g.id = .institution
    · rw [if_pos it, List.map_cons, List.filter_cons_of_neg (by simp [SettingGroup.plan, it])]
    · rw [if_neg it, List.map_cons, List.map_cons,
        List.filter_cons_of_pos (by simp [SettingGroup.plan, it]),
        List.filter_cons_of_pos (by simp [SettingGroup.plan, it]), ih]

theorem filter_map_plan_institutionsInstalled (c : Console) (choices : InstitutionChoices) :
    ((removeGroup .institution c.groups ++ [choices.group c.service c.scope]).map
      SettingGroup.plan).filter (·.1 ≠ .institution) =
        (c.groups.map SettingGroup.plan).filter (·.1 ≠ .institution) := by
  rw [List.map_append, List.filter_append, filter_map_plan_removeGroup]
  simp [SettingGroup.plan]

/-- Apart from their values, the groups other than the institution are those of the loaded
content. -/
theorem Turns.map_plan (h : Turns redraw first log c) (unloaded : first.groups = []) :
    (c.groups.map SettingGroup.plan).filter (·.1 ≠ .institution) =
      ((loadedContent? log).elim [] (·.groups first.service first.scope)).map
        SettingGroup.plan := by
  induction h with
  | opened =>
    rw [unloaded]
    rfl
  | @taken log c t earlier ih =>
    obtain ⟨service, scope, -⟩ := earlier.lived unloaded
    cases t with
    | drawn => exact ih
    | handled e now =>
      show ((c.handle e now).1.groups.map SettingGroup.plan).filter _ = _
      unfold loadedContent?
      by_cases loads : .load ∈ (c.handle e now).2
      · rw [if_pos loads, ((c.handle_groups e now).not_isSaving_of_load loads).1]
        rfl
      · rw [if_neg loads]
        cases e with
        | tick | key | ignored | saveSettled =>
          rw [(c.handle_groups _ now).map_plan rfl loads]
          exact ih
        | pageFetched result =>
          cases result with
          | ok content =>
            show _ = (content.groups first.service first.scope).map SettingGroup.plan
            rw [← service, ← scope]
            exact filter_map_plan_pageInstalled c content
          | error => exact ih
        | subscriptionsFetched result | wikiFetched result => cases result <;> exact ih
        | institutionsFetched result =>
          cases result with
          | ok choices => exact (filter_map_plan_institutionsInstalled c choices).trans ih
          | error => exact ih

end Console

/-! ## Distinct names -/

namespace SettingGroup

variable {p : Profile} {settings : List Setting}

theorem suits_create (suits : ∀ s ∈ settings, s.kind.suits s.current) :
    ∀ s ∈ (create p settings).settings, s.kind.suits s.current :=
  List.forall_mem_map.2 suits

theorem map_key_create :
    (create p settings).settings.map Setting.key = settings.map Setting.key := by
  rw [Setting.map_key_eq, Setting.map_key_eq, ← map_form_acknowledged settings]
  rfl

end SettingGroup

namespace PageContent

variable {content : PageContent}

theorem nodup_ids (distinct : content.HasDistinctNames) (service : Service) (scope : Scope) :
    ((content.groups service scope).map SettingGroup.id).Nodup := by
  have accounts : (content.accountGroups service scope).map SettingGroup.id =
      (content.accounts.map Account.provider).map GroupId.account := by
    simp [accountGroups, accountGroup, SettingGroup.create, SettingGroup.id, Profile.account]
  have apart : ((content.accounts.map Account.provider).map GroupId.account).Nodup :=
    distinct.accounts.map fun _ _ same => GroupId.account.inj same
  have details : (content.detailsGroup? service scope).toList.map SettingGroup.id ∈
      [[], [GroupId.details]] := by
    unfold detailsGroup?
    split <;> simp [SettingGroup.create, SettingGroup.id, Profile.details]
  have comments : (content.commentsGroup? service scope).toList.map SettingGroup.id ∈
      [[], [GroupId.comments]] := by
    unfold commentsGroup?
    cases content.commentLevel <;> simp [SettingGroup.create, SettingGroup.id, Profile.comments]
  have page : [content.addonsGroup service scope, content.wikiGroup service scope].map
      SettingGroup.id = [.addons, .wiki] := rfl
  simp only [List.mem_cons, List.not_mem_nil, or_false] at details comments
  unfold groups
  simp only [List.map_append, accounts, page]
  rcases details with details | details <;> rcases comments with comments | comments <;>
    simpa [details, comments] using apart

/-- The settings of a group that the content gives rise to hold values of their kinds, and their
keys are distinct if the names of the add-ons are. -/
theorem settings_of_mem_groups {g : SettingGroup} {service : Service} {scope : Scope}
    (member : g ∈ content.groups service scope) :
    (∀ s ∈ g.settings, s.kind.suits s.current) ∧
      (content.HasDistinctNames → (g.settings.map Setting.key).Nodup) := by
  simp only [groups, List.mem_append, Option.mem_toList, List.mem_cons, List.not_mem_nil,
    or_false] at member
  rcases member with ((details | addons | wiki) | comments) | account
  · unfold detailsGroup? at details
    split at details
    · cases details
    · obtain rfl := Option.some.inj details
      refine ⟨SettingGroup.suits_create ?_, fun _ => ?_⟩
      · cases content.node.parentExists <;>
          simp [Setting.text, Setting.choice, Setting.ofValue, Setting.Kind.suits]
      · rw [SettingGroup.map_key_create]
        cases content.node.parentExists <;> simp [Setting.text, Setting.choice, Setting.ofValue]
  · subst addons
    refine ⟨SettingGroup.suits_create (List.forall_mem_map.2 fun _ _ => rfl), fun distinct => ?_⟩
    unfold addonsGroup
    rw [SettingGroup.map_key_create, List.map_map]
    exact distinct.addons.sublist (List.filter_sublist.map _)
  · subst wiki
    exact ⟨SettingGroup.suits_create (List.forall_mem_singleton.2 rfl),
      fun _ => List.nodup_singleton _⟩
  · obtain ⟨level, -, rfl⟩ := Option.map_eq_some_iff.1 comments
    exact ⟨SettingGroup.suits_create (List.forall_mem_singleton.2 rfl),
      fun _ => List.nodup_singleton _⟩
  · obtain ⟨a, -, rfl⟩ := List.mem_map.1 account
    exact ⟨SettingGroup.suits_create (List.forall_mem_singleton.2 rfl),
      fun _ => List.nodup_singleton _⟩

end PageContent

namespace SettingGroup

variable {g : SettingGroup} {service : Service} {scope : Scope}

theorem IsBuilt.suits (h : g.IsBuilt service scope) : ∀ s ∈ g.settings, s.kind.suits s.current := by
  rcases h with ⟨content, listed⟩ | ⟨choices, rfl⟩
  · exact (PageContent.settings_of_mem_groups listed).1
  · exact suits_create (List.forall_mem_singleton.2 rfl)

/-- The values that are shown are of the kinds of their settings. -/
theorem Lived.suits (h : g.Lived service scope) : ∀ s ∈ g.settings, s.kind.suits s.current := by
  obtain ⟨p, settings, log, built, history, -⟩ := h
  have suited : ∀ s ∈ settings, s.kind.suits s.current := List.forall_mem_map.1 built.suits
  intro s member
  obtain ⟨first, given, sound⟩ := Setting.exists_sound_of_mem (history.sound suited) member
  have kind : s.kind = first.kind := congrArg Setting.Form.kind sound.form
  rw [kind]
  exact sound.current.suits (suited first given)

theorem Lived.map_key_institution (h : g.Lived service scope) (it : g.id = .institution) :
    g.settings.map Setting.key = [Profile.institutionKey] := by
  obtain ⟨p, settings, log, built, history, -⟩ := h
  have named : (create p settings).id = .institution := by
    rw [← it]
    exact congrArg Profile.id history.profile.symm
  rcases built with ⟨content, listed⟩ | ⟨choices, its⟩
  · exact absurd named (Console.ne_institution_of_mem_groups listed)
  · rw [history.map_key, ← map_key_create (p := p), its]
    rfl

end SettingGroup

namespace Console

variable {redraw : Redraw} {first c : Console} {log : List (Console × Turn)}
  (h : Turns redraw first log c)
  (unloaded : first.groups = [])
  (distinct : ∀ content ∈ loadedContent? log, content.HasDistinctNames)
include h unloaded distinct

/-- A group is found by its name. -/
theorem Turns.nodup_loaded : c.loaded.Nodup := by
  have others : (c.loaded.filter (· ≠ .institution)).Nodup := by
    have names : c.loaded.filter (· ≠ .institution) =
        ((c.groups.map SettingGroup.plan).filter (·.1 ≠ .institution)).map Prod.fst := by
      unfold loaded
      rw [List.filter_map, List.filter_map, List.map_map]
      rfl
    rw [names, h.map_plan unloaded, List.map_map]
    cases content : loadedContent? log with
    | none => exact List.nodup_nil
    | some page => exact PageContent.nodup_ids (distinct page content) _ _
  rw [List.nodup_iff_count_le_one] at others ⊢
  intro id
  by_cases it : id = .institution
  · rw [it]
    exact h.count_institution unloaded
  · rw [← List.count_filter (p := (· ≠ .institution)) (decide_eq_true it)]
    exact others id

/-- A setting of a group is found by its key. -/
theorem Turns.nodup_keys {g : SettingGroup} (member : g ∈ c.groups) :
    (g.settings.map Setting.key).Nodup := by
  by_cases it : g.id = .institution
  · obtain ⟨-, -, lived⟩ := h.lived unloaded
    rw [(lived g member).map_key_institution it]
    exact List.nodup_singleton _
  · have listed : g.plan ∈ (c.groups.map SettingGroup.plan).filter (·.1 ≠ .institution) :=
      List.mem_filter.2 ⟨List.mem_map_of_mem member, decide_eq_true it⟩
    rw [h.map_plan unloaded] at listed
    obtain ⟨built, given, same⟩ := List.mem_map.1 listed
    cases content : loadedContent? log with
    | none =>
      rw [content] at given
      cases given
    | some page =>
      rw [content] at given
      have forms : built.settings.map Setting.form = g.settings.map Setting.form :=
        congrArg Prod.snd same
      rw [Setting.map_key_eq, ← forms, ← Setting.map_key_eq]
      exact (PageContent.settings_of_mem_groups given).2 (distinct page content)

end Console

/-! ## Sessions -/

namespace Session

/-- What happens in a session happens to its console. -/
theorem Run.turns {first s : Session} {log : List Entry} (h : Run first log s)
    (redraw : Console.Redraw) :
    Console.Turns redraw first.console
      (log.map fun x => (x.session.console, .handled x.event x.now)) s.console := by
  induction h with
  | opened => exact .opened
  | handled e now _ _ ih => exact .taken (.handled e now) ih

end Session

end SettingsConsole
