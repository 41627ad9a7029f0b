import SettingsConsole.Proofs.Console.ExitGuard
import SettingsConsole.Proofs.Console.Status
import SettingsConsole.Proofs.Group.Refusal

/-!
# Questions and phases in step

That a group waits for an answer is remembered twice: by its phase and by the question among the
dialogs.  Along every run the two agree (`Console.InStep`), although time, settled requests and
fetches put other dialogs into the queue and other groups into the place of the one that asks
(`Session.prompts_in_step`).  What answers an input of the user is shown at once, so a group that
asks is never locked behind another dialog, and the user is never told to answer a question that is
not shown.
-/

namespace SettingsConsole

/-- Whether a dialog comes of what the user has just done, rather than of something that happened
meanwhile. -/
def Dialog.isImmediate : Dialog → Bool
  | .confirm _ | .editText _ _ _ _ | .redirect _ => true
  | .alert _ | .exitGuard _ _ => false

theorem tail_opens (result : Except Refusal EditOutcome) : (opens result).tail = [] := by
  unfold opens
  split <;> rfl

namespace SettingGroup

variable {g g' : SettingGroup} {op : Operation} {result : Except Refusal EditOutcome}
  {kind : PromptKind} {service : Service} {scope : Scope}

/-- The question that a group waits for the answer to. -/
def asks? (g : SettingGroup) : Option PromptKind :=
  match g.phase with
  | .confirming => some .removal
  | .consenting key => some (.terms key)
  | .idle | .saving => none

/-- Where every edit is saved at once, all settings are flags without terms. -/
def HasPlainFlags (g : SettingGroup) : Prop :=
  g.profile.savesOnEdit →
    ∀ form ∈ g.settings.map Setting.form, form.kind = .boolean ∧ form.terms = none

/-! ## Groups that ask -/

theorem asks?_eq_none_iff : g.asks? = none ↔ g.phase = .idle ∨ g.phase = .saving := by
  unfold asks?
  cases g.phase <;> simp

theorem asks?_of_idle (idle : g.phase = .idle) : g.asks? = none := asks?_eq_none_iff.2 (.inl idle)

theorem isSome_asks?_of_obstacle? (h : g.obstacle? = some .promptOpen) : g.asks?.isSome := by
  unfold obstacle? at h
  unfold asks?
  cases phase : g.phase <;> simp_all

/-- A group asks after an operation if it asked before or a question has just been opened. -/
theorem Performed.asks (h : Performed g op g' result) (waits : g'.asks? = some kind) :
    g' = g ∨ ∃ prompt, opens result = [.confirm prompt] ∧ prompt.group = g.id ∧
      prompt.kind = kind := by
  have quiet {g₁ : SettingGroup} (free : g₁.phase = .idle ∨ g₁.phase = .saving)
      (waits : g₁.asks? = some kind) : False := by
    rw [asks?_eq_none_iff.2 free] at waits
    cases waits
  cases h with
  | refused => exact .inl rfl
  | redirected => exact .inl rfl
  | @asked key s terms _ found =>
    refine .inr ⟨g.termsPrompt s terms, rfl, rfl, ?_⟩
    show PromptKind.terms s.key = kind
    rw [key_of_setting? found]
    exact Option.some.inj waits
  | edited edit => exact (quiet (.inl edit.idle) waits).elim
  | @saved _ g₁ _ _ edit _ save =>
    cases save with
    | unchanged => exact (quiet (.inl edit.idle) waits).elim
    | asked =>
      have name : g₁.id = g.id := congrArg Profile.id edit.profile
      exact .inr ⟨g₁.removalPrompt, rfl, name, Option.some.inj waits⟩
    | sent => exact (quiet (.inr rfl) waits).elim
  | forgotten | declined | takenBack => exact (quiet (.inl rfl) waits).elim
  | confirmed => exact (quiet (.inr rfl) waits).elim

/-- An answer to a group that asks nothing is refused. -/
theorem Performed.of_unasked (h : Performed g op g' result) (answers : op.answers)
    (quiet : g.asks? = none) : g' = g ∧ opens result = [] := by
  have waits {p : Phase} (phase : g.phase = p) (asks : p ≠ .idle ∧ p ≠ .saving) : False := by
    have free := asks?_eq_none_iff.1 quiet
    rw [phase] at free
    exact free.elim asks.1 asks.2
  have unedited {g₁ : SettingGroup} (edit : Edited g op g₁) : False := by
    cases edit with
    | assigned _ edits => cases op <;> simp_all [Operation.edits?, Operation.answers]
    | agreed phase => exact waits phase ⟨nofun, nofun⟩
    | untouched => cases answers
  cases h with
  | refused => exact ⟨rfl, rfl⟩
  | redirected => cases answers
  | asked => cases answers
  | edited edit => exact (unedited edit).elim
  | saved edit => exact (unedited edit).elim
  | forgotten phase | declined phase | confirmed phase | takenBack phase =>
    exact (waits phase ⟨nofun, nofun⟩).elim

/-- The answer to its question leaves a group without one. -/
theorem perform_answer (waits : g.asks? = some kind)
    (plain : ∀ key, g.phase = .consenting key → ¬ g.profile.savesOnEdit) (accepted : Bool) :
    ((kind.answer accepted).perform g).1.asks? = none ∧
      opens ((kind.answer accepted).perform g).2 = [] := by
  unfold asks? at waits
  cases phase : g.phase with
  | idle | saving => simp [phase] at waits
  | confirming =>
    rw [phase] at waits
    obtain rfl := Option.some.inj waits
    have done : (PromptKind.removal.answer accepted).perform g =
        Operation.asEdit (g.resolveRemoval accepted) := rfl
    rw [done]
    unfold resolveRemoval
    rw [if_pos phase]
    cases accepted <;> exact ⟨rfl, rfl⟩
  | consenting key =>
    rw [phase] at waits
    obtain rfl := Option.some.inj waits
    have done : ((PromptKind.terms key).answer accepted).perform g = g.answerTerms accepted := rfl
    rw [done]
    unfold answerTerms
    rw [phase]
    cases accepted with
    | true =>
      unfold afterEdit
      simp only [if_true, if_neg (plain key phase)]
      exact ⟨rfl, rfl⟩
    | false =>
      dsimp only
      rw [if_neg Bool.false_ne_true]
      split <;> exact ⟨rfl, rfl⟩

/-- A text that is taken over raises no question. -/
theorem perform_editText (plain : g.HasPlainFlags) (quiet : g.asks? = none) (key content : String) :
    ((Operation.editText key content).perform g).1.asks? = none ∧
      opens ((Operation.editText key content).perform g).2 = [] := by
  have step := g.performed (.editText key content)
  generalize (Operation.editText key content).perform g = answer at step ⊢
  obtain ⟨g', result⟩ := answer
  cases step with
  | refused => exact ⟨quiet, rfl⟩
  | edited edit => exact ⟨asks?_of_idle edit.idle, rfl⟩
  | saved edit saves =>
    cases edit with
    | assigned _ _ found accepts =>
      -- An edit is followed by a save only where there is no text.
      cases accepts with
      | text is_text =>
        have flags := plain (saves.resolve_left nofun)
        have listed := List.mem_map_of_mem (f := Setting.form) (List.mem_of_find?_eq_some found)
        cases is_text.symm.trans (flags _ listed).1

/-! ## Groups of the page -/

theorem IsBuilt.hasPlainFlags (h : g.IsBuilt service scope) : g.HasPlainFlags := by
  intro saves
  have flag (key label : String) (on : Bool) :
      ∀ form ∈ ([Setting.flag key label on].map Setting.acknowledged).map Setting.form,
        form.kind = .boolean ∧ form.terms = none := by
    intro form listed
    cases List.mem_singleton.1 listed
    exact ⟨rfl, rfl⟩
  -- Only the wiki and the accounts are saved with every edit.
  rcases h with ⟨content, member⟩ | ⟨choices, rfl⟩
  · rcases PageContent.created_of_mem_groups member with
      ⟨_, rfl⟩ | ⟨_, rfl⟩ | rfl | ⟨_, rfl⟩ | ⟨a, -, rfl⟩
    · cases saves
    · cases saves
    · exact flag _ _ _
    · cases saves
    · exact flag _ _ _
  · cases saves

theorem Lived.hasPlainFlags (h : g.Lived service scope) : g.HasPlainFlags := by
  obtain ⟨p, settings, log, built, history, -⟩ := h
  have plain := built.hasPlainFlags
  unfold HasPlainFlags at plain ⊢
  rw [history.profile, history.map_form, ← map_form_acknowledged settings]
  exact plain

/-- Terms are asked about only where a save waits for the user. -/
theorem Lived.not_savesOnEdit (h : g.Lived service scope) (key : String)
    (waits : g.phase = .consenting key) : ¬ g.profile.savesOnEdit := by
  intro saves
  have plain := h.hasPlainFlags saves
  obtain ⟨p, settings, log, -, history, -⟩ := h
  obtain ⟨s, found, asks, -⟩ := history.terms_of_consenting waits
  have listed := List.mem_map_of_mem (f := Setting.form) (List.mem_of_find?_eq_some found)
  have none_there : s.terms = none := (plain _ listed).2
  rw [none_there] at asks
  cases asks

end SettingGroup

namespace Console

/-- A group that asks is the first one of its name. -/
def AsksFirst (groups : List SettingGroup) : Prop :=
  groups.Pairwise fun g h => h.asks?.isSome → g.id ≠ h.id

/-- What answers an input is at the front of the queue, and so is the question of a group that
asks. -/
structure InStep (groups : List SettingGroup) (dialogs : List Dialog) : Prop where
  behind : ∀ d ∈ dialogs.tail, ¬ d.isImmediate
  first : AsksFirst groups
  shown : ∀ g ∈ groups, ∀ kind, g.asks? = some kind →
    ∃ prompt rest, dialogs = .confirm prompt :: rest ∧ prompt.group = g.id ∧ prompt.kind = kind

variable {c : Console} {e : Event} {core : Core} {effects : List Effect}
  {g g' h : SettingGroup} {groups : List SettingGroup} {dialogs : List Dialog} {d : Dialog}

/-! ## Replacing a group -/

theorem AsksFirst.mem_replaceGroup (first : AsksFirst groups)
    (member : h ∈ replaceGroup g' groups) :
    h = g' ∨ h ∈ groups ∧ (h.asks?.isSome → h.id ≠ g'.id) := by
  induction groups with
  | nil => cases member
  | cons x rest ih =>
    obtain ⟨ahead, first⟩ := List.pairwise_cons.1 first
    unfold replaceGroup at member
    split at member
    next same =>
      rcases List.mem_cons.1 member with rfl | later
      · exact .inl rfl
      · refine .inr ⟨List.mem_cons_of_mem _ later, fun asks name => ?_⟩
        exact ahead h later asks (same.trans name.symm)
    next other =>
      rcases List.mem_cons.1 member with rfl | later
      · exact .inr ⟨List.mem_cons_self, fun _ => other⟩
      · exact (ih first later).imp_right (.imp_left (List.mem_cons_of_mem _))

theorem AsksFirst.replaceGroup (first : AsksFirst groups) :
    AsksFirst (Console.replaceGroup g' groups) := by
  induction groups with
  | nil => exact List.Pairwise.nil
  | cons x rest ih =>
    obtain ⟨ahead, first⟩ := List.pairwise_cons.1 first
    unfold Console.replaceGroup
    split
    next same => exact List.Pairwise.cons (fun h later => same ▸ ahead h later) first
    next other =>
      refine List.Pairwise.cons (fun h later => ?_) (ih first)
      rcases mem_of_mem_replaceGroup later with rfl | stays
      · exact fun _ => other
      · exact ahead h stays

/-! ## Keeping in step -/

theorem InStep.of_quiet (behind : ∀ d ∈ dialogs.tail, ¬ d.isImmediate)
    (quiet : ∀ g ∈ groups, g.asks? = none) : InStep groups dialogs where
  behind := behind
  first := by
    refine List.Pairwise.imp_of_mem (R := fun _ _ => True) (fun _ listed _ asks => ?_)
      (List.pairwise_of_forall fun _ _ => trivial)
    rw [quiet _ listed] at asks
    cases asks
  shown g listed kind asks := by
    rw [quiet g listed] at asks
    cases asks

section Kept

variable (inStep : InStep groups dialogs)
include inStep

/-- No group asks while another dialog than its question is shown. -/
theorem InStep.quiet (other : ∀ prompt rest, dialogs ≠ .confirm prompt :: rest) :
    ∀ g ∈ groups, g.asks? = none := by
  intro g listed
  cases asks : g.asks? with
  | none => rfl
  | some kind =>
    obtain ⟨prompt, rest, front, -⟩ := inStep.shown g listed kind asks
    exact absurd front (other prompt rest)

theorem InStep.push (late : ¬ d.isImmediate) : InStep groups (dialogs ++ [d]) where
  behind := by
    intro d' listed
    rcases mem_tail_append listed with before | pushed
    · exact inStep.behind d' before
    · rwa [List.mem_singleton.1 pushed]
  first := inStep.first
  shown g listed kind asks := by
    obtain ⟨prompt, rest, front, its⟩ := inStep.shown g listed kind asks
    exact ⟨prompt, rest ++ [d], by rw [front, List.cons_append], its⟩

/-- A group that asks nothing takes the place of another one. -/
theorem InStep.replace (quiet : g'.asks? = none) : InStep (replaceGroup g' groups) dialogs where
  behind := inStep.behind
  first := inStep.first.replaceGroup
  shown g listed kind asks := by
    rcases mem_of_mem_replaceGroup listed with rfl | stays
    · rw [quiet] at asks
      cases asks
    · exact inStep.shown g stays kind asks

theorem InStep.append_fresh {fresh : SettingGroup} (quiet : fresh.asks? = none) (id : GroupId) :
    InStep (removeGroup id groups ++ [fresh]) dialogs where
  behind := inStep.behind
  first := by
    rw [removeGroup_eq_eraseP]
    refine List.pairwise_append.2 ⟨inStep.first.sublist List.eraseP_sublist,
      List.pairwise_singleton _ _, fun g _ h last asks => ?_⟩
    rw [List.mem_singleton.1 last, quiet] at asks
    cases asks
  shown g listed kind asks := by
    rw [removeGroup_eq_eraseP] at listed
    rcases List.mem_append.1 listed with stays | last
    · exact inStep.shown g (List.mem_of_mem_eraseP stays) kind asks
    · rw [List.mem_singleton.1 last, quiet] at asks
      cases asks

theorem InStep.prepend_fresh {fresh : List SettingGroup} {id : GroupId}
    (quiet : ∀ g ∈ fresh, g.asks? = none ∧ g.id ≠ id) :
    InStep (fresh ++ (groups.find? (·.id = id)).toList) dialogs where
  behind := inStep.behind
  first := by
    refine List.pairwise_append.2 ⟨?_, ?_, fun g listed h kept _ => ?_⟩
    · exact (InStep.of_quiet inStep.behind fun g listed => (quiet g listed).1).first
    · cases groups.find? (·.id = id) with
      | none => exact .nil
      | some g => exact List.pairwise_singleton _ _
    · have name : h.id = id := by simpa using List.find?_some (Option.mem_toList.1 kept)
      exact name ▸ (quiet g listed).2
  shown g listed kind asks := by
    rcases List.mem_append.1 listed with built | kept
    · rw [(quiet g built).1] at asks
      cases asks
    · exact inStep.shown g (List.mem_of_find?_eq_some (Option.mem_toList.1 kept)) kind asks

end Kept

/-- The question at the front is answered. -/
theorem InStep.of_answer {prompt : Prompt} {rest : List Dialog} {accepted : Bool}
    (inStep : InStep c.groups c.dialogs) (front : c.dialogs = .confirm prompt :: rest)
    (loaded : c.group? prompt.group = some g)
    (plain : ∀ key, g.phase = .consenting key → ¬ g.profile.savesOnEdit) :
    InStep (replaceGroup ((prompt.kind.answer accepted).perform g).1 c.groups)
      (c.dialogs.tail ++ opens ((prompt.kind.answer accepted).perform g).2) := by
  have answers : (prompt.kind.answer accepted).answers := by
    cases prompt.kind <;> rfl
  have member := List.mem_of_find?_eq_some loaded
  obtain ⟨quiet, silent⟩ : ((prompt.kind.answer accepted).perform g).1.asks? = none ∧
      opens ((prompt.kind.answer accepted).perform g).2 = [] := by
    cases waits : g.asks? with
    | none =>
      obtain ⟨same, silent⟩ := (g.performed (prompt.kind.answer accepted)).of_unasked answers waits
      exact ⟨by rw [same, waits], silent⟩
    | some kind =>
      obtain ⟨shown, _, at_front, -, its⟩ := inStep.shown g member kind waits
      cases front.symm.trans at_front
      rw [its]
      exact SettingGroup.perform_answer waits plain accepted
  have name : ((prompt.kind.answer accepted).perform g).1.id = prompt.group :=
    (SettingGroup.id_perform g _).trans (id_of_group? loaded)
  rw [silent, List.append_nil]
  refine .of_quiet (fun d listed => inStep.behind d (List.mem_of_mem_tail listed)) ?_
  intro h listed
  rcases inStep.first.mem_replaceGroup listed with rfl | ⟨stays, other⟩
  · exact quiet
  · cases asks : h.asks? with
    | none => rfl
    | some kind =>
      -- The question that is shown is the one of the group that was answered.
      obtain ⟨shown, _, at_front, its, -⟩ := inStep.shown h stays kind asks
      cases front.symm.trans at_front
      exact absurd (its.symm.trans name.symm) (other (Option.isSome_of_eq_some asks))

/-- An operation from the page, where no dialog is shown. -/
theorem InStep.of_free (inStep : InStep c.groups []) (member : g ∈ c.groups) (op : Operation) :
    InStep (replaceGroup (op.perform g).1 c.groups) (opens (op.perform g).2) where
  behind := by
    rw [tail_opens]
    exact List.forall_mem_nil _
  first := inStep.first.replaceGroup
  shown h listed kind asks := by
    have quiet := inStep.quiet nofun
    rcases mem_of_mem_replaceGroup listed with rfl | stays
    · rcases (g.performed op).asks asks with same | ⟨prompt, opened, group, kind⟩
      · rw [same, quiet g member] at asks
        cases asks
      · exact ⟨prompt, [], opened, group.trans (g.id_perform op).symm, kind⟩
    · rw [quiet h stays] at asks
      cases asks

/-! ## Every event -/

/-- Questions and phases stay in step, whatever the event. -/
theorem Handled.inStep (h : Handled c e core effects) (inStep : InStep c.groups c.dialogs)
    (plain : ∀ g ∈ c.groups, g.HasPlainFlags)
    (unsaved : ∀ g ∈ c.groups, ∀ key, g.phase = .consenting key → ¬ g.profile.savesOnEdit) :
    InStep core.groups core.dialogs := by
  have of_front {front : Dialog} {rest : List Dialog} (shown : c.dialogs = front :: rest) :
      ∀ d ∈ rest.tail, ¬ d.isImmediate := fun d listed => by
    have behind := inStep.behind d
    rw [shown] at behind
    exact behind (List.mem_of_mem_tail listed)
  cases h with
  | kept => exact inStep
  | guarded => exact inStep.push Bool.false_ne_true
  | reloaded => exact .of_quiet inStep.behind (List.forall_mem_nil _)
  | abandoned front => exact .of_quiet (of_front front) (List.forall_mem_nil _)
  | typed front =>
    refine .of_quiet ?_ (inStep.quiet (by simp [front]))
    have behind := inStep.behind
    rwa [front] at behind
  | opened free => exact .of_quiet (List.forall_mem_nil _) (inStep.quiet (by simp [free]))
  | @closed key front rest accepted shown answer unloaded =>
    refine .of_quiet (of_front shown) fun g listed => ?_
    cases asks : g.asks? with
    | none => rfl
    | some kind =>
      -- The dialog that is closed would be its question, and the answer reach the group.
      obtain ⟨prompt, _, at_front, group, -⟩ := inStep.shown g listed kind asks
      cases shown.symm.trans at_front
      have absent := unloaded _ (operation?_of_confirm shown answer)
      exact absurd group.symm (by simpa using List.find?_eq_none.1 absent g listed)
  | @operated key id op g asked loaded =>
    have member := List.mem_of_find?_eq_some loaded
    have of_page (free : c.dialogs = []) : InStep (replaceGroup (op.perform g).1 c.groups)
        (c.dialogs.tail ++ opens (op.perform g).2) := by
      rw [free] at inStep ⊢
      exact inStep.of_free member op
    cases c.asked_of_operation? asked with
    | answered front => exact inStep.of_answer front loaded (unsaved g member)
    | @typed _ name _ buffer _ front =>
      have quiet := inStep.quiet (by simp [front])
      obtain ⟨unasked, silent⟩ :=
        SettingGroup.perform_editText (plain g member) (quiet g member) name buffer
      rw [silent, List.append_nil, front]
      refine .of_quiet (of_front front) fun h listed => ?_
      rcases mem_of_mem_replaceGroup listed with rfl | stays
      · exact unasked
      · exact quiet h stays
    | toggled free | selected free | saved free => exact of_page free
  | @settled id result g =>
    have idle : (g.settle result).phase = .idle := by cases result <;> rfl
    have settled := inStep.replace (SettingGroup.asks?_of_idle idle)
    cases result with
    | ok => exact (List.append_nil c.dialogs).symm ▸ settled
    | error => exact settled.push Bool.false_ne_true
  | reported => exact inStep.push Bool.false_ne_true
  | pageInstalled =>
    refine inStep.prepend_fresh fun g built => ?_
    exact ⟨SettingGroup.asks?_of_idle (PageContent.groups_created built).2.1,
      ne_institution_of_mem_groups built⟩
  | institutionsInstalled => exact inStep.append_fresh rfl _

/-- Nobody is told to answer a question while it is not shown. -/
theorem Noted.ne_promptOpen {status : Option String} {reloadAt : Option Nat} {now : Nat}
    (h : Noted c now e status reloadAt effects) (inStep : InStep c.groups c.dialogs)
    (before : c.status ≠ some Refusal.promptOpen.message) :
    status ≠ some Refusal.promptOpen.message := by
  have unsaid {text : String} (starts : text.toList.head?.any (· ≠ 'A')) :
      some text ≠ some Refusal.promptOpen.message :=
    fun same => ne_promptOpen_of_head? starts (Option.some.inj same)
  cases h with
  | kept | scheduled | started | served => exact before
  | accepted => nofun
  | takenBack keys => exact unsaid (any_head?_append (by decide) _)
  | deferred => exact unsaid (by decide)
  | @refused key id op g r asked loaded refused =>
    intro same
    obtain rfl := Refusal.eq_promptOpen (Option.some.inj same)
    cases SettingGroup.refuses_of_error refused with
    | busy other obstacle =>
      have asks := SettingGroup.isSome_asks?_of_obstacle? obstacle
      obtain ⟨kind, waits⟩ := Option.isSome_iff_exists.1 asks
      obtain ⟨prompt, rest, front, -⟩ :=
        inStep.shown g (List.mem_of_find?_eq_some loaded) kind waits
      cases c.asked_of_operation? asked with
      | @answered _ question => exact other (by cases question.kind <;> rfl)
      | typed text => cases front.symm.trans text
      | toggled free | selected free | saved free => cases front.symm.trans free
  | @obstructed key id g r free loaded obstacle =>
    intro same
    obtain rfl := Refusal.eq_promptOpen (Option.some.inj same)
    have asks := SettingGroup.isSome_asks?_of_obstacle? obstacle
    rw [inStep.quiet (by simp [free]) g (List.mem_of_find?_eq_some loaded)] at asks
    cases asks

end Console

namespace Session

variable {online : Bool} {service : Service} {scope : Scope} {log : List Entry} {s : Session}

theorem status_start (online : Bool) (service : Service) (scope : Scope) :
    (start online service scope).console.status = none := by
  cases online <;> rfl

/-- Along a run, questions and phases are in step, and nobody was told to answer a question. -/
theorem Run.inStep (h : Run (start online service scope) log s) :
    Console.InStep s.console.groups s.console.dialogs ∧
      s.console.status ≠ some Refusal.promptOpen.message := by
  refine h.invariant (fun s => Console.InStep s.console.groups s.console.dialogs ∧
    s.console.status ≠ some Refusal.promptOpen.message) ?_ ?_ s List.mem_cons_self
  · rw [groups_start, dialogs_start, status_start]
    exact ⟨.of_quiet (List.forall_mem_nil _) (List.forall_mem_nil _), nofun⟩
  · rintro x member - ⟨inStep, unsaid⟩
    obtain ⟨⟨earlier, run⟩, -, -⟩ := h.of_mem member
    have lived := run.lived
    refine ⟨?_, (x.session.console.noted x.event x.now).ne_promptOpen inStep unsaid⟩
    exact (x.session.console.handled x.event x.now).inStep inStep
      (fun g listed => (lived g listed).hasPlainFlags)
      (fun g listed => (lived g listed).not_savesOnEdit)

/-- Along every run, a question, a text that is edited or a page to go to is shown at once and alone
of its kind; a group that waits for an answer has its question at the front; so each group can be
edited or waits for a request while no dialog is shown, and the refusal that refers to an open
question is never shown. -/
theorem prompts_in_step (h : Run (start online service scope) log s) :
    (s.console.dialogs.countP Dialog.isImmediate ≤ 1 ∧
      ∀ d ∈ s.console.dialogs.tail, ¬ d.isImmediate) ∧
    (∀ g ∈ s.console.groups,
      (g.phase = .confirming → ∃ prompt rest, s.console.dialogs = .confirm prompt :: rest ∧
        prompt.group = g.id ∧ prompt.kind = .removal) ∧
      ∀ key, g.phase = .consenting key → ∃ prompt rest,
        s.console.dialogs = .confirm prompt :: rest ∧ prompt.group = g.id ∧
          prompt.kind = .terms key) ∧
    (s.console.dialogs = [] → ∀ g ∈ s.console.groups, g.phase = .idle ∨ g.phase = .saving) ∧
    s.console.status ≠ some Refusal.promptOpen.message := by
  obtain ⟨inStep, unsaid⟩ := h.inStep
  refine ⟨⟨?_, inStep.behind⟩, fun g listed => ⟨fun waits => ?_, fun key waits => ?_⟩,
    fun free g listed => ?_, unsaid⟩
  · have alone : s.console.dialogs.tail.countP Dialog.isImmediate = 0 :=
      List.countP_eq_zero.2 inStep.behind
    cases shown : s.console.dialogs with
    | nil => exact Nat.zero_le 1
    | cons front rest =>
      rw [shown, List.tail_cons] at alone
      rw [List.countP_cons, alone]
      split <;> omega
  · exact inStep.shown g listed _ (by simp [SettingGroup.asks?, waits])
  · exact inStep.shown g listed _ (by simp [SettingGroup.asks?, waits])
  · exact SettingGroup.asks?_eq_none_iff.1 (inStep.quiet (by simp [free]) g listed)

/-- The save of the wiki fails while the terms of an add-on are asked about. -/
theorem prompts_in_step_terms :
    let page := { smallPage with
      addons := [⟨"s3", "Amazon S3", false, some "Data is stored abroad."⟩] }
    let s := (smallRun [.saveSettled .wiki (.error "timeout"), .key (.char ' '), .key .backTab,
      .key (.char ' '), .key .tab, .key .tab, .pageFetched (.ok page)]).2
    s.console.dialogs.length = 2 ∧ s.console.dialogs.countP Dialog.isImmediate ≤ 1 ∧
      (∃ g ∈ s.console.groups, g.id = .addons ∧ g.phase = .consenting "s3") ∧
      ∃ prompt rest, s.console.dialogs = .confirm prompt :: rest ∧ prompt.group = .addons ∧
        prompt.kind = .terms "s3" := by
  intro page s
  obtain ⟨⟨alone, -⟩, shown, -⟩ := prompts_in_step (s := s) (run_smallRun (by decide))
  have asking : ∃ g ∈ s.console.groups, g.id = .addons ∧ g.phase = .consenting "s3" := by decide
  obtain ⟨g, listed, name, waits⟩ := asking
  exact ⟨by decide, alone, ⟨g, listed, name, waits⟩, name ▸ (shown g listed).2 "s3" waits⟩

end Session

end SettingsConsole
