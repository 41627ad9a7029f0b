import SettingsConsole.Proofs.Console.Surface
import SettingsConsole.Proofs.Console.Turns

/-!
# The selected row

The keys that move on the page and the content of the page select a row whenever there is one, and
drawing the page or any other event keeps it selected, with one exception: institutions that arrive
while their tab is shown bring rows and select none of them (`Console.Turn.strands`).  So a row is
selected whenever there are rows, unless that happened and nothing selected a row since
(`Console.row_selected_unless_stranded`).  Of drawing this takes no more than that it leaves a row
selected (`Console.Redraw.Keeps`).
-/

namespace SettingsConsole

namespace Console

/-- If there are rows, one of them is selected. -/
def SelectsRow (c : Console) : Prop :=
  c.rows ≠ [] → ∃ i < c.rows.length, c.selection.selected = some i

namespace Turn

/-- Whether institutions arrive while their tab is shown. -/
def strands (c : Console) : Turn → Bool
  | .handled (.institutionsFetched (.ok _)) _ => c.tab = .institution
  | _ => false

/-- Whether the content of the page arrives, or a key turns to another tab or to the row below. -/
def restores (c : Console) : Turn → Bool
  | .handled (.pageFetched (.ok _)) _ => true
  | .handled (.key key) _ => c.dialogs = [] ∧ key ∈ Key.turning ++ Key.downward
  | _ => false

end Turn

/-- Whether institutions arrived while their tab was shown, and no turn selected a row since. -/
def stranded : List (Console × Turn) → Bool
  | [] => false
  | (c, t) :: earlier => t.strands c || !t.restores c && stranded earlier

variable {redraw : Redraw} {c c' first : Console} {e : Event} {key : Key} {effects : List Effect}
  {log : List (Console × Turn)} {t : Turn}

/-! ## Rows and the selection -/

theorem SelectsRow.congr (h : c.SelectsRow) (length : c'.rows.length = c.rows.length)
    (same : c'.selection.selected = c.selection.selected) : c'.SelectsRow := by
  intro some_there
  rw [← List.length_pos_iff, length, List.length_pos_iff] at some_there
  rw [length, same]
  exact h some_there

theorem rows_of_groups (unloaded : c.groups = []) : c.rows = [] := by
  have absent (id : GroupId) : c.group? id = none := by
    unfold group?
    rw [unloaded, List.find?_nil]
  unfold rows
  rw [List.filterMap_eq_nil_iff.2 fun id _ => absent id, List.flatMap_nil]

theorem selectsRow_of_groups (unloaded : c.groups = []) : c.SelectsRow :=
  fun some_there => absurd (rows_of_groups unloaded) some_there

theorem selectsRow_clampSelection (c : Console) : c.clampSelection.SelectsRow := by
  intro some_there
  have count : 0 < c.rows.length := List.length_pos_iff.2 some_there
  show ∃ i < c.rows.length, (if c.rows.length = 0 then none else _) = some i
  rw [if_neg (Nat.ne_of_gt count)]
  cases c.selection.selected with
  | none => exact ⟨0, count, rfl⟩
  | some i => exact ⟨min i (c.rows.length - 1), by omega, rfl⟩

theorem selectsRow_nextRow (c : Console) : c.nextRow.SelectsRow := by
  unfold nextRow
  dsimp only
  by_cases none_there : c.rows.length = 0
  · rw [if_pos none_there]
    exact fun some_there => absurd (List.length_eq_zero_iff.1 none_there) some_there
  · rw [if_neg none_there]
    intro _
    show ∃ i < c.rows.length, _ = some i
    cases c.selection.selected with
    | none => exact ⟨0, by omega, rfl⟩
    | some i =>
      by_cases last : i + 1 < c.rows.length
      · exact ⟨i + 1, last, if_pos last⟩
      · exact ⟨0, by omega, if_neg last⟩

theorem SelectsRow.previousRow (h : c.SelectsRow) : c.previousRow.SelectsRow := by
  unfold Console.previousRow
  dsimp only
  by_cases none_there : c.rows.length = 0
  · rw [if_pos none_there]
    exact h
  · rw [if_neg none_there]
    intro some_there
    obtain ⟨i, below, selected⟩ := h some_there
    show ∃ i < c.rows.length, _ = some i
    rw [selected]
    cases i with
    | zero => exact ⟨c.rows.length - 1, by omega, rfl⟩
    | succ i => exact ⟨i, by omega, rfl⟩

/-! ## Drawing -/

/-- A row that is selected stays so when the page is drawn. -/
theorem SelectsRow.drawn (h : c.SelectsRow) (keeps : redraw.Keeps) (width height : Nat) :
    (Turn.apply redraw c (.drawn width height)).SelectsRow := by
  intro some_there
  obtain ⟨i, below, selected⟩ := h some_there
  have kept := keeps c width height (by rw [selected]; rintro _ ⟨⟩; exact below)
  exact ⟨i, below, kept.trans selected⟩

/-! ## Events -/

/-- The rows of every other tab stay when institutions arrive. -/
theorem rows_institutionsInstalled (elsewhere : c.tab ≠ .institution)
    (choices : InstitutionChoices) : (c.installInstitutions choices).rows = c.rows := by
  have named : ∀ id ∈ c.tabGroups, id ≠ .institution := by
    intro id listed it
    unfold tabGroups at listed
    cases tab : c.tab with
    | institution => exact elsewhere tab
    | accounts =>
      rw [tab, it] at listed
      cases (List.mem_filter.1 listed).2
    | details | addons | wiki | comments | notifications => simp [tab, it, Tab.group?] at listed
  have accounts : ((c.installInstitutions choices).groups.map SettingGroup.id).filter
      GroupId.isAccount = (c.groups.map SettingGroup.id).filter GroupId.isAccount := by
    show ((removeGroup .institution c.groups ++ [choices.group c.service c.scope]).map
      SettingGroup.id).filter GroupId.isAccount = _
    rw [List.map_append, List.filter_append, map_id_removeGroup, ← List.erase_filter]
    simp [GroupId.isAccount]
  have same : (c.installInstitutions choices).tabGroups = c.tabGroups := by
    unfold tabGroups
    rw [accounts]
    rfl
  have found : ∀ id ∈ c.tabGroups, (c.installInstitutions choices).group? id = c.group? id :=
    fun id listed => find?_institutionsInstalled c choices (named id listed)
  unfold rows
  rw [same, List.filterMap_congr found]

theorem Moves.selectsRow (h : Moves c key c') (selects : key ∈ Key.upward → c.SelectsRow) :
    c'.SelectsRow := by
  cases h with
  | turned tab => exact selectsRow_clampSelection _
  | next => exact c.selectsRow_nextRow
  | previous up => exact (selects up).previousRow

theorem Moves.tab (h : Moves c key c') (stays : key ∉ Key.turning) : c'.tab = c.tab := by
  obtain ⟨tab, selection, rfl, kept⟩ := h.exists_eq
  exact kept stays

/-- On the bare page the keys that move do so. -/
theorem moves_handle (free : c.dialogs = [])
    (moving : key ∈ Key.turning ++ Key.downward ++ Key.upward) (now : Moment) :
    Moves c key (c.handle (.key key) now).1 := by
  rw [handle_key_of_free free]
  simp only [Key.turning, Key.downward, Key.upward, List.cons_append, List.nil_append,
    List.mem_cons, List.not_mem_nil, or_false] at moving
  rcases moving with rfl | rfl | rfl | rfl | rfl | rfl | rfl | rfl | rfl | rfl
  · exact .turned _ (by decide)
  · exact .turned _ (by decide)
  · exact .turned _ (by decide)
  · exact .turned _ (by decide)
  · exact .turned _ (by decide)
  · exact .turned _ (by decide)
  · exact .next (by decide)
  · exact .next (by decide)
  · exact .previous (by decide)
  · exact .previous (by decide)

/-- An event that reports no fetch keeps a row selected. -/
theorem Surfaced.selectsRow (h : Surfaced c e c' effects)
    (regrouped : Regrouped c e c'.groups effects) (unfetched : e.area? = none)
    (selects : c.SelectsRow) : c'.SelectsRow := by
  cases h with
  | kept same silent =>
    have tab : c'.tab = c.tab := (congrArg Console.tab same : c'.surface.tab = c.surface.tab)
    have selection : c'.selection = c.selection :=
      (congrArg Console.selection same : c'.surface.selection = c.surface.selection)
    refine selects.congr ?_ (congrArg Selection.selected selection)
    exact length_rows_congr tab (regrouped.map_plan unfetched silent)
  | reloaded _ unloaded => exact selectsRow_of_groups unloaded
  | moved _ moves => exact moves.selectsRow fun _ => selects

/-- Every turn but one that strands the selection keeps a row selected. -/
theorem SelectsRow.apply (h : c.SelectsRow) (keeps : redraw.Keeps) (kept : ¬ t.strands c) :
    (t.apply redraw c).SelectsRow := by
  cases t with
  | drawn width height => exact h.drawn keeps width height
  | handled e now =>
    cases e with
    | tick | key | ignored | saveSettled =>
      exact (c.surfaced now rfl).selectsRow (c.handle_groups _ now) rfl h
    | pageFetched result =>
      cases result with
      | ok content => exact selectsRow_clampSelection _
      | error => exact h
    | subscriptionsFetched result => cases result <;> exact h
    | wikiFetched result => cases result <;> exact h
    | institutionsFetched result =>
      cases result with
      | ok choices =>
        have elsewhere : c.tab ≠ .institution := fun shown => kept (decide_eq_true shown)
        exact h.congr (congrArg List.length (rows_institutionsInstalled elsewhere choices)) rfl
      | error => exact h

/-- A turn that selects a row anew does so whatever was selected. -/
theorem selectsRow_of_restores (restores : t.restores c) : (t.apply redraw c).SelectsRow := by
  cases t with
  | drawn => cases restores
  | handled e now =>
    cases e with
    | key key =>
      obtain ⟨free, moving⟩ := of_decide_eq_true restores
      have apart : ∀ k ∈ Key.turning ++ Key.downward, k ∉ Key.upward := by decide
      have moves := moves_handle free (List.mem_append_left _ moving) now
      exact moves.selectsRow fun up => absurd up (apart key moving)
    | pageFetched result =>
      cases result with
      | ok content => exact selectsRow_clampSelection _
      | error => cases restores
    | _ => cases restores

theorem Surfaced.tab (h : Surfaced c e c' effects)
    (stays : ∀ key, e = .key key → c.dialogs = [] → key ∉ Key.turning) : c'.tab = c.tab := by
  cases h with
  | kept same => exact (congrArg Console.tab same : c'.surface.tab = c.surface.tab)
  | reloaded _ _ same => exact (congrArg Console.tab same).trans rfl
  | moved free moves => exact moves.tab (stays _ rfl free)

/-- Another tab comes with a row that is selected. -/
theorem tab_apply (stays : ¬ t.restores c) : (t.apply redraw c).tab = c.tab := by
  cases t with
  | drawn => rfl
  | handled e now =>
    cases e with
    | key key =>
      refine (c.surfaced now rfl).tab fun _ it free turns => stays ?_
      cases it
      exact decide_eq_true ⟨free, List.mem_append_left _ turns⟩
    | tick | ignored | saveSettled => exact (c.surfaced now rfl).tab nofun
    | pageFetched result =>
      cases result with
      | ok => exact absurd rfl stays
      | error => rfl
    | subscriptionsFetched result | wikiFetched result | institutionsFetched result =>
      cases result <;> rfl

theorem tab_of_strands (strands : t.strands c) : c.tab = .institution := by
  unfold Turn.strands at strands
  split at strands
  · exact of_decide_eq_true strands
  · cases strands

/-! ## Every turn -/

theorem Turns.selectsRow (h : Turns redraw first log c) (keeps : redraw.Keeps)
    (unloaded : first.groups = []) : c.SelectsRow ∨ c.tab = .institution ∧ stranded log := by
  induction h with
  | opened => exact .inl (selectsRow_of_groups unloaded)
  | @taken log c t _ ih =>
    by_cases restores : t.restores c
    · exact .inl (selectsRow_of_restores restores)
    · by_cases strands : t.strands c
      · refine .inr ⟨(tab_apply restores).trans (tab_of_strands strands), ?_⟩
        simp [stranded, strands]
      · rcases ih with selects | ⟨tab, left⟩
        · exact .inl (selects.apply keeps strands)
        · refine .inr ⟨(tab_apply restores).trans tab, ?_⟩
          simp [stranded, restores, left]

/-- While no dialog is shown, Space and Enter activate the row that is selected. -/
theorem handle_of_activates (free : c.dialogs = []) (press : key = .char ' ' ∨ key = .enter)
    (now : Moment) : c.handle (.key key) now = c.activateRow now.millis := by
  rw [handle_key_of_free free]
  rcases press with rfl | rfl <;> rfl

theorem selectedRow?_of_selectsRow (some_there : c.rows ≠ []) (selects : c.SelectsRow) :
    ∃ row g, c.selectedRow? = some row ∧ c.group? row.group = some g ∧ row ∈ g.rows := by
  obtain ⟨i, below, selected⟩ := selects some_there
  have at_i : c.selectedRow? = some c.rows[i] := by
    unfold selectedRow?
    rw [selected]
    exact List.getElem?_eq_getElem below
  obtain ⟨g, -, loaded, member⟩ := exists_shown_of_mem_rows (List.getElem_mem below)
  exact ⟨c.rows[i], g, at_i, loaded, member⟩

/-- Whatever events come and however often the console is drawn, one of the rows is selected
whenever there are rows, unless institutions arrived while their tab was shown and no row was
selected since.  Then Space and Enter act on that row and its group while no dialog is shown. -/
theorem row_selected_unless_stranded (h : Turns redraw first log c) (keeps : redraw.Keeps)
    (unloaded : first.groups = []) :
    (c.SelectsRow ∨ c.tab = .institution ∧ stranded log) ∧
    (c.rows ≠ [] → c.SelectsRow → c.dialogs = [] → ∀ key, key = .char ' ' ∨ key = .enter →
      ∃ row g, c.selectedRow? = some row ∧ c.group? row.group = some g ∧ row ∈ g.rows ∧
        ∀ now, c.handle (.key key) now = c.activateRow now.millis) := by
  refine ⟨h.selectsRow keeps unloaded, fun some_there selects free key press => ?_⟩
  obtain ⟨row, g, selected, loaded, member⟩ := selectedRow?_of_selectsRow some_there selects
  exact ⟨row, g, selected, loaded, member, fun now => handle_of_activates free press now⟩

end Console

namespace Session

/-- The content of the page and then the institutions arrive while the tab of the institution is
shown. -/
def institutionShown (later : List Event) : List Entry × Session :=
  smallRun (later ++ [.institutionsFetched (.ok ⟨[⟨"i1", "College", none⟩], none⟩),
    .pageFetched (.ok smallPage), .key .tab, .key .tab, .key .tab, .key .tab])

/-- The user goes down from there, and switches the institution on. -/
theorem row_selected_unless_stranded_down :
    let c := (institutionShown [.key .down]).2.console
    let now : Moment := ⟨0, 2026, 3, 14, 9, 0⟩
    c.rows.length = 2 ∧ (∃ i < 2, c.selection.selected = some i) ∧
      ∃ row g, c.selectedRow? = some row ∧ c.group? row.group = some g ∧ row ∈ g.rows ∧
        c.handle (.key .enter) now = c.activateRow now.millis := by
  intro c now
  have run : Run smallStart (institutionShown [.key .down]).1 (institutionShown [.key .down]).2 :=
    run_smallRun (by decide)
  obtain ⟨selects, acts⟩ :=
    Console.row_selected_unless_stranded (run.turns .still) Console.Redraw.keeps_still rfl
  have selects := selects.resolve_right (by decide)
  have count : c.rows.length = 2 := by decide
  have some_there : c.rows ≠ [] := List.length_pos_iff.1 (by omega)
  obtain ⟨row, g, selected, loaded, member, handled⟩ :=
    acts some_there selects (by decide) .enter (.inr rfl)
  exact ⟨count, count ▸ selects some_there, row, g, selected, loaded, member, handled now⟩

/-- Before that, no row is selected, whether or not the page is drawn, and Space does nothing. -/
theorem no_row_selected_of_institutions_last :
    let ended := institutionShown []
    let c := ended.2.console
    let now : Moment := ⟨0, 2026, 3, 14, 9, 0⟩
    Run smallStart ended.1 ended.2 ∧ c.rows.length = 2 ∧ c.dialogs = [] ∧ ¬ c.SelectsRow ∧
      (∀ redraw : Console.Redraw, redraw.Keeps → ∀ width height,
        (redraw c width height).selected = none) ∧
      c.handle (.key (.char ' ')) now = (c, []) := by
  intro ended c now
  have unselected : c.selection.selected = none := by decide
  have count : c.rows.length = 2 := by decide
  refine ⟨run_smallRun (by decide), count, by decide, fun selects => ?_,
    fun redraw keeps width height => ?_, by decide⟩
  · obtain ⟨i, -, selected⟩ := selects (List.length_pos_iff.1 (by omega))
    cases unselected.symm.trans selected
  · exact (keeps c width height (by rw [unselected]; nofun)).trans unselected

end Session

end SettingsConsole
