import SettingsConsole.Proofs.Console.Handled

/-!
# What the console offers for a group

On the tab of a group its rows can be activated, the question it asks can be answered, and on most
tabs a key saves it (`Offers`).  On the bare page a key asks for nothing else
(`offers_of_operation?`), and on the tab of the group keys ask for all of it, texts apart
(`exists_operation?_of_offers`).  What is offered may lead to a request being sent, one operation
after the other (`CanSend`).
-/

namespace SettingsConsole

/-- The tab that shows a group. -/
def GroupId.tab : GroupId → Tab
  | .details => .details
  | .addons => .addons
  | .wiki => .wiki
  | .comments => .comments
  | .institution => .institution
  | .account _ => .accounts

theorem GroupId.tab_of_saveTarget? {tab : Tab} {id : GroupId} (h : tab.saveTarget? = some id) :
    id.tab = tab ∧ ¬ id.isAccount := by
  cases tab <;> cases h <;> exact ⟨rfl, Bool.false_ne_true⟩

namespace SettingGroup

/-! ## What the console offers -/

/-- What the console offers for a group on its tab: to activate a row, to answer the question that
is open, and the save key if it saves the group. -/
def Offers (g : SettingGroup) : Operation → Prop
  | .toggle key => ∃ row ∈ g.rows, row.key = key ∧ row.action = .toggle
  | .select key value => ∃ row ∈ g.rows, row.key = key ∧ row.action = .select value
  | .editText key _ => ∃ row ∈ g.rows, row.key = key ∧ row.action = .edit
  | .answerTerms _ => ∃ key, g.phase = .consenting key
  | .beginSave => g.id.tab.saveTarget? = some g.id
  | .resolveRemoval _ => g.phase = .confirming

theorem group_of_mem_rows {g : SettingGroup} {row : Row} (member : row ∈ g.rows) :
    row.group = g.id := by
  obtain ⟨s, -, member⟩ := List.mem_flatMap.1 member
  unfold settingRows at member
  split at member
  · rw [List.mem_singleton.1 member]
    rfl
  · rw [List.mem_singleton.1 member]
    rfl
  · rcases List.mem_append.1 member with option | cleared
    · obtain ⟨o, -, rfl⟩ := List.mem_map.1 option
      rfl
    · split at cleared
      · rw [List.mem_singleton.1 cleared]
        rfl
      · cases cleared

end SettingGroup

namespace Console

variable {c : Console} {g : SettingGroup} {op : Operation} {key : Key} {row : Row}

/-- A row that is shown is one of the first group of its name. -/
theorem mem_rows_of_selectedRow? (selected : c.selectedRow? = some row)
    (loaded : c.group? row.group = some g) : row ∈ g.rows := by
  obtain ⟨i, -, at_i⟩ := Option.bind_eq_some_iff.1 selected
  obtain ⟨h, shown, member⟩ := List.mem_flatMap.1 (List.mem_of_getElem? at_i)
  obtain ⟨id, -, found⟩ := List.mem_filterMap.1 shown
  obtain rfl : h.id = id := by simpa using List.find?_some found
  rw [SettingGroup.group_of_mem_rows member, found] at loaded
  cases loaded
  exact member

/-- What a key on the page asks for is offered. -/
theorem offers_of_operation? (free : c.dialogs = []) {id : GroupId}
    (asked : c.operation? key = some (id, op)) (loaded : c.group? id = some g) : g.Offers op := by
  have named : g.id = id := by simpa using List.find?_some loaded
  cases c.asked_of_operation? asked with
  | answered front => cases free.symm.trans front
  | typed front => cases free.symm.trans front
  | @toggled _ row _ _ selected action =>
    exact ⟨row, mem_rows_of_selectedRow? selected loaded, rfl, action⟩
  | @selected _ row _ _ _ selected action =>
    exact ⟨row, mem_rows_of_selectedRow? selected loaded, rfl, action⟩
  | saved _ saves =>
    show g.id.tab.saveTarget? = some g.id
    rw [named, (GroupId.tab_of_saveTarget? saves).1, saves]

theorem mem_tabGroups (shown : c.tab = g.id.tab) (loaded : c.group? g.id = some g) :
    g.id ∈ c.tabGroups := by
  have listed : g.id ∈ c.groups.map SettingGroup.id :=
    List.mem_map_of_mem (List.mem_of_find?_eq_some loaded)
  unfold tabGroups
  rw [shown]
  cases name : g.id with
  | account provider =>
    rw [name] at listed
    exact List.mem_filter.2 ⟨listed, rfl⟩
  | _ => exact List.mem_singleton.2 rfl

/-- On the tab of a group each of its rows can be selected. -/
theorem exists_selectedRow? (shown : c.tab = g.id.tab) (loaded : c.group? g.id = some g)
    (member : row ∈ g.rows) : ∃ i, (c.select (some i)).selectedRow? = some row := by
  have listed : row ∈ c.rows := List.mem_flatMap.2
    ⟨g, List.mem_filterMap.2 ⟨g.id, mem_tabGroups shown loaded, loaded⟩, member⟩
  obtain ⟨i, at_i⟩ := List.mem_iff_getElem?.1 listed
  exact ⟨i, at_i⟩

/-- On the tab of an idle group, keys ask for whatever switch, option or save is offered. -/
theorem exists_operation?_of_offers (free : c.dialogs = []) (shown : c.tab = g.id.tab)
    (loaded : c.group? g.id = some g) (idle : g.phase = .idle) (offered : g.Offers op)
    (untyped : ∀ k content, op ≠ .editText k content) :
    ∃ i key, (c.select i).operation? key = some (g.id, op) := by
  cases op with
  | toggle k =>
    obtain ⟨row, member, rfl, action⟩ := offered
    obtain ⟨i, selected⟩ := exists_selectedRow? shown loaded member
    have asks := (c.select (some i)).operation?_of_selectedRow? free (.inr rfl) selected
    rw [action, SettingGroup.group_of_mem_rows member] at asks
    exact ⟨some i, .enter, asks⟩
  | select k value =>
    obtain ⟨row, member, rfl, action⟩ := offered
    obtain ⟨i, selected⟩ := exists_selectedRow? shown loaded member
    have asks := (c.select (some i)).operation?_of_selectedRow? free (.inr rfl) selected
    rw [action, SettingGroup.group_of_mem_rows member] at asks
    exact ⟨some i, .enter, asks⟩
  | editText k content => exact absurd rfl (untyped k content)
  | answerTerms accepted =>
    obtain ⟨k, waits⟩ := offered
    cases idle.symm.trans waits
  | beginSave =>
    have saves : c.tab.saveTarget? = some g.id := shown ▸ offered
    refine ⟨none, .char 's', ?_⟩
    unfold operation?
    rw [show (c.select none).dialogs = [] from free]
    show c.tab.saveTarget?.map (·, Operation.beginSave) = _
    rw [saves]
    rfl
  | resolveRemoval confirmed => cases idle.symm.trans offered

end Console

namespace SettingGroup

/-! ## Sending a request again -/

/-- The groups that offered operations lead to, one after the other. -/
inductive Leads (g : SettingGroup) : SettingGroup → Prop
  | here : Leads g g
  | offered {h op} : Leads g h → h.Offers op → Leads g (op.perform h).1

/-- Offered operations can end in a request being handed out. -/
def CanSend (g : SettingGroup) (request : Submission) : Prop :=
  ∃ h op, g.Leads h ∧ h.Offers op ∧ (op.perform h).2 = .ok (.save (.submit request))

variable {g h h₁ h' : SettingGroup} {op : Operation}

/-- A save that has something to send sends it, if need be after a question that is answered with
yes. -/
theorem CanSend.of_saved {outcome : SaveOutcome} (led : g.Leads h) (offered : h.Offers op)
    (done : op.perform h = (h', .ok (.save outcome))) (saved : Saved h₁ h' outcome)
    (dirty : ¬ h₁.changes.isEmpty) : g.CanSend h₁.submission := by
  have further : g.Leads (op.perform h).1 := led.offered offered
  rw [done] at further
  cases saved with
  | unchanged clean => exact absurd clean dirty
  | asked => exact ⟨_, .resolveRemoval true, further, rfl, rfl⟩
  | sent => exact ⟨h, op, led, offered, by rw [done]⟩

theorem afterEdit_of_savesOnEdit (saves : g.profile.savesOnEdit) :
    g.afterEdit = Operation.asEdit g.beginSave :=
  if_pos saves

theorem beginSave_of_isEmpty (idle : g.phase = .idle) (clean : g.changes.isEmpty) :
    g.beginSave = (g, .ok (.unchanged g.successNotice)) := by
  unfold beginSave
  rw [obstacle?_of_idle idle]
  exact if_pos clean

theorem canSend_by_key (idle : g.phase = .idle) (dirty : ¬ g.changes.isEmpty)
    (saves : g.id.tab.saveTarget? = some g.id) : g.CanSend g.submission := by
  obtain ⟨g', outcome, begun, saved⟩ := beginSave_saved idle
  have done : Operation.beginSave.perform g = (g', .ok (.save outcome)) :=
    congrArg Operation.asEdit begun
  exact .of_saved .here (show g.Offers .beginSave from saves) done saved dirty

end SettingGroup

end SettingsConsole
