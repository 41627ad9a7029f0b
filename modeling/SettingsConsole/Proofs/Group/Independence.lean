import SettingsConsole.Proofs.Group.History

/-!
# Edits of different settings

An edit looks at the setting that it edits, at the profile and at what the group waits for, and it
changes the value of its setting only.  So an edit that just updates its setting does the same after
an edit of another one (`Sets.assign`), and edits of settings with different keys lead to one group
in whatever order they come (`edits_in_any_order`).
-/

namespace SettingsConsole

namespace Setting

/-- Values given to settings with different keys do not disturb each other. -/
theorem assign_comm {key other : String} (ne : other ≠ key) (v w : Value)
    (settings : List Setting) :
    assign other w (assign key v settings) = assign key v (assign other w settings) := by
  induction settings with
  | nil => rfl
  | cons s rest ih =>
    by_cases its : s.key = key
    · have elsewhere : s.key ≠ other := fun e => ne (e.symm.trans its)
      simp only [assign, if_pos its, if_neg elsewhere]
    · by_cases others : s.key = other
      · simp only [assign, if_neg its, if_pos others]
      · simp only [assign, if_neg its, if_neg others, ih]

end Setting

namespace Operation

/-- What operations lead to, carried out one after the other. -/
def results : List Operation → SettingGroup → List (Except Refusal EditOutcome)
  | [], _ => []
  | op :: later, g => (op.perform g).2 :: results later (op.perform g).1

end Operation

namespace SettingGroup

open Operation

variable {g : SettingGroup} {op op₁ op₂ : Operation} {ops ops' : List Operation}
  {key other : String} {v w : Setting.Value}

/-- The operation edits a setting, and nothing but the new value comes of it. -/
structure UpdatesOnly (g : SettingGroup) (op : Operation) : Prop where
  edits : op.edits?.isSome
  updated : (op.perform g).2 = .ok .updated

/-- The operation gives the setting with the key a value, and no save follows. -/
structure Sets (g : SettingGroup) (op : Operation) (key : String) (v : Setting.Value) : Prop where
  idle : g.phase = .idle
  gathers : ¬ g.profile.savesOnEdit
  edits : op.edits? = some key
  accepts : ∃ s, g.setting? key = some s ∧ Accepts g.profile s op v

/-! ## What such an edit does -/

theorem afterEdit_of_gathers (gathers : ¬ g.profile.savesOnEdit) :
    g.afterEdit = (g, .ok .updated) :=
  if_neg gathers

theorem Sets.perform (h : g.Sets op key v) : op.perform g = (g.assign key v, .ok .updated) := by
  obtain ⟨s, found, accepts⟩ := h.accepts
  have free := obstacle?_of_idle h.idle
  have after : (g.assign key v).afterEdit = (g.assign key v, .ok .updated) :=
    afterEdit_of_gathers h.gathers
  have edits := h.edits
  cases accepts with
  | off on =>
    cases edits
    simp only [Operation.perform, toggle, free, found, on, after]
  | on off here known =>
    cases edits
    simp only [Operation.perform, toggle, free, found, off, here]
    rcases known with silent | saved
    · simp only [silent, after]
    · cases s.terms with
      | none => exact after
      | some terms => simp only [if_pos saved, after]
  | option kind listed =>
    cases edits
    simp only [Operation.perform, select, free, found, kind, if_pos listed, after]
  | cleared kind =>
    cases edits
    simp only [Operation.perform, select, free, found, kind, if_true, after]
  | text kind filled =>
    cases edits
    simp only [Operation.perform, editText, free, found, kind, if_neg filled, after]

theorem UpdatesOnly.exists_sets (h : g.UpdatesOnly op) : ∃ key v, g.Sets op key v := by
  have step := g.performed op
  rw [h.updated] at step
  obtain ⟨key, edits⟩ := Option.isSome_iff_exists.1 h.edits
  generalize (op.perform g).1 = g' at step
  cases step with
  | edited edit _ gathers =>
    cases edit with
    | assigned idle its found accepts => exact ⟨_, _, idle, gathers, its, _, found, accepts⟩
    | agreed => cases edits
    | untouched => cases edits
  | declined => cases edits

/-- An edit finds its setting as it was, whatever another setting has been given. -/
theorem Sets.assign (h : g.Sets op key v) (ne : key ≠ other) (w : Setting.Value) :
    (g.assign other w).Sets op key v := by
  obtain ⟨s, found, accepts⟩ := h.accepts
  have still : (g.assign other w).setting? key = some s :=
    (Setting.find?_assign_of_ne ne w g.settings).trans found
  exact ⟨h.idle, h.gathers, h.edits, s, still, accepts⟩

theorem Sets.updatesOnly (h : g.Sets op key v) : g.UpdatesOnly op :=
  ⟨Option.isSome_of_eq_some h.edits, by rw [h.perform]⟩

theorem assign_comm (ne : other ≠ key) (v w : Setting.Value) :
    (g.assign key v).assign other w = (g.assign other w).assign key v :=
  congrArg (SettingGroup.mk g.profile · g.phase) (Setting.assign_comm ne v w g.settings)

/-! ## Two edits -/

/-- Two edits of different settings, each of which just updates its own, do so in either order and
lead to one group. -/
theorem UpdatesOnly.comm (h₁ : g.UpdatesOnly op₁) (h₂ : g.UpdatesOnly op₂)
    (ne : op₁.edits? ≠ op₂.edits?) :
    (op₁.perform g).1.UpdatesOnly op₂ ∧
      (op₂.perform (op₁.perform g).1).1 = (op₁.perform (op₂.perform g).1).1 := by
  obtain ⟨key₁, v₁, sets₁⟩ := h₁.exists_sets
  obtain ⟨key₂, v₂, sets₂⟩ := h₂.exists_sets
  have apart : key₁ ≠ key₂ := fun e => ne (by rw [sets₁.edits, sets₂.edits, e])
  have later₁ := sets₁.assign apart v₂
  have later₂ := sets₂.assign apart.symm v₁
  rw [sets₁.perform, sets₂.perform]
  refine ⟨later₂.updatesOnly, ?_⟩
  rw [later₁.perform, later₂.perform]
  exact assign_comm apart.symm v₁ v₂

/-! ## Any number of edits -/

/-- After one of several edits of different settings the others still just update their own. -/
theorem UpdatesOnly.forall_after (first : g.UpdatesOnly op) (later : ∀ op' ∈ ops, g.UpdatesOnly op')
    (distinct : ((op :: ops).map edits?).Nodup) :
    ∀ op' ∈ ops, (op.perform g).1.UpdatesOnly op' := by
  intro op' member
  have apart : op.edits? ≠ op'.edits? := fun e =>
    (List.nodup_cons.1 distinct).1 (e ▸ List.mem_map_of_mem member)
  exact (first.comm (later op' member) apart).1

theorem results_of_updatesOnly (update : ∀ op ∈ ops, g.UpdatesOnly op)
    (distinct : (ops.map edits?).Nodup) : ∀ r ∈ results ops g, r = .ok .updated := by
  induction ops generalizing g with
  | nil => nofun
  | cons op ops ih =>
    obtain ⟨first, later⟩ := List.forall_mem_cons.1 update
    have rest := ih (first.forall_after later distinct) (List.nodup_cons.1 distinct).2
    exact List.forall_mem_cons.2 ⟨first.updated, rest⟩

theorem performAll_perm (perm : ops.Perm ops') (update : ∀ op ∈ ops, g.UpdatesOnly op)
    (distinct : (ops.map edits?).Nodup) : performAll ops g = performAll ops' g := by
  -- For every group: the edits that follow meet the one that the first has changed.
  induction perm generalizing g with
  | nil => rfl
  | cons op _ ih =>
    obtain ⟨first, later⟩ := List.forall_mem_cons.1 update
    exact ih (first.forall_after later distinct) (List.nodup_cons.1 distinct).2
  | swap op₁ op₂ ops =>
    obtain ⟨second, rest⟩ := List.forall_mem_cons.1 update
    have apart : op₂.edits? ≠ op₁.edits? := fun e =>
      (List.nodup_cons.1 distinct).1 (e ▸ List.mem_cons_self)
    have swapped := (second.comm (rest op₁ List.mem_cons_self) apart).2
    exact congrArg (performAll ops) swapped
  | trans before _ ih₁ ih₂ =>
    have kept := fun op member => update op (before.mem_iff.2 member)
    exact (ih₁ update distinct).trans (ih₂ kept ((before.map edits?).nodup_iff.1 distinct))

/-- Edits of settings with different keys, each of which just updates its setting in a group, do so
in whatever order they come, and every order leads to the same group, with its values, its changes
and the request that it would send.  That the group may be edited, and that it does not save on an
edit, shows in that such an edit goes through. -/
theorem edits_in_any_order (g : SettingGroup) :
    (∀ {op₁ op₂ : Operation}, g.UpdatesOnly op₁ → g.UpdatesOnly op₂ → op₁.edits? ≠ op₂.edits? →
      (op₂.perform (op₁.perform g).1).2 = .ok .updated ∧
      (op₁.perform (op₂.perform g).1).2 = .ok .updated ∧
      (op₂.perform (op₁.perform g).1).1 = (op₁.perform (op₂.perform g).1).1) ∧
    ∀ {ops ops' : List Operation}, ops.Perm ops' → (∀ op ∈ ops, g.UpdatesOnly op) →
      (ops.map edits?).Nodup →
      (∀ r ∈ results ops' g, r = .ok .updated) ∧ performAll ops' g = performAll ops g := by
  refine ⟨fun h₁ h₂ ne => ?_, fun perm update distinct => ⟨?_, ?_⟩⟩
  · obtain ⟨after₁, same⟩ := h₁.comm h₂ ne
    exact ⟨after₁.updated, (h₂.comm h₁ ne.symm).1.updated, same⟩
  · have kept := fun op member => update op (perm.mem_iff.2 member)
    exact results_of_updatesOnly kept ((perm.map edits?).nodup_iff.1 distinct)
  · exact (performAll_perm perm update distinct).symm

/-- An add-on is switched off, a text replaced for the second time and a level selected, in two
orders. -/
theorem edits_in_any_order_addons :
    let p := Profile.addons "https://osf.example/api/v1/project/abc12/" "support@osf.io"
    let settings := [Setting.flag "dropbox" "Dropbox" true, .text "title" "Title" "Demo" true,
      .choice "level" "Level" [⟨"private", "Private"⟩, ⟨"public", "Public"⟩] (some "public") false]
    let g := (played p settings [.operate (.editText "title" "Draft"), .fail]).2
    let off := Operation.toggle "dropbox"
    let retitled := Operation.editText "title" "Synth"
    let closed := Operation.select "level" (some "private")
    (∀ op ∈ [off, retitled, closed], g.UpdatesOnly op) ∧
      off.edits? ≠ retitled.edits? ∧
      (off.perform (retitled.perform g).1).1 = (retitled.perform (off.perform g).1).1 ∧
      [off, retitled, closed].Perm [closed, off, retitled] ∧
      ([off, retitled, closed].map edits?).Nodup ∧
      (∀ r ∈ results [closed, off, retitled] g, r = .ok .updated) ∧
      performAll [closed, off, retitled] g = performAll [off, retitled, closed] g ∧
      (performAll [closed, off, retitled] g).changes = ⟨["dropbox"], [], ["title", "level"]⟩ := by
  intro p settings g off retitled closed
  have first : g.UpdatesOnly off := ⟨rfl, rfl⟩
  have second : g.UpdatesOnly retitled := ⟨rfl, rfl⟩
  have third : g.UpdatesOnly closed := ⟨rfl, rfl⟩
  have update : ∀ op ∈ [off, retitled, closed], g.UpdatesOnly op := by
    simp only [List.forall_mem_cons]
    exact ⟨first, second, third, List.forall_mem_nil _⟩
  have apart : off.edits? ≠ retitled.edits? := by decide
  have perm : [off, retitled, closed].Perm [closed, off, retitled] := by decide
  have distinct : ([off, retitled, closed].map edits?).Nodup := by decide
  obtain ⟨two, any⟩ := edits_in_any_order g
  obtain ⟨results, same⟩ := any perm update distinct
  exact ⟨update, apart, (two first second apart).2.2.symm, perm, distinct, results, same, by decide⟩

end SettingGroup

end SettingsConsole
