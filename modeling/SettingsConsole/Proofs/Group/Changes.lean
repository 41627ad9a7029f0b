import SettingsConsole.Group.Cycle

/-!
# The changes sort the changed settings

A group is saved, asked about, taken back and guarded by the three lists of its changes.  They
sort the changed settings: what a change does says into which list its key goes, each list keeps the
order of the settings, and a changed setting is in one of them once, also where keys repeat
(`Changes.keys_perm`).  How many changes there are and which keys they hold is read off that.
-/

namespace SettingsConsole

namespace Setting

variable {s : Setting}

theorem isDirty_iff : s.isDirty ↔ s.current ≠ s.saved := decide_eq_true_iff

theorem isDirty_of_direction? {d : Direction} (does : s.direction? = some d) : s.isDirty := by
  unfold direction? at does
  split at does
  next dirty => exact dirty
  next => cases does

theorem direction?_eq_across_iff :
    s.direction? = some .across ↔
      s.current ≠ s.saved ∧ s.saved.isEnabled = s.current.isEnabled := by
  rw [← isDirty_iff]
  unfold direction?
  cases s.isDirty <;> cases s.saved.isEnabled <;> cases s.current.isEnabled <;> simp

end Setting

namespace Changes

variable {settings : List Setting} {s : Setting} {d : Setting.Direction}

theorem keysOf_append (before after : List Setting) (d : Setting.Direction) :
    keysOf (before ++ after) d = keysOf before d ++ keysOf after d := by
  rw [keysOf, List.filter_append, List.map_append]
  rfl

theorem keysOf_cons_self (does : s.direction? = some d) (rest : List Setting) :
    keysOf (s :: rest) d = s.key :: keysOf rest d := by
  rw [keysOf, List.filter_cons_of_pos (by simpa using does), List.map_cons]
  rfl

theorem keysOf_cons_of_ne (other : s.direction? ≠ some d) (rest : List Setting) :
    keysOf (s :: rest) d = keysOf rest d := by
  rw [keysOf, List.filter_cons_of_neg (by simpa using other)]
  rfl

theorem keysOf_sublist (settings : List Setting) (d : Setting.Direction) :
    (keysOf settings d).Sublist (settings.map Setting.key) :=
  List.filter_sublist.map _

/-- The keys whose change does something are those of the settings that a property of their two
values tells. -/
theorem keysOf_eq {p : Setting → Bool} (tells : ∀ s : Setting, s.direction? = some d ↔ p s)
    (settings : List Setting) : keysOf settings d = (settings.filter p).map Setting.key := by
  refine congrArg (List.map Setting.key) (List.filter_congr fun s _ => ?_)
  rw [Bool.eq_iff_iff, decide_eq_true_iff]
  exact tells s

theorem keys_ofSettings (settings : List Setting) :
    (ofSettings settings).keys = keysOf settings .off ++ keysOf settings .on ++
      keysOf settings .across :=
  rfl

/-- The three lists hold the key of every changed setting, once for each such setting. -/
theorem keys_perm (settings : List Setting) :
    (ofSettings settings).keys.Perm ((settings.filter Setting.isDirty).map Setting.key) := by
  induction settings with
  | nil => exact .refl _
  | cons s rest ih =>
    rw [keys_ofSettings] at ih ⊢
    cases does : s.direction? with
    | none =>
      have clean := (Setting.direction?_eq_none_iff s).1 does
      have elsewhere (d : Setting.Direction) : keysOf (s :: rest) d = keysOf rest d :=
        keysOf_cons_of_ne (by rw [does]; nofun) rest
      rw [List.filter_cons_of_neg (by simp [clean]), elsewhere, elsewhere, elsewhere]
      exact ih
    | some d =>
      have elsewhere (other : Setting.Direction) (ne : d ≠ other) :
          keysOf (s :: rest) other = keysOf rest other :=
        keysOf_cons_of_ne (by rw [does]; simpa using ne) rest
      rw [List.filter_cons_of_pos (Setting.isDirty_of_direction? does), List.map_cons]
      refine List.Perm.trans ?_ (ih.cons s.key)
      -- The key is first in the list of its own change; the lists before that one are passed over.
      cases d with
      | off =>
        rw [keysOf_cons_self does, elsewhere .on nofun, elsewhere .across nofun]
        exact .refl _
      | on =>
        rw [keysOf_cons_self does, elsewhere .off nofun, elsewhere .across nofun]
        exact List.perm_middle.append_right _
      | across =>
        rw [keysOf_cons_self does, elsewhere .off nofun, elsewhere .on nofun]
        exact List.perm_middle

theorem size_ofSettings (settings : List Setting) :
    (ofSettings settings).size = settings.countP Setting.isDirty := by
  have counted := (keys_perm settings).length_eq
  rw [List.length_map, ← List.countP_eq_length_filter] at counted
  rw [← counted, size, keys, List.length_append, List.length_append]

theorem contains_ofSettings_iff {key : String} :
    (ofSettings settings).contains key ↔ ∃ s ∈ settings, s.isDirty ∧ s.key = key := by
  rw [contains, decide_eq_true_iff, (keys_perm settings).mem_iff]
  simp [and_assoc]

end Changes

namespace SettingGroup

theorem isDirty_iff {g : SettingGroup} : g.isDirty ↔ ∃ s ∈ g.settings, s.current ≠ s.saved := by
  have clean := Changes.isEmpty_ofSettings_iff g.settings
  unfold isDirty changes
  rw [Bool.not_eq_true', ← Bool.not_eq_true, clean]
  simp [Setting.isDirty_iff]

theorem isSome_unsavedWarning? (g : SettingGroup) : g.unsavedWarning?.isSome = g.isDirty := by
  unfold unsavedWarning?
  cases g.isDirty <;> rfl

theorem status_eq_edited_iff {g : SettingGroup} (idle : g.phase = .idle) :
    g.status = .edited ↔ g.isDirty := by
  unfold status
  rw [idle]
  cases g.isDirty <;> simp

/-- The changes of any settings sort the changed ones, with equal keys or without: each list is
part of the keys in their order, holds the keys of just those settings whose change does what the
list is for, and no change of a text is in the list of what is taken away; there are as many changes
as changed settings, and they hold the keys of these.  A group warns about unsaved changes exactly
if some setting has changed, and while it waits for nothing it is edited exactly then. -/
theorem changes_sort_changed_settings :
    (∀ settings : List Setting,
      let c := Changes.ofSettings settings
      (c.turnedOff.Sublist (settings.map Setting.key) ∧
        c.turnedOn.Sublist (settings.map Setting.key) ∧
        c.changed.Sublist (settings.map Setting.key)) ∧
      c.size = settings.countP (fun s => s.current ≠ s.saved) ∧
      (∀ key, c.contains key ↔ ∃ s ∈ settings, s.current ≠ s.saved ∧ s.key = key) ∧
      c.turnedOff =
        (settings.filter fun s => s.saved.isEnabled ∧ ¬ s.current.isEnabled).map Setting.key ∧
      c.turnedOn =
        (settings.filter fun s => ¬ s.saved.isEnabled ∧ s.current.isEnabled).map Setting.key ∧
      c.changed = (settings.filter fun s =>
        s.current ≠ s.saved ∧ s.saved.isEnabled = s.current.isEnabled).map Setting.key ∧
      ∀ before s after, settings = before ++ s :: after →
        (∃ content, s.current = .text content) →
        c.turnedOff = (Changes.ofSettings (before ++ after)).turnedOff) ∧
    ∀ g : SettingGroup,
      (g.unsavedWarning?.isSome ↔ ∃ s ∈ g.settings, s.current ≠ s.saved) ∧
      (g.phase = .idle → (g.status = .edited ↔ ∃ s ∈ g.settings, s.current ≠ s.saved)) := by
  refine ⟨fun settings => ?_, fun g => ⟨?_, fun idle => ?_⟩⟩
  · have sublist := Changes.keysOf_sublist settings
    refine ⟨⟨sublist .off, sublist .on, sublist .across⟩, Changes.size_ofSettings settings, ?_,
      Changes.keysOf_eq (fun s => ?_) settings, Changes.keysOf_eq (fun s => ?_) settings,
      Changes.keysOf_eq (fun s => ?_) settings, ?_⟩
    · simp only [← Setting.isDirty_iff]
      exact fun key => Changes.contains_ofSettings_iff
    · rw [decide_eq_true_iff]
      exact s.direction?_eq_off_iff
    · rw [decide_eq_true_iff]
      exact s.direction?_eq_on_iff
    · rw [decide_eq_true_iff]
      exact Setting.direction?_eq_across_iff
    · rintro before s after rfl ⟨content, text⟩
      have kept : s.direction? ≠ some .off := fun off =>
        ((Setting.direction?_eq_off_iff s).1 off).2 (by rw [text]; rfl)
      show Changes.keysOf _ .off = Changes.keysOf _ .off
      rw [Changes.keysOf_append, Changes.keysOf_append, Changes.keysOf_cons_of_ne kept]
  · rw [isSome_unsavedWarning?, isDirty_iff]
  · rw [status_eq_edited_iff idle, isDirty_iff]

/-- Two settings share a key and change in opposite directions, and a flag has become a text. -/
theorem changes_sort_changed_settings_mixed :
    let title := { Setting.text "title" "Title" "Demo" true with current := .text "" }
    let before := [{ Setting.flag "s3" "Amazon S3" true with current := .flag false },
      Setting.flag "dropbox" "Dropbox" false]
    let after := [{ Setting.choice "s3" "Region" [] none true with current := .choice (some "eu") },
      { Setting.flag "wiki" "Wiki" true with current := .text "off" }]
    let settings := before ++ title :: after
    let c := Changes.ofSettings settings
    let g : SettingGroup := ⟨.addons "https://osf.example/api/v1/project/abc12/" "support@osf.io",
      settings, .idle⟩
    c = ⟨["s3"], ["s3"], ["title", "wiki"]⟩ ∧ c.size = 4 ∧ c.contains "s3" ∧
      (∃ content, title.current = .text content) ∧
      c.turnedOff = (Changes.ofSettings (before ++ after)).turnedOff ∧
      g.phase = .idle ∧ g.status = .edited ∧ g.unsavedWarning?.isSome := by
  intro title before after settings c g
  obtain ⟨sorted, guarded⟩ := changes_sort_changed_settings
  obtain ⟨-, size, contains, -, -, -, text⟩ := sorted settings
  have dirty : ∃ s ∈ g.settings, s.current ≠ s.saved := ⟨title, by decide, by decide⟩
  exact ⟨by decide, size.trans (by decide), (contains "s3").2 (by decide), ⟨"", rfl⟩,
    text before title after rfl ⟨"", rfl⟩, rfl, ((guarded g).2 rfl).2 dirty, (guarded g).1.2 dirty⟩

end SettingGroup

end SettingsConsole
