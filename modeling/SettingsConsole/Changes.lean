import SettingsConsole.Setting

/-!
# Unsaved changes

The settings whose value differs from the acknowledged one, sorted by what the change does: it
takes something away, it grants something, or it moves between two values that both do.
-/

namespace SettingsConsole

namespace Setting

/-- What a change of value does. -/
inductive Direction where
  | off
  | on
  | across
  deriving DecidableEq, Repr

/-- What the unsaved change of a setting does, if it has one. -/
def direction? (s : Setting) : Option Direction :=
  if s.isDirty then
    match s.saved.isEnabled, s.current.isEnabled with
    | true, false => some .off
    | false, true => some .on
    | _, _ => some .across
  else none

theorem direction?_eq_none_iff (s : Setting) : s.direction? = none ↔ s.isDirty = false := by
  unfold direction?
  split
  · next h => split <;> simp [h]
  · next h => simpa using h

theorem isDirty_of_isEnabled_ne {s : Setting} (h : s.current.isEnabled ≠ s.saved.isEnabled) :
    s.isDirty :=
  decide_eq_true fun same => h (congrArg Value.isEnabled same)

theorem direction?_eq_on_iff (s : Setting) :
    s.direction? = some .on ↔ ¬ s.saved.isEnabled ∧ s.current.isEnabled := by
  constructor
  · intro on
    unfold direction? at on
    split at on
    · split at on <;> simp_all
    · cases on
  · rintro ⟨before, now⟩
    have dirty : s.isDirty := isDirty_of_isEnabled_ne fun same => before (same ▸ now)
    simp [direction?, dirty, before, now]

theorem direction?_eq_off_iff (s : Setting) :
    s.direction? = some .off ↔ s.saved.isEnabled ∧ ¬ s.current.isEnabled := by
  constructor
  · intro off
    unfold direction? at off
    split at off
    · split at off <;> simp_all
    · cases off
  · rintro ⟨before, now⟩
    have dirty : s.isDirty := isDirty_of_isEnabled_ne fun same => now (same ▸ before)
    simp [direction?, dirty, before, now]

end Setting

/-- The keys of the changed settings by what the change does, each list in settings order. -/
structure Changes where
  turnedOff : List String
  turnedOn : List String
  changed : List String
  deriving DecidableEq, Repr

namespace Changes

/-- The keys of the settings whose change does the given thing. -/
def keysOf (settings : List Setting) (d : Setting.Direction) : List String :=
  (settings.filter fun s => s.direction? = some d).map Setting.key

/-- The changes of a list of settings. -/
def ofSettings (settings : List Setting) : Changes :=
  ⟨keysOf settings .off, keysOf settings .on, keysOf settings .across⟩

/-- All keys. -/
def keys (c : Changes) : List String := c.turnedOff ++ c.turnedOn ++ c.changed

/-- Whether there is no change. -/
def isEmpty (c : Changes) : Bool := c.turnedOff.isEmpty && c.turnedOn.isEmpty && c.changed.isEmpty

/-- The number of changes. -/
def size (c : Changes) : Nat := c.turnedOff.length + c.turnedOn.length + c.changed.length

/-- Whether a key is among the changed ones. -/
def contains (c : Changes) (key : String) : Bool := key ∈ c.keys

theorem mem_keysOf {settings : List Setting} {d : Setting.Direction} {key : String} :
    key ∈ keysOf settings d ↔ ∃ s ∈ settings, s.direction? = some d ∧ s.key = key := by
  simp [keysOf, and_assoc]

theorem keysOf_eq_nil_iff {settings : List Setting} {d : Setting.Direction} :
    keysOf settings d = [] ↔ ∀ s ∈ settings, s.direction? ≠ some d := by
  simp [keysOf]

/-- There is no change exactly if no setting is dirty. -/
theorem isEmpty_ofSettings_iff (settings : List Setting) :
    (ofSettings settings).isEmpty ↔ ∀ s ∈ settings, ¬ s.isDirty := by
  simp only [isEmpty, ofSettings, Bool.and_eq_true, List.isEmpty_iff, keysOf_eq_nil_iff]
  constructor
  · rintro ⟨⟨off, on⟩, across⟩ s member
    rw [Bool.not_eq_true, ← Setting.direction?_eq_none_iff]
    cases direction : s.direction? with
    | none => rfl
    | some d =>
      cases d with
      | off => exact absurd direction (off s member)
      | on => exact absurd direction (on s member)
      | across => exact absurd direction (across s member)
  · intro clean
    have still {s : Setting} (member : s ∈ settings) (d : Setting.Direction) :
        s.direction? ≠ some d := by
      rw [(Setting.direction?_eq_none_iff s).2 (Bool.not_eq_true _ ▸ clean s member)]
      nofun
    exact ⟨⟨fun s member => still member .off, fun s member => still member .on⟩,
      fun s member => still member .across⟩

end Changes

end SettingsConsole
