import SettingsConsole.Proofs.Group.Operation

/-!
# Histories of a settings group

A history of a group is all that happened to it since it was created, the latest first, each move
with the group it met.  The console moves a group in an orderly way: the outcome of a request comes
in only while one is out, and the saved values are never set by hand.
-/

namespace SettingsConsole

/-- The question about a removal that an edit or a save ends in. -/
def EditOutcome.removalQuestion? : EditOutcome → Option Prompt
  | .save (.confirm question) => some question
  | _ => none

namespace SettingGroup

/-- What can happen to a group. -/
inductive Move where
  | operate (op : Operation)
  | succeed
  | fail
  /-- The values shown are taken as saved. -/
  | capture
  deriving DecidableEq, Repr

/-- The group after a move. -/
def Move.apply (g : SettingGroup) : Move → SettingGroup
  | .operate op => (op.perform g).1
  | .succeed => g.succeed.1
  | .fail => g.fail.1
  | .capture => g.captureBaseline

/-- Whether the console may make a move. -/
def Move.isOrderly (g : SettingGroup) : Move → Bool
  | .operate _ => true
  | .succeed | .fail => g.isSaving
  | .capture => false

/-- A move and the group it met. -/
structure Entry where
  before : SettingGroup
  move : Move
  deriving DecidableEq, Repr

/-- What an accepted operation led to. -/
def Entry.outcome? (e : Entry) : Option EditOutcome :=
  match e.move with
  | .operate op => (op.perform e.before).2.toOption
  | .succeed | .fail | .capture => none

/-- The question about a removal that came of the move. -/
def Entry.removalQuestion? (e : Entry) : Option Prompt :=
  e.outcome?.bind EditOutcome.removalQuestion?

/-- What happened to a group since it was created, the latest first, and the group it led to. -/
inductive History (p : Profile) (settings : List Setting) : List Entry → SettingGroup → Prop
  | created : History p settings [] (create p settings)
  | moved {log g} (m : Move) : History p settings log g →
      History p settings (⟨g, m⟩ :: log) (m.apply g)

/-- Whether the console may have made every move. -/
def Orderly (log : List Entry) : Prop := ∀ e ∈ log, e.move.isOrderly e.before

instance (log : List Entry) : Decidable (Orderly log) :=
  inferInstanceAs (Decidable (∀ e ∈ log, e.move.isOrderly e.before))

/-- The history that moves make, the latest first, and the group they lead to. -/
def played (p : Profile) (settings : List Setting) : List Move → List Entry × SettingGroup
  | [] => ([], create p settings)
  | m :: earlier =>
    let (log, g) := played p settings earlier
    (⟨g, m⟩ :: log, m.apply g)

theorem history_played (p : Profile) (settings : List Setting) (moves : List Move) :
    History p settings (played p settings moves).1 (played p settings moves).2 := by
  induction moves with
  | nil => exact .created
  | cons m earlier ih => exact .moved m ih

variable {p : Profile} {settings : List Setting} {log : List Entry} {g : SettingGroup}

theorem profile_apply (g : SettingGroup) (m : Move) : (m.apply g).profile = g.profile := by
  cases m with
  | operate op => exact (g.performed op).profile
  | succeed | fail | capture => rfl

theorem map_form_acknowledged (settings : List Setting) :
    (settings.map Setting.acknowledged).map Setting.form = settings.map Setting.form := by
  rw [List.map_map]
  rfl

theorem map_form_apply (g : SettingGroup) (m : Move) :
    (m.apply g).settings.map Setting.form = g.settings.map Setting.form := by
  cases m with
  | operate op => exact (g.performed op).map_form
  | succeed => exact map_form_acknowledged _
  | fail => rfl
  | capture => exact map_form_acknowledged _

theorem History.profile (h : History p settings log g) : g.profile = p := by
  induction h with
  | created => rfl
  | moved m _ ih => rw [profile_apply, ih]

/-- The settings are those that the group was created with, apart from their values. -/
theorem History.map_form (h : History p settings log g) :
    g.settings.map Setting.form = settings.map Setting.form := by
  induction h with
  | created => exact map_form_acknowledged _
  | moved m _ ih => rw [map_form_apply, ih]

theorem History.map_key (h : History p settings log g) :
    g.settings.map Setting.key = settings.map Setting.key := by
  rw [Setting.map_key_eq, Setting.map_key_eq, h.map_form]

end SettingGroup

end SettingsConsole
