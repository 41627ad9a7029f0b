import SettingsConsole.Changes
import SettingsConsole.Group.Message

/-!
# The save cycle of a settings group

A group of settings is edited, saved with one request, and reconciled with the outcome.  Its phase
says what it waits for: nothing, the answer to a question, or the outcome of a request.  Edits and
saves are accepted only while it waits for nothing.  No operation talks to the service: a save hands
out a `Submission`, and the outcome is reported by `succeed` or `fail`.

Operations that may be refused give the group afterwards together with the outcome or the refusal.
-/

namespace SettingsConsole

/-- What a group waits for. -/
inductive Phase where
  | idle
  /-- The answer to the question about a removal. -/
  | confirming
  /-- The answer to the question about the terms of a setting. -/
  | consenting (key : String)
  /-- The outcome of a request. -/
  | saving
  deriving DecidableEq, Repr

/-- A group of settings. -/
structure SettingGroup where
  profile : Profile
  settings : List Setting
  phase : Phase
  deriving DecidableEq, Repr

/-- A group as a user sees it. -/
inductive GroupStatus where
  | clean
  | edited
  | asking
  | saving
  deriving DecidableEq, Repr

/-- The group after an operation, with its outcome or the refusal. -/
abbrev Answer (α : Type) := SettingGroup × Except Refusal α

namespace SettingGroup

/-! ## Reading a group -/

/-- A group whose settings count as saved. -/
def create (profile : Profile) (settings : List Setting) : SettingGroup :=
  ⟨profile, settings.map Setting.acknowledged, .idle⟩

/-- The name of the group. -/
def id (g : SettingGroup) : GroupId := g.profile.id

/-- The first setting with a key. -/
def setting? (g : SettingGroup) (key : String) : Option Setting := Setting.find? g.settings key

/-- The unsaved changes. -/
def changes (g : SettingGroup) : Changes := .ofSettings g.settings

/-- Whether some setting differs from what is saved. -/
def isDirty (g : SettingGroup) : Bool := !g.changes.isEmpty

/-- Whether a request is out. -/
def isSaving (g : SettingGroup) : Bool := g.phase = .saving

/-- The group as a user sees it. -/
def status (g : SettingGroup) : GroupStatus :=
  match g.phase with
  | .saving => .saving
  | .confirming | .consenting _ => .asking
  | .idle => if g.isDirty then .edited else .clean

/-- Why the group cannot be edited now, if it cannot. -/
def obstacle? (g : SettingGroup) : Option Refusal :=
  match g.phase with
  | .idle => none
  | .saving => some .saving
  | .confirming | .consenting _ => some .promptOpen

/-- The request that carries the complete present state of the group. -/
def submission (g : SettingGroup) : Submission :=
  ⟨g.id, g.profile.method, g.profile.endpoint, g.profile.buildPayload g.settings⟩

/-- The announcement of the values shown now. -/
def successNotice (g : SettingGroup) : Option Notice :=
  (g.profile.successText g.settings).map fun text => ⟨text, Profile.noticeLife⟩

/-- The alert for a failed save of the values shown now. -/
def failureAlert (g : SettingGroup) : Alert :=
  .requestFailed (g.profile.failureText g.settings) g.profile.support

/-- The warning about unsaved changes, if there are some. -/
def unsavedWarning? (g : SettingGroup) : Option String :=
  if g.isDirty then
    some ("The changes on " ++ g.profile.label ++ " setting are not submitted!")
  else none

/-- The question before what is switched off is taken away. -/
def removalPrompt (g : SettingGroup) : Prompt where
  group := g.id
  kind := .removal
  title := g.profile.confirmTitle
  message := ""
  items := (g.settings.filter fun s => s.key ∈ g.changes.turnedOff).map Setting.label
  confirmLabel := g.profile.confirmLabel

/-- The question about the terms of a setting. -/
def termsPrompt (g : SettingGroup) (s : Setting) (terms : String) : Prompt where
  group := g.id
  kind := .terms s.key
  title := "Enable " ++ s.label ++ "?"
  message := terms
  items := [s.label]
  confirmLabel := "Confirm"

/-! ## Saving -/

/-- Takes the values shown now as saved. -/
def captureBaseline (g : SettingGroup) : SettingGroup :=
  { g with settings := g.settings.map Setting.acknowledged }

/-- Gives the first setting with a key a new value. -/
def assign (g : SettingGroup) (key : String) (value : Setting.Value) : SettingGroup :=
  { g with settings := Setting.assign key value g.settings }

/-- The group with a request out for its present state. -/
def startSaving (g : SettingGroup) : SettingGroup := { g with phase := .saving }

/-- Saves the group: nothing is sent if nothing changed, and a removal is asked about first. -/
def beginSave (g : SettingGroup) : Answer SaveOutcome :=
  match g.obstacle? with
  | some r => (g, .error r)
  | none =>
    if g.changes.isEmpty then (g, .ok (.unchanged g.successNotice))
    else if g.profile.confirmsRemoval ∧ ¬ g.changes.turnedOff.isEmpty then
      ({ g with phase := .confirming }, .ok (.confirm g.removalPrompt))
    else (g.startSaving, .ok (.submit g.submission))

/-- Answers the question about a removal: the request is sent, or what was switched off is restored
and other edits stay. -/
def resolveRemoval (g : SettingGroup) (confirmed : Bool) : Answer SaveOutcome :=
  if g.phase = .confirming then
    if confirmed then (g.startSaving, .ok (.submit g.submission))
    else
      let declined := g.changes.turnedOff
      let restore (s : Setting) : Setting := if s.key ∈ declined then s.restored else s
      ({ g with settings := g.settings.map restore, phase := .idle }, .ok (.rolledBack declined))
  else (g, .error .nothingAsked)

/-- The request succeeded: the values shown now are saved. -/
def succeed (g : SettingGroup) : SettingGroup × Success :=
  ({ g.captureBaseline with phase := .idle }, ⟨g.successNotice, g.profile.reloadDelay⟩)

/-- The request failed: every edit stays, so that the save can be tried again. -/
def fail (g : SettingGroup) : SettingGroup × Alert :=
  ({ g with phase := .idle }, g.failureAlert)

/-! ## Editing -/

/-- What follows an accepted edit: a save, where every edit is saved at once. -/
def afterEdit (g : SettingGroup) : Answer EditOutcome :=
  if g.profile.savesOnEdit then
    let (g, outcome) := g.beginSave
    (g, outcome.map .save)
  else (g, .ok .updated)

/-- Switches a flag.  Switching on may happen elsewhere, and it asks about the terms unless the flag
is on in what is saved. -/
def toggle (g : SettingGroup) (key : String) : Answer EditOutcome :=
  match g.obstacle? with
  | some r => (g, .error r)
  | none =>
    match g.setting? key with
    | none => (g, .error (.unknownSetting key))
    | some s =>
      match s.current with
      | .flag true => (g.assign key (.flag false)).afterEdit
      | .flag false =>
        match g.profile.enableUrl with
        | some url => (g, .ok (.redirect url))
        | none =>
          let g := g.assign key (.flag true)
          match s.terms with
          | some terms =>
            if s.saved.isEnabled then g.afterEdit
            else ({ g with phase := .consenting s.key }, .ok (.prompt (g.termsPrompt s terms)))
          | none => g.afterEdit
      | _ => (g, .error (.wrongKind key))

/-- Selects an option, or none where that is allowed. -/
def select (g : SettingGroup) (key : String) (value : Option String) : Answer EditOutcome :=
  match g.obstacle? with
  | some r => (g, .error r)
  | none =>
    match g.setting? key with
    | none => (g, .error (.unknownSetting key))
    | some s =>
      match s.kind with
      | .enumerated options clearable =>
        let allowed := match value with
          | some v => options.any (·.value = v)
          | none => clearable
        if allowed then (g.assign key (.choice value)).afterEdit
        else (g, .error (.notAnOption key value))
      | _ => (g, .error (.wrongKind key))

/-- Replaces a text; a required one may not become blank. -/
def editText (g : SettingGroup) (key content : String) : Answer EditOutcome :=
  match g.obstacle? with
  | some r => (g, .error r)
  | none =>
    match g.setting? key with
    | none => (g, .error (.unknownSetting key))
    | some s =>
      match s.kind with
      | .text required =>
        if required ∧ Text.saysNothing content then (g, .error (.blank s.label))
        else (g.assign key (.text content)).afterEdit
      | _ => (g, .error (.wrongKind key))

/-- Answers the question about terms: a refusal switches the setting off again. -/
def answerTerms (g : SettingGroup) (accepted : Bool) : Answer EditOutcome :=
  match g.phase with
  | .consenting key =>
    let g := { g with phase := .idle }
    if accepted then g.afterEdit
    else
      match g.setting? key with
      | none => (g, .error (.unknownSetting key))
      | some _ => (g.assign key (.flag false), .ok .updated)
  | _ => (g, .error .nothingAsked)

/-! ## Small facts -/

theorem obstacle?_eq_none_iff (g : SettingGroup) : g.obstacle? = none ↔ g.phase = .idle := by
  unfold obstacle?
  split <;> simp [*]

end SettingGroup

end SettingsConsole
