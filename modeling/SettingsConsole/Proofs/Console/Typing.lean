import SettingsConsole.Proofs.Console.Settlement
import SettingsConsole.Proofs.Console.TextEdit

/-!
# Typing

While a text is edited, a key is meant for the text: a character comes to its end, backspace takes
the last one away, and any other key does nothing.  Only Escape closes the dialog and only Enter
hands the text over, so a letter that is a command or an answer elsewhere never leaves the text
(`Console.typing_edits_text_only`).
-/

namespace SettingsConsole

/-- A text after a key: a character comes to its end, and backspace takes the last one away. -/
def retyped (text : List Char) : Key → List Char
  | .char ch => text ++ [ch]
  | .backspace => text.dropLast
  | _ => text

namespace SettingGroup

variable {g : SettingGroup} {key content : String} {s : Setting}

/-- A blank text for a required setting is refused, whatever the group waits for. -/
theorem editText_of_blank (found : g.setting? key = some s) (required : s.kind = .text true)
    (blank : Text.saysNothing content) :
    g.editText key content = (g, .error (g.obstacle?.getD (.blank s.label))) := by
  unfold editText
  cases g.obstacle? with
  | some r => rfl
  | none => simp [found, required, blank]

end SettingGroup

namespace Console

/-- The console after keys, one after the other, and what they ask for. -/
def pressAll (c : Console) : List (Key × Moment) → Step
  | [] => (c, [])
  | (key, now) :: later =>
    let (c, effects) := c.handle (.key key) now
    let (c, more) := pressAll c later
    (c, effects ++ more)

variable {c : Console} {id : GroupId} {name label : String} {text : List Char} {key : Key}
  {rest : List Dialog} {g : SettingGroup}

/-- The console with this text in the dialog at the front. -/
def editing (c : Console) (id : GroupId) (name label : String) (text : List Char)
    (rest : List Dialog) : Console :=
  { c with dialogs := .editText id name label (String.ofList text) :: rest }

/-! ## One key -/

theorem typeInto?_ofList (id : GroupId) (name label : String) (text : List Char)
    (press : key ≠ .enter ∧ key ≠ .escape) :
    typeInto? (String.ofList text) key = some (String.ofList (retyped text key)) ∨
      typeInto? (String.ofList text) key = none ∧ retyped text key = text ∧
        dialogAnswer? (.editText id name label (String.ofList text)) key = none := by
  cases key with
  | char ch =>
    have typed : (String.ofList text).push ch = String.ofList (text ++ [ch]) :=
      String.toList_inj.1 (by rw [String.toList_push, String.toList_ofList, String.toList_ofList])
    exact .inl (congrArg some typed)
  | backspace =>
    have dropped : (String.ofList text).toList.dropLast = text.dropLast := by
      rw [String.toList_ofList]
    exact .inl (congrArg (fun cs => some (String.ofList cs)) dropped)
  | enter => exact absurd rfl press.1
  | escape => exact absurd rfl press.2
  | tab | backTab | left | right | up | down | other => exact .inr ⟨rfl, rfl, rfl⟩

/-- A key that neither closes the dialog nor hands the text over changes the text at most. -/
theorem handle_editing (c : Console) (press : key ≠ .enter ∧ key ≠ .escape) (now : Moment) :
    (c.editing id name label text rest).handle (.key key) now =
      (c.editing id name label (retyped text key) rest, []) := by
  show pressed _ key now.millis = _
  unfold pressed typed?
  rcases typeInto?_ofList id name label text press with typed | ⟨untyped, same, unanswered⟩
  · simp [editing, typed]
  · simp [editing, untyped, same, unanswered]

theorem handle_escape_editing (c : Console) (now : Moment) :
    (c.editing id name label text rest).handle (.key .escape) now =
      ({ c with dialogs := rest }, []) := rfl

theorem handle_enter_editing (c : Console) (now : Moment) :
    (c.editing id name label text rest).handle (.key .enter) now =
      match c.group? id with
      | none => ({ c with dialogs := rest }, [])
      | some g =>
        concludeEdit { c with dialogs := rest } (g.editText name (String.ofList text)) now.millis :=
  rfl

/-! ## Any number of keys -/

/-- Keys that neither close the dialog nor hand the text over change the text at most. -/
theorem pressAll_editing (c : Console) (presses : List (Key × Moment))
    (typing : ∀ press ∈ presses, press.1 ≠ .enter ∧ press.1 ≠ .escape) :
    (c.editing id name label text rest).pressAll presses =
      (c.editing id name label ((presses.map Prod.fst).foldl retyped text) rest, []) := by
  induction presses generalizing text with
  | nil => rfl
  | cons press later ih =>
    obtain ⟨first, others⟩ := List.forall_mem_cons.1 typing
    unfold pressAll
    rw [handle_editing c first]
    simp only [ih others]
    rfl

/-- A refusal that leaves the group as it is leaves the page as it is, and says why. -/
theorem concludeEdit_error (loaded : c.group? id = some g) (r : Refusal) (now : Nat) :
    c.concludeEdit (g, .error r) now = ({ c with status := some r.message }, []) := by
  have same : c.putGroup g = c := by
    unfold putGroup
    rw [replaceGroup_self (id_of_group? loaded ▸ loaded)]
  show (Console.refuse (c.putGroup g) r, []) = _
  rw [same]
  rfl

/-- While a text is edited, keys other than Enter and Escape, however many, change nothing but the
text: each character comes to its end, and backspace takes the last one away if there is one.  Then
Escape only closes the dialog.  Enter closes it too and gives exactly this text to the setting it
was opened for, if the group is loaded: a text that is accepted is what the setting shows, and a
blank one for a required setting is refused and nothing but the status line changes. -/
theorem typing_edits_text_only {buffer : String}
    (front : c.dialogs = .editText id name label buffer :: rest) (presses : List (Key × Moment))
    (typing : ∀ press ∈ presses, press.1 ≠ .enter ∧ press.1 ≠ .escape) (now : Moment) :
    let text := String.ofList ((presses.map Prod.fst).foldl retyped buffer.toList)
    let typed : Console := { c with dialogs := .editText id name label text :: rest }
    let closed : Console := { c with dialogs := rest }
    c.pressAll presses = (typed, []) ∧
    typed.handle (.key .escape) now = (closed, []) ∧
    (c.group? id = none → typed.handle (.key .enter) now = (closed, [])) ∧
    ∀ g, c.group? id = some g →
      typed.handle (.key .enter) now = closed.concludeEdit (g.editText name text) now.millis ∧
      (∀ outcome, (g.editText name text).2 = .ok outcome →
        ∃ g' s, (typed.handle (.key .enter) now).1.group? id = some g' ∧
          g'.setting? name = some s ∧ s.current = .text text) ∧
      ∀ s, g.setting? name = some s → s.kind = .text true → Text.saysNothing text →
        typed.handle (.key .enter) now =
          ({ closed with status := some (g.obstacle?.getD (.blank s.label)).message }, []) := by
  intro text typed closed
  have opened : c = c.editing id name label buffer.toList rest := by
    unfold editing
    rw [String.ofList_toList, ← front]
  have enter : typed.handle (.key .enter) now = match c.group? id with
      | none => (closed, [])
      | some g => closed.concludeEdit (g.editText name text) now.millis :=
    c.handle_enter_editing now
  refine ⟨?_, c.handle_escape_editing now, fun gone => by rw [enter, gone], fun g loaded => ?_⟩
  · rw [opened]
    exact c.pressAll_editing presses typing
  · have given : typed.handle (.key .enter) now =
        closed.concludeEdit (g.editText name text) now.millis := by rw [enter, loaded]
    have still : closed.group? id = some g := loaded
    refine ⟨given, fun outcome accepted => ?_, fun s found required blank => ?_⟩
    · rw [given]
      refine (applied_or_refused still name text now.millis).resolve_right ?_
      rintro ⟨r, refused, -⟩
      cases accepted.symm.trans refused
    · rw [given, SettingGroup.editText_of_blank found required blank, concludeEdit_error still]

/-- The title is typed anew with letters that are commands elsewhere, and then taken away but for a
blank. -/
theorem typing_edits_text_only_title :
    let now : Moment := ⟨0, 2026, 3, 14, 9, 0⟩
    let c := (Session.smallRun [.key (.char ' '), .pageFetched (.ok Session.smallPage)]).2.console
    let keys : List Key := [.char 'q', .char 'y', .backspace, .tab, .backspace, .backspace,
      .backspace, .backspace, .backspace, .backspace, .char 'n', .char 's', .backspace, .backspace,
      .char ' ']
    let typed : Console := { c with dialogs := [.editText .details "title" "Title" " "] }
    c.dialogs = [.editText .details "title" "Title" "Demo"] ∧
      c.pressAll (keys.map (·, now)) = (typed, []) ∧
      typed.handle (.key .enter) now =
        ({ c with dialogs := [], status := some "Title cannot be blank" }, []) := by
  intro now c keys typed
  have front : c.dialogs = [.editText .details "title" "Title" "Demo"] := by decide
  have title : (c.group? .details).bind (fun g => (g.setting? "title").map fun s =>
      (g.obstacle?, s.kind, s.label)) = some (none, .text true, "Title") := by decide
  obtain ⟨g, loaded, of_group⟩ := Option.bind_eq_some_iff.1 title
  obtain ⟨s, found, its⟩ := Option.map_eq_some_iff.1 of_group
  obtain ⟨free, kind, called⟩ : g.obstacle? = none ∧ s.kind = .text true ∧ s.label = "Title" := by
    simpa using its
  have left : String.ofList (((keys.map (·, now)).map Prod.fst).foldl retyped "Demo".toList) =
      " " := by decide
  obtain ⟨types, -, -, enter⟩ :=
    typing_edits_text_only front (keys.map (·, now)) (by decide) now
  rw [left] at types enter
  have refused := (enter g loaded).2.2 s found kind (by decide)
  rw [free, called] at refused
  exact ⟨front, types, refused⟩

end Console

end SettingsConsole
