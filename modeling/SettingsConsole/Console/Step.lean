import SettingsConsole.Console.Event
import SettingsConsole.Console.Row
import SettingsConsole.Page.Groups

/-!
# Steps of the console

`Console.handle` takes the console through one event.  It talks to nobody: what has to be done
outside is returned as a list of effects, whose outcomes come back as events.

A reload never starts while a request is out, since the rebuilt groups would lose track of it; it is
put off to the next tick at which no request is out.  Leaving with unsaved changes asks first.
-/

namespace SettingsConsole

/-- The console after a step, and what it asks for. -/
abbrev Step := Console × List Effect

namespace Console

variable (c : Console)

/-! ## Loading -/

/-- Gives up all groups and asks for the whole page; nothing happens without a client. -/
def reload : Step :=
  if c.online then
    ({ c with reloadAt := none, loading := true, pageError := none, subscriptionsMessage := none
              wikiMessage := none, institutionMessage := none, groups := [] }, [.load])
  else (c, [])

/-- Installs the groups of the page.  The institution comes from another source and stays. -/
def installPage (content : PageContent) (now : Moment) : Console :=
  let institution := c.group? .institution
  { c with title := some content.node.title
           groups := content.groups c.service c.scope ++ institution.toList
           loadedAt := some now.wall }.clampSelection

/-- Installs the institutions at the end of the groups. -/
def installInstitutions (choices : InstitutionChoices) : Console :=
  { c with institutionLink := choices.primary.bind (·.link)
           groups := removeGroup .institution c.groups ++ [choices.group c.service c.scope] }

/-- The content of the page arrived, or could not be fetched. -/
def pageFetched (result : Except String PageContent) (now : Moment) : Console :=
  let c := { c with loading := false }
  match result with
  | .ok content => c.installPage content now
  | .error _ => { c with pageError := some "Could not retrieve project settings." }

/-- The notification settings arrived, or could not be fetched. -/
def subscriptionsFetched (result : Except String (List (Outline Subscription))) : Console :=
  match result with
  | .ok forest => { c with subscriptions := forest }
  | .error _ =>
    { c with subscriptionsMessage := some "Could not retrieve notification settings." }

/-- The wiki permissions arrived, or could not be fetched. -/
def wikiFetched (result : Except String (List (Outline String))) : Console :=
  match result with
  | .ok forest => { c with wikiPermissions := forest }
  | .error _ => { c with wikiMessage := some "Could not retrieve wiki settings." }

/-- The institutions arrived, or could not be fetched. -/
def institutionsFetched (result : Except String InstitutionChoices) : Console :=
  match result with
  | .ok choices => c.installInstitutions choices
  | .error _ =>
    { c with institutionMessage := some "Could not retrieve institution settings." }

/-! ## Leaving the page -/

/-- Puts a reload off while a request is out. -/
def deferReload? (now : Nat) : Option Console :=
  if c.isSaving then
    some ({ c with status := some "Reloading once pending saves finish" }.scheduleReload 0 now)
  else none

/-- Leaves the page, whatever is unsaved. -/
def finishExit (action : ExitAction) (now : Nat) : Step :=
  match action with
  | .quit => ({ c with quitting := true }, [])
  | .reload =>
    match c.deferReload? now with
    | some c => (c, [])
    | none => c.reload

/-- Leaves the page, asking first if something is unsaved. -/
def leavePage (action : ExitAction) (now : Nat) : Step :=
  match (if action = .reload then c.deferReload? now else none) with
  | some c => (c, [])
  | none =>
    if c.unsavedWarnings.isEmpty then c.finishExit action now
    else (c.pushDialog (.exitGuard c.unsavedWarnings action), [])

/-- Time has passed: notices go away, and a reload that is due starts once no request is out. -/
def tick (now : Nat) : Step :=
  let c := c.expireNotices now
  match c.reloadAt with
  | none => (c, [])
  | some t =>
    if now < t ∨ c.isSaving then (c, [])
    else { c with reloadAt := none }.leavePage .reload now

/-! ## Saving -/

/-- Follows up on the outcome of a save. -/
def applySave (id : GroupId) (outcome : SaveOutcome) (now : Nat) : Step :=
  match outcome with
  | .unchanged (some notice) => (c.postNotice id notice now, [])
  | .unchanged none => (c, [])
  | .confirm prompt => (c.pushDialog (.confirm prompt), [])
  | .submit request => (c, [.send request])
  | .rolledBack keys => ({ c with status := some ("Kept " ++ ", ".intercalate keys) }, [])

/-- Follows up on the outcome of an edit. -/
def applyEdit (id : GroupId) (outcome : EditOutcome) (now : Nat) : Step :=
  match outcome with
  | .updated => (c, [])
  | .prompt prompt => (c.pushDialog (.confirm prompt), [])
  | .save outcome => c.applySave id outcome now
  | .redirect url => (c.pushDialog (.redirect url), [])

/-- Takes over a group after an edit and follows up on the answer; an accepted edit clears what was
said about the last input. -/
def concludeEdit (answer : Answer EditOutcome) (now : Nat) : Step :=
  let (g, result) := answer
  let c := c.putGroup g
  match result with
  | .ok outcome => { c with status := none }.applyEdit g.id outcome now
  | .error r => (c.refuse r, [])

/-- Saves the group of the tab. -/
def saveTab (now : Nat) : Step :=
  match c.tab.saveTarget?.bind c.group? with
  | none => (c, [])
  | some g =>
    let (g, result) := g.beginSave
    let c := c.putGroup g
    match result with
    | .ok outcome => { c with status := none }.applySave g.id outcome now
    | .error r => (c.refuse r, [])

/-- The outcome of a request arrived.  If the group was rebuilt or is gone meanwhile, a success has
the page reloaded and a failure is reported all the same. -/
def saveSettled (id : GroupId) (result : Except String Unit) (now : Nat) : Console :=
  match c.group? id with
  | none =>
    match result with
    | .ok () => c.scheduleReload 0 now
    | .error _ =>
      c.pushDialog (.alert
        (.requestFailed "Sorry, we had trouble saving your settings." c.scope.support))
  | some g =>
    match result, g.isSaving with
    | .ok (), false => c.scheduleReload 0 now
    | .error _, false => c.pushDialog (.alert g.failureAlert)
    | .ok (), true =>
      let (g, success) := g.succeed
      let c := c.putGroup g
      let c := match success.notice with
        | some notice => c.postNotice id notice now
        | none => c
      c.scheduleReload success.reloadDelay now
    | .error _, true =>
      let (g, alert) := g.fail
      (c.putGroup g).pushDialog (.alert alert)

/-! ## Input -/

/-- Activates the selected row. -/
def activateRow (now : Nat) : Step :=
  match c.selectedRow? with
  | none => (c, [])
  | some row =>
    match c.group? row.group with
    | none => (c, [])
    | some g =>
      match row.action with
      | .toggle => c.concludeEdit (g.toggle row.key) now
      | .select value => c.concludeEdit (g.select row.key value) now
      | .edit =>
        match g.obstacle?, g.setting? row.key with
        | some r, _ => (c.refuse r, [])
        | none, none => (c, [])
        | none, some s =>
          (c.pushDialog
            (.editText row.group row.key s.label (s.current.content?.getD "")), [])

/-- Answers a prompt of a group. -/
def answerPrompt (prompt : Prompt) (accepted : Bool) (now : Nat) : Step :=
  match c.group? prompt.group with
  | none => (c, [])
  | some g =>
    match prompt.kind with
    | .removal =>
      let (g, result) := g.resolveRemoval accepted
      let c := c.putGroup g
      match result with
      | .ok outcome => c.applySave g.id outcome now
      | .error r => (c.refuse r, [])
    | .terms _ =>
      let (g, result) := g.answerTerms accepted
      let c := c.putGroup g
      match result with
      | .ok outcome => c.applyEdit g.id outcome now
      | .error r => (c.refuse r, [])

/-- Answers the dialog that is shown and takes it from the queue. -/
def answerDialog (accepted : Bool) (now : Nat) : Step :=
  match c.dialogs with
  | [] => (c, [])
  | dialog :: rest =>
    let c := { c with dialogs := rest }
    match dialog with
    | .confirm prompt => c.answerPrompt prompt accepted now
    | .exitGuard _ action => if accepted then c.finishExit action now else (c, [])
    | .editText id key _ buffer =>
      if accepted then
        match c.group? id with
        | none => (c, [])
        | some g => c.concludeEdit (g.editText key buffer) now
      else (c, [])
    | .alert _ | .redirect _ => (c, [])

/-- What a key means for a dialog: an answer, or nothing.  Enter accepts a prompt and a text, closes
a message, and never gives up unsaved changes. -/
def dialogAnswer? (dialog : Dialog) (key : Key) : Option Bool :=
  match key, dialog with
  | .char 'y', .confirm _ | .char 'y', .exitGuard _ _ => some true
  | .enter, .confirm _ | .enter, .editText _ _ _ _ => some true
  | .enter, _ | .char 'n', _ | .escape, _ => some false
  | _, _ => none

/-- What a key makes of a text that is edited, if it is meant for the text. -/
def typeInto? (buffer : String) (key : Key) : Option String :=
  match key with
  | .char ch => some (buffer.push ch)
  | .backspace => some (String.ofList buffer.toList.dropLast)
  | _ => none

/-- The console after a key that is text for the dialog that is shown, if that edits one. -/
def typed? (key : Key) : Option Console :=
  match c.dialogs with
  | .editText id name label buffer :: rest =>
    (typeInto? buffer key).map fun buffer =>
      { c with dialogs := .editText id name label buffer :: rest }
  | _ => none

/-- A key without a dialog. -/
def pageKey (key : Key) (now : Nat) : Step :=
  match key with
  | .char 'q' => c.leavePage .quit now
  | .char 'r' => c.leavePage .reload now
  | .tab | .char 'l' | .right => (c.showTab c.tab.next, [])
  | .backTab | .char 'h' | .left => (c.showTab c.tab.previous, [])
  | .char 'j' | .down => (c.nextRow, [])
  | .char 'k' | .up => (c.previousRow, [])
  | .char ' ' | .enter => c.activateRow now
  | .char 's' => c.saveTab now
  | _ => (c, [])

/-- A key: it is text for a dialog that edits one, else an answer to the dialog that is shown, else
meant for the page. -/
def pressed (key : Key) (now : Nat) : Step :=
  match c.typed? key with
  | some c => (c, [])
  | none =>
    match c.dialogs with
    | dialog :: _ =>
      match dialogAnswer? dialog key with
      | some accepted => c.answerDialog accepted now
      | none => (c, [])
    | [] => c.pageKey key now

/-! ## Events -/

/-- The console after an event, and what it asks for. -/
def handle (event : Event) (now : Moment) : Step :=
  match event with
  | .tick => c.tick now.millis
  | .key key => c.pressed key now.millis
  | .ignored => (c, [])
  | .pageFetched result => (c.pageFetched result now, [])
  | .subscriptionsFetched result => (c.subscriptionsFetched result, [])
  | .wikiFetched result => (c.wikiFetched result, [])
  | .institutionsFetched result => (c.institutionsFetched result, [])
  | .saveSettled id result => (c.saveSettled id result now.millis, [])

end Console

end SettingsConsole
