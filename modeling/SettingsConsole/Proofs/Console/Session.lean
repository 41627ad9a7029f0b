import SettingsConsole.Console.Step

/-!
# Sessions of the console

A session is a console together with what it waits for: the areas of the page whose fetches are out
and the groups whose requests are out, once for each.  Keys and ticks reach it at any time, the
outcome of a fetch or a request once for each that is out, in any order.  A run is what happened
since the console was opened, the latest first, each event with the session that it met.

What holds whether or not anything is out is said of the consoles that any events lead to
(`Console.Reached`); those of a run are among them.
-/

namespace SettingsConsole

/-- An area of the page that is fetched on its own. -/
inductive PageArea where
  | page
  | subscriptions
  | wiki
  | institutions
  deriving DecidableEq, Repr

/-- All areas. -/
def PageArea.all : List PageArea := [.page, .subscriptions, .wiki, .institutions]

/-- The area whose fetch an event reports. -/
def Event.area? : Event → Option PageArea
  | .pageFetched _ => some .page
  | .subscriptionsFetched _ => some .subscriptions
  | .wikiFetched _ => some .wiki
  | .institutionsFetched _ => some .institutions
  | .tick | .key _ | .ignored | .saveSettled _ _ => none

/-- The group whose request an event reports. -/
def Event.settles? : Event → Option GroupId
  | .saveSettled id _ => some id
  | _ => none

/-- The areas that an effect has fetched. -/
def Effect.areas : Effect → List PageArea
  | .load => PageArea.all
  | .send _ => []

/-- The group that an effect has saved. -/
def Effect.saves? : Effect → Option GroupId
  | .load => none
  | .send request => some request.group

/-- The consoles that events lead to from a first one, any events in any order. -/
inductive Console.Reached (first : Console) : Console → Prop
  | opened : Reached first first
  | handled {c} (e : Event) (now : Moment) : Reached first c → Reached first (c.handle e now).1

/-- A console and what it waits for. -/
structure Session where
  console : Console
  /-- The areas whose fetches are out, an area once for each. -/
  awaited : List PageArea
  /-- The groups whose requests are out, a group once for each. -/
  requests : List GroupId
  deriving DecidableEq

namespace Session

/-- The session after a step, with its effects under way. -/
def issue (s : Session) (step : Step) : Session where
  console := step.1
  awaited := s.awaited ++ step.2.flatMap Effect.areas
  requests := s.requests ++ step.2.filterMap Effect.saves?

/-- The session when the console opens: it asks for the page, or says that it cannot. -/
def start (online : Bool) (service : Service) (scope : Scope) : Session :=
  let c := Console.initial online service scope
  issue ⟨c, [], []⟩ (if online then c.reload else
    ({ c with pageError := some "API Client not initialized. Check .env config." }, []))

/-- Whether an event can reach the session now: outcomes come in only of what is out. -/
def accepts (s : Session) (e : Event) : Bool :=
  e.area?.all (· ∈ s.awaited) && e.settles?.all (· ∈ s.requests)

/-- The session without what an event reports. -/
def without (s : Session) (e : Event) : Session :=
  { s with
    awaited := e.area?.elim s.awaited s.awaited.erase
    requests := e.settles?.elim s.requests s.requests.erase }

/-- The session after an event. -/
def after (s : Session) (e : Event) (now : Moment) : Session :=
  (s.without e).issue (s.console.handle e now)

/-- An event and the session that it met. -/
structure Entry where
  session : Session
  event : Event
  now : Moment

/-- What happened to a session since it started, the latest first, and what it became. -/
inductive Run (first : Session) : List Entry → Session → Prop
  | opened : Run first [] first
  | handled {log s} (e now) : Run first log s → s.accepts e →
      Run first (⟨s, e, now⟩ :: log) (s.after e now)

/-- Every session of a run. -/
def states (log : List Entry) (s : Session) : List Session := s :: log.map Entry.session

/-- The run that events make, the latest first, and the session they lead to. -/
def played (first : Session) : List (Event × Moment) → List Entry × Session
  | [] => ([], first)
  | (e, now) :: earlier =>
    let (log, s) := played first earlier
    (⟨s, e, now⟩ :: log, s.after e now)

theorem run_played {first : Session} {events : List (Event × Moment)}
    (accepted : (played first events).1.all fun x => x.session.accepts x.event) :
    Run first (played first events).1 (played first events).2 := by
  induction events with
  | nil => exact .opened
  | cons event earlier ih =>
    simp only [played, List.all_cons, Bool.and_eq_true] at accepted
    exact .handled _ _ (ih accepted.2) accepted.1

/-! ## Along a run -/

variable {first s : Session} {log : List Entry}

theorem session_mem_states {x : Entry} (member : x ∈ log) : x.session ∈ states log s :=
  List.mem_cons_of_mem _ (List.mem_map_of_mem member)

theorem Run.reached (h : Run first log s) : first.console.Reached s.console := by
  induction h with
  | opened => exact .opened
  | handled e now _ _ ih => exact .handled e now ih

/-- What holds first and is kept by every entry of a run holds all along it. -/
theorem Run.invariant (h : Run first log s) (I : Session → Prop) (initially : I first)
    (kept : ∀ x ∈ log, x.session.accepts x.event → I x.session →
      I (x.session.after x.event x.now)) : ∀ t ∈ states log s, I t := by
  induction h with
  | opened =>
    intro t member
    rw [List.mem_singleton.1 member]
    exact initially
  | handled e now run accepted ih =>
    have earlier := ih fun x older => kept x (List.mem_cons_of_mem _ older)
    intro t member
    rcases List.mem_cons.1 member with rfl | older
    · exact kept _ List.mem_cons_self accepted (earlier _ List.mem_cons_self)
    · exact earlier t older

/-- Every entry of a run stands for a run that ends where the event came in. -/
theorem Run.of_mem (h : Run first log s) {x : Entry} (member : x ∈ log) :
    (∃ earlier, Run first earlier x.session) ∧ x.session.accepts x.event ∧
      x.session.after x.event x.now ∈ states log s := by
  induction h with
  | opened => cases member
  | @handled log s e now run accepted ih =>
    rcases List.mem_cons.1 member with rfl | older
    · exact ⟨⟨log, run⟩, accepted, List.mem_cons_self⟩
    · obtain ⟨earlier, accepted, later⟩ := ih older
      exact ⟨earlier, accepted, List.mem_cons_of_mem _ later⟩

/-! ## What an event takes and adds -/

theorem console_after (s : Session) (e : Event) (now : Moment) :
    (s.after e now).console = (s.console.handle e now).1 := rfl

theorem requests_after (s : Session) (e : Event) (now : Moment) :
    (s.after e now).requests =
      (s.without e).requests ++ (s.console.handle e now).2.filterMap Effect.saves? := rfl

theorem awaited_after (s : Session) (e : Event) (now : Moment) :
    (s.after e now).awaited =
      (s.without e).awaited ++ (s.console.handle e now).2.flatMap Effect.areas := rfl

theorem requests_without_sublist (s : Session) (e : Event) :
    (s.without e).requests.Sublist s.requests := by
  unfold without
  cases e.settles? with
  | none => exact List.Sublist.refl _
  | some id => exact List.erase_sublist

theorem awaited_without_sublist (s : Session) (e : Event) :
    (s.without e).awaited.Sublist s.awaited := by
  unfold without
  cases e.area? with
  | none => exact List.Sublist.refl _
  | some a => exact List.erase_sublist

/-- The outcome of a fetch that is out once leaves none out. -/
theorem not_mem_awaited_without {s : Session} {e : Event} {a : PageArea} (once : s.awaited.Nodup)
    (reports : e.area? = some a) : a ∉ (s.without e).awaited := by
  unfold without
  rw [reports]
  exact fun h => (List.Nodup.mem_erase_iff once).1 h |>.1 rfl

/-! ## A small page -/

def smallService : Service :=
  ⟨"https://osf.example", "https://api.osf.example/v2/", "token", 30⟩

def smallScope : Scope := ⟨"abc12", "u1", "support@osf.io"⟩

/-- A page with the wiki and one add-on, both off. -/
def smallPage : PageContent where
  node := ⟨"abc12", "Demo", none, false, "", none, false⟩
  addons := [⟨"dropbox", "Dropbox", false, none⟩]
  commentLevel := none
  wikiEnabled := false
  accounts := []
  categories := ∅

/-- A session that opens for this page, with a client. -/
def smallStart : Session := start true smallService smallScope

/-- What events make of it, the latest first and all at one moment. -/
def smallRun (events : List Event) : List Entry × Session :=
  played smallStart (events.map (·, ⟨0, 2026, 3, 14, 9, 0⟩))

theorem run_smallRun {events : List Event}
    (accepted : (smallRun events).1.all fun x => x.session.accepts x.event) :
    Run smallStart (smallRun events).1 (smallRun events).2 :=
  run_played accepted

end Session

end SettingsConsole
