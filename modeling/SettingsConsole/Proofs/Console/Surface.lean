import SettingsConsole.Proofs.Console.Groups
import SettingsConsole.Proofs.Console.Session
import SettingsConsole.Proofs.Console.Status

/-!
# What an event makes of the surface

The surface is what a console shows apart from its groups and dialogs: the messages of the areas,
the tab and the row that is selected.  An event that reports no fetch leaves it alone, has the page
fetched again, or is a key that moves on the page (`Surfaced`).
-/

namespace SettingsConsole

namespace Console

/-- The console apart from what an operation on a group touches, and from what is to come. -/
def surface (c : Console) : Console := { c.bare with quitting := false, reloadAt := none }

/-- What an event that reports no fetch makes of the surface, and whether it has the page
fetched. -/
inductive Surfaced (c : Console) : Event → Console → List Effect → Prop
  | kept {e c' effects} : c'.surface = c.surface → .load ∉ effects → Surfaced c e c' effects
  | reloaded {e c'} : c.online → c'.groups = [] →
      c'.surface = { c.surface with
        loading := true, pageError := none, subscriptionsMessage := none, wikiMessage := none
        institutionMessage := none } →
      Surfaced c e c' [.load]
  | moved {key c'} : c.dialogs = [] → Moves c key c' → Surfaced c (.key key) c' []

variable {c c' : Console} {e : Event} {now : Nat} {action : ExitAction} {left : Console}

theorem surface_of_bare (same : c'.bare = c.bare) : c'.surface = c.surface := by
  unfold surface
  rw [same]

theorem Departs.surface_eq (h : Departs c now e action left) : left.surface = c.surface := by
  cases h <;> rfl

theorem load_not_mem_sends (answer : Except Refusal EditOutcome) : .load ∉ sends answer := by
  unfold sends
  split <;> simp

/-- What every event that reports no fetch makes of the surface. -/
theorem surfaced (c : Console) {e : Event} (now : Moment) (unfetched : e.area? = none) :
    Surfaced c e (c.handle e now).1 (c.handle e now).2 := by
  have step := c.stepped e now
  generalize c.handle e now = s at step
  cases step with
  | ignored | dropped | expired | opened | obstructed | typed | closed | refused =>
    exact .kept rfl List.not_mem_nil
  | guarded _ departs => exact .kept departs.surface_eq List.not_mem_nil
  | deferred departs | quit departs | unconnected departs =>
    exact .kept departs.surface_eq List.not_mem_nil
  | reloaded departs _ _ online =>
    refine .reloaded online rfl ?_
    rw [← departs.surface_eq]
    rfl
  | moved free moves => exact .moved free moves
  | @accepted key id op g outcome =>
    refine .kept ((surface_of_bare (bare_applyEdit _ id outcome now.millis)).trans rfl) ?_
    rw [effects_applyEdit]
    exact load_not_mem_sends _
  | settled id result =>
    refine .kept ?_ List.not_mem_nil
    rw [saveSettled_eq]
    rfl
  | pageFetched | subscriptionsFetched | wikiFetched | institutionsFetched => cases unfetched

end Console

end SettingsConsole
