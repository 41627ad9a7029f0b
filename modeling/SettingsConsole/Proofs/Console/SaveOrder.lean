import Mathlib.Logic.OpClass
import SettingsConsole.Proofs.Console.Rebuild

/-!
# Saves of different groups in either order

What a settled request leaves is read off the group of its name, and a request of another group
finds that group as it was (`Console.settlement_absorb`).  So two requests may settle in either
order (`Console.saves_settle_in_any_order`): each puts back its own group, notices are kept in the
order of the names, and of two times for a reload the earlier one counts.  Only alerts wait in the
order in which they came.
-/

namespace SettingsConsole

/-! ## Names of groups -/

namespace GroupId

theorem text_injective : Function.Injective text := by
  intro a b same
  have provider {p q : String} (same : "account:" ++ p = "account:" ++ q) : p = q := by
    simpa [String.ext_iff] using same
  have named {p t : String} (other : "account:".toList.isPrefixOf t.toList = false) :
      t ≠ "account:" ++ p := by
    rintro rfl
    simp at other
  cases a with
  | account p =>
    cases b with
    | account q => exact congrArg account (provider same)
    | _ => exact absurd same.symm (named (by decide))
  | _ =>
    cases b with
    | account q => exact absurd same (named (by decide))
    | _ => first | rfl | exact absurd same (by decide)

end GroupId

namespace Console

variable {c : Console} {a b : GroupId}

/-- Groups of different names may be replaced in either order. -/
theorem replaceGroup_comm {g h : SettingGroup} (apart : g.id ≠ h.id) (groups : List SettingGroup) :
    replaceGroup h (replaceGroup g groups) = replaceGroup g (replaceGroup h groups) := by
  induction groups with
  | nil => rfl
  | cons x rest ih =>
    by_cases first : x.id = g.id
    · simp [replaceGroup, first, apart]
    · by_cases second : x.id = h.id
      · simp [replaceGroup, second, apart.symm]
      · simp [replaceGroup, first, second, ih]

/-! ## Two settlements -/

variable {s t : Settlement}

/-- What a request leaves is the same before and after one of another group has settled. -/
theorem settlement_absorb (named : ∀ g ∈ s.group, g.id = a) (apart : a ≠ b)
    (result : Except String Unit) (now : Nat) :
    (c.absorb a s).settlement b result now = c.settlement b result now := by
  have same : (c.absorb a s).group? b = c.group? b := by
    unfold absorb
    cases put : s.group with
    | none => rfl
    | some g => exact find?_replaceGroup_of_ne ((named g put).symm ▸ apart.symm) c.groups
  unfold settlement waiting? reloadDelay failureAlert
  rw [same]
  rfl

/-- The same is left in either order, apart from the order of the alerts. -/
theorem absorb_comm (apart : a ≠ b) (named : ∀ g ∈ s.group, g.id = a)
    (named' : ∀ g ∈ t.group, g.id = b) :
    (c.absorb a s).absorb b t =
      { (c.absorb b t).absorb a s with
        dialogs := c.dialogs ++ (s.alerts.map .alert ++ t.alerts.map .alert) } := by
  have groups : ((c.absorb a s).absorb b t).groups = ((c.absorb b t).absorb a s).groups := by
    unfold absorb
    cases put : s.group with
    | none => rfl
    | some g =>
      cases put' : t.group with
      | none => rfl
      | some h =>
        have other : g.id ≠ h.id := named g put ▸ named' h put' ▸ apart
        exact replaceGroup_comm other c.groups
  have notices : ((c.absorb a s).absorb b t).notices = ((c.absorb b t).absorb a s).notices := by
    unfold absorb
    cases s.notice with
    | none => rfl
    | some n =>
      cases t.notice with
      | none => rfl
      | some m => exact Table.insert_comm (mt (GroupId.text_injective ·) apart) n m c.notices
  have earliest : RightCommutative (Option.merge (min : Nat → Nat → Nat)) := inferInstance
  have reloadAt : ((c.absorb a s).absorb b t).reloadAt = ((c.absorb b t).absorb a s).reloadAt :=
    earliest.right_comm c.reloadAt s.reloadBy t.reloadBy
  have dialogs : ((c.absorb a s).absorb b t).dialogs =
      c.dialogs ++ (s.alerts.map .alert ++ t.alerts.map .alert) := List.append_assoc ..
  unfold absorb at *
  dsimp only at *
  rw [groups, notices, reloadAt, dialogs]

/-- The alerts about a request that settles. -/
def alertsOf (c : Console) (id : GroupId) : Except String Unit → List Dialog
  | .ok () => []
  | .error _ => [.alert (c.failureAlert id)]

theorem saveSettled_comm (apart : a ≠ b) (result result' : Except String Unit) (now now' : Nat) :
    (c.saveSettled a result now).saveSettled b result' now' =
      { (c.saveSettled b result' now').saveSettled a result now with
        dialogs := c.dialogs ++ (c.alertsOf a result ++ c.alertsOf b result') } := by
  have named := c.named_settlement a result now
  have named' := c.named_settlement b result' now'
  have alerts (id : GroupId) (result : Except String Unit) (now : Nat) :
      (c.settlement id result now).alerts.map .alert = c.alertsOf id result := by
    cases result <;> rfl
  rw [c.saveSettled_eq a, c.saveSettled_eq b, saveSettled_eq, saveSettled_eq,
    settlement_absorb named apart, settlement_absorb named' apart.symm,
    absorb_comm apart named named', alerts, alerts]

/-- Requests of two groups settle in either order with the same outcome, unless both fail: then
their alerts wait in the order in which they came, and all else is the same.  A request that settles
touches no group but the first one of its name. -/
theorem saves_settle_in_any_order (c : Console) {a b : GroupId} (apart : a ≠ b)
    (ra rb : Except String Unit) (ta tb : Nat) :
    let ab := (c.saveSettled a ra ta).saveSettled b rb tb
    let ba := (c.saveSettled b rb tb).saveSettled a ra ta
    (ra = .ok () ∨ rb = .ok () → ab = ba) ∧
      (∀ wordsA wordsB, ra = .error wordsA → rb = .error wordsB →
        ba.dialogs = c.dialogs ++ [.alert (c.failureAlert b), .alert (c.failureAlert a)] ∧
        ab = { ba with
          dialogs := c.dialogs ++ [.alert (c.failureAlert a), .alert (c.failureAlert b)] }) ∧
      ((c.saveSettled a ra ta).groups = c.groups ∨
        ∃ before g after, c.groups = before ++ g :: after ∧ (∀ x ∈ before, x.id ≠ a) ∧ g.id = a ∧
          (c.saveSettled a ra ta).groups = before ++ g.settle ra :: after) := by
  intro ab ba
  have swapped := saveSettled_comm (c := c) apart ra rb ta tb
  have swapped' := saveSettled_comm (c := c) apart.symm rb ra tb ta
  have dialogs : ba.dialogs = c.dialogs ++ (c.alertsOf b rb ++ c.alertsOf a ra) :=
    congrArg Console.dialogs swapped'
  refine ⟨?_, ?_, c.kept_or_settled a ra ta⟩
  · intro succeeded
    have same : c.alertsOf a ra ++ c.alertsOf b rb = c.alertsOf b rb ++ c.alertsOf a ra := by
      rcases succeeded with rfl | rfl
      · exact (List.append_nil _).symm
      · exact List.append_nil _
    rw [same, ← dialogs] at swapped
    exact swapped
  · rintro wordsA wordsB rfl rfl
    exact ⟨dialogs, swapped⟩

/-- The saves of the wiki and of the add-ons settle in both orders. -/
theorem saves_settle_in_any_order_wiki_addons :
    let c := (Session.smallRun [.key (.char 's'), .key (.char ' '), .key .backTab,
      .key (.char ' '), .key .tab, .key .tab, .pageFetched (.ok Session.smallPage)]).2.console
    let failed : Except String Unit := .error "timeout"
    (c.group? .wiki).any (·.isSaving) ∧ (c.group? .addons).any (·.isSaving) ∧
      (c.saveSettled .wiki (.ok ()) 40).saveSettled .addons (.ok ()) 60 =
        (c.saveSettled .addons (.ok ()) 60).saveSettled .wiki (.ok ()) 40 ∧
      (c.saveSettled .wiki (.ok ()) 40).saveSettled .addons failed 60 =
        (c.saveSettled .addons failed 60).saveSettled .wiki (.ok ()) 40 ∧
      ((c.saveSettled .addons failed 60).saveSettled .wiki failed 40).dialogs =
        [.alert (c.failureAlert .addons), .alert (c.failureAlert .wiki)] := by
  intro c failed
  have succeeded := saves_settle_in_any_order c (a := .wiki) (b := .addons) nofun (.ok ()) (.ok ())
    40 60
  have mixed := saves_settle_in_any_order c (a := .wiki) (b := .addons) nofun (.ok ()) failed 40 60
  have failed_both := saves_settle_in_any_order c (a := .wiki) (b := .addons) nofun failed failed
    40 60
  exact ⟨by decide, by decide, succeeded.1 (.inl rfl), mixed.1 (.inl rfl),
    (failed_both.2.1 _ _ rfl rfl).1⟩

end Console

end SettingsConsole
