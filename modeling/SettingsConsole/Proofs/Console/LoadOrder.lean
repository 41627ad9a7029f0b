import Mathlib.Data.List.Perm.Basic
import SettingsConsole.Proofs.Console.Rebuild

/-!
# The areas of the page in any order

Each area of the page is fetched on its own, and the outcomes come in at any time.  Two outcomes of
different areas may change places: they touch different parts of the console, except that the
content of the page and the institutions both rewrite the groups.  There the one keeps what the
other installs, since the institution is there at most once (`Console.pageFetched_comm`).  So all
orders of the outcomes of a load give the same page (`Console.fetches_in_any_order`).
-/

namespace SettingsConsole

/-- The area that could not be fetched, if an event reports that. -/
def Event.failedArea? : Event → Option PageArea
  | .pageFetched (.error _) => some .page
  | .subscriptionsFetched (.error _) => some .subscriptions
  | .wikiFetched (.error _) => some .wiki
  | .institutionsFetched (.error _) => some .institutions
  | _ => none

/-- The events that report how an area was fetched. -/
inductive Event.Reports : PageArea → Event → Prop
  | page (result) : Reports .page (.pageFetched result)
  | subscriptions (result) : Reports .subscriptions (.subscriptionsFetched result)
  | wiki (result) : Reports .wiki (.wikiFetched result)
  | institutions (result) : Reports .institutions (.institutionsFetched result)

theorem Event.reports_of_area? {e : Event} {a : PageArea} (h : e.area? = some a) :
    e.Reports a := by
  cases e with
  | pageFetched result => exact Option.some.inj h ▸ .page result
  | subscriptionsFetched result => exact Option.some.inj h ▸ .subscriptions result
  | wikiFetched result => exact Option.some.inj h ▸ .wiki result
  | institutionsFetched result => exact Option.some.inj h ▸ .institutions result
  | tick | key | ignored | saveSettled => cases h

namespace Console

/-- The console apart from the selection and the time at which the page arrived last. -/
def page (c : Console) : Console := { c with selection := ⟨none, 0⟩, loadedAt := none }

/-- The console with a message of an area; the page is not loading any more then. -/
def tell (c : Console) (text : String) : PageArea → Console
  | .page => { c with loading := false, pageError := some text }
  | .subscriptions => { c with subscriptionsMessage := some text }
  | .wiki => { c with wikiMessage := some text }
  | .institutions => { c with institutionMessage := some text }

/-- The console after events, one after the other. -/
def run (c : Console) (events : List (Event × Moment)) : Console :=
  events.foldl (fun c (e, now) => (c.handle e now).1) c

variable {c c' : Console} {e e₁ e₂ : Event} {a a₁ a₂ : PageArea}

theorem run_cons (c : Console) (x : Event × Moment) (events : List (Event × Moment)) :
    c.run (x :: events) = (c.handle x.1 x.2).1.run events := rfl

/-! ## One outcome -/

/-- A fetch that failed leaves its message and nothing else. -/
theorem handle_of_failedArea? (failed : e.failedArea? = some a) (now : Moment) :
    ∃ text, c.handle e now = (c.tell text a, []) := by
  cases e with
  | pageFetched result | subscriptionsFetched result | wikiFetched result
  | institutionsFetched result =>
    cases result with
    | ok => cases failed
    | error message =>
      cases failed
      exact ⟨_, rfl⟩
  | tick | key | ignored | saveSettled => cases failed

/-- The page after an outcome depends on the page before it only, and not on the time. -/
theorem page_handle_congr (reports : e.Reports a) (same : c.page = c'.page) (now now' : Moment) :
    (c.handle e now).1.page = (c'.handle e now').1.page := by
  have of_page (c : Console) (now : Moment) :
      (c.handle e now).1.page = (c.page.handle e now').1.page := by
    cases reports with
    | page result | subscriptions result | wiki result | institutions result =>
      cases result <;> rfl
  rw [of_page c, same, ← of_page c']

/-! ## Two outcomes -/

theorem removeGroup_pageInstalled (c : Console) (content : PageContent) :
    removeGroup .institution
        (content.groups c.service c.scope ++ (c.group? .institution).toList) =
      content.groups c.service c.scope := by
  have none_built : ∀ g ∈ content.groups c.service c.scope, ¬ decide (g.id = .institution) :=
    fun g member => by simpa using ne_institution_of_mem_groups member
  rw [removeGroup_eq_eraseP, List.eraseP_append_right _ none_built]
  cases found : c.group? .institution with
  | none => exact List.append_nil _
  | some g => simp [id_of_group? found]

theorem find?_institution_institutionsInstalled (once : c.loaded.count .institution ≤ 1)
    (choices : InstitutionChoices) :
    (removeGroup .institution c.groups ++ [choices.group c.service c.scope]).find?
      (·.id = .institution) = some (choices.group c.service c.scope) := by
  have none_left : (removeGroup .institution c.groups).find? (·.id = .institution) = none := by
    rw [List.find?_eq_none]
    intro g member it
    exact not_mem_removeGroup once (of_decide_eq_true it) member
  rw [List.find?_append, none_left, Option.none_or]
  simp

/-- The content of the page and the institutions may change places. -/
theorem pageFetched_comm (once : c.loaded.count .institution ≤ 1)
    (result : Except String PageContent) (result' : Except String InstitutionChoices)
    (t₁ t₂ u₁ u₂ : Moment) :
    ((c.handle (.pageFetched result) t₁).1.handle (.institutionsFetched result') t₂).1.page =
      ((c.handle (.institutionsFetched result') u₁).1.handle (.pageFetched result) u₂).1.page := by
  cases result with
  | error => cases result' <;> rfl
  | ok content =>
    cases result' with
    | error => rfl
    | ok choices =>
      let arrived (groups : List SettingGroup) : Console :=
        { c.page with
          title := some content.node.title
          loading := false
          institutionLink := choices.primary.bind (·.link)
          groups }
      let page := content.groups c.service c.scope
      let institution := choices.group c.service c.scope
      show arrived (removeGroup .institution (page ++ (c.group? .institution).toList) ++
          [institution]) =
        arrived (page ++ ((removeGroup .institution c.groups ++ [institution]).find?
          (·.id = .institution)).toList)
      rw [removeGroup_pageInstalled, find?_institution_institutionsInstalled once]
      rfl

/-- Two outcomes of different areas may change places. -/
theorem fetches_comm (once : c.loaded.count .institution ≤ 1) (h₁ : e₁.Reports a₁)
    (h₂ : e₂.Reports a₂) (apart : a₁ ≠ a₂) (t₁ t₂ u₁ u₂ : Moment) :
    ((c.handle e₁ t₁).1.handle e₂ t₂).1.page = ((c.handle e₂ u₁).1.handle e₁ u₂).1.page := by
  cases h₁ with
  | page result =>
    cases h₂ with
    | page => exact absurd rfl apart
    | institutions result' => exact pageFetched_comm once result result' t₁ t₂ u₁ u₂
    | subscriptions result' | wiki result' => cases result <;> cases result' <;> rfl
  | institutions result =>
    cases h₂ with
    | institutions => exact absurd rfl apart
    | page result' => exact (pageFetched_comm once result' result u₁ u₂ t₁ t₂).symm
    | subscriptions result' | wiki result' => cases result <;> cases result' <;> rfl
  | subscriptions result =>
    cases h₂ with
    | subscriptions => exact absurd rfl apart
    | page result' | wiki result' | institutions result' => cases result <;> cases result' <;> rfl
  | wiki result =>
    cases h₂ with
    | wiki => exact absurd rfl apart
    | page result' | subscriptions result' | institutions result' =>
      cases result <;> cases result' <;> rfl

/-! ## All outcomes of a load -/

theorem page_run_congr {xs ys : List (Event × Moment)}
    (events : List.Forall₂ (fun x y => x.1 = y.1) xs ys) (reports : ∀ x ∈ xs, x.1.area?.isSome)
    (same : c.page = c'.page) : (c.run xs).page = (c'.run ys).page := by
  induction events generalizing c c' with
  | nil => exact same
  | @cons x y xs ys event _ ih =>
    obtain ⟨area, others⟩ := List.forall_mem_cons.1 reports
    obtain ⟨a, area⟩ := Option.isSome_iff_exists.1 area
    rw [run_cons, run_cons, ← event]
    exact ih others (page_handle_congr (Event.reports_of_area? area) same _ _)

/-- Outcomes of different areas give the same page in every order. -/
theorem page_run_perm {xs ys : List (Event × Moment)} (order : xs.Perm ys)
    (reports : ∀ x ∈ xs, x.1.area?.isSome) (apart : (xs.map (·.1.area?)).Nodup)
    (once : c.loaded.count .institution ≤ 1) : (c.run xs).page = (c.run ys).page := by
  induction order generalizing c with
  | nil => rfl
  | cons x order ih =>
    rw [run_cons, run_cons]
    rw [List.map_cons, List.nodup_cons] at apart
    exact ih (List.forall_mem_cons.1 reports).2 apart.2
      ((c.handle_groups x.1 x.2).count_institution once)
  | swap x y xs =>
    obtain ⟨area_y, others⟩ := List.forall_mem_cons.1 reports
    obtain ⟨area_x, others⟩ := List.forall_mem_cons.1 others
    obtain ⟨a, area_y⟩ := Option.isSome_iff_exists.1 area_y
    obtain ⟨b, area_x⟩ := Option.isSome_iff_exists.1 area_x
    have other : a ≠ b := by
      rintro rfl
      simp [area_x, area_y] at apart
    rw [run_cons, run_cons, run_cons, run_cons]
    exact page_run_congr (List.forall₂_same.2 fun _ _ => rfl) others
      (fetches_comm once (Event.reports_of_area? area_y) (Event.reports_of_area? area_x) other ..)
  | trans order _ ih ih' =>
    rw [ih reports apart once]
    exact ih' (fun x member => reports x (order.mem_iff.2 member))
      ((order.map _).nodup_iff.1 apart) once

/-- From every console that events lead to, two outcomes of different areas give the same page in
either order, and so do all outcomes of a load in any order.  An outcome that is a failure changes
the message of its area only, and the content of the page leaves the institution as it was. -/
theorem fetches_in_any_order {first : Console} (h : Reached first c)
    (unloaded : first.groups = []) :
    (∀ {e₁ e₂ a₁ a₂}, e₁.area? = some a₁ → e₂.area? = some a₂ → a₁ ≠ a₂ →
      ∀ t₁ t₂ u₁ u₂, ((c.handle e₁ t₁).1.handle e₂ t₂).1.page =
        ((c.handle e₂ u₁).1.handle e₁ u₂).1.page) ∧
    (∀ xs ys : List (Event × Moment), (xs.map Prod.fst).Perm (ys.map Prod.fst) →
      (∀ x ∈ xs, x.1.area?.isSome) → (xs.map (·.1.area?)).Nodup →
      (c.run xs).page = (c.run ys).page) ∧
    (∀ {e a}, e.failedArea? = some a → ∀ now, ∃ text, c.handle e now = (c.tell text a, [])) ∧
    ∀ result now, (c.handle (.pageFetched result) now).1.group? .institution =
      c.group? .institution := by
  have once := h.count_institution unloaded
  refine ⟨?_, ?_, fun failed now => handle_of_failedArea? failed now, ?_⟩
  · intro e₁ e₂ a₁ a₂ area₁ area₂ apart
    exact fetches_comm once (Event.reports_of_area? area₁) (Event.reports_of_area? area₂) apart
  · intro xs ys order reports apart
    -- The outcomes change places with their moments; the moments are then changed back.
    have events : List.Forall₂ (fun e x => e = x.1) (xs.map Prod.fst) xs :=
      List.forall₂_map_left_iff.2 (List.forall₂_same.2 fun _ _ => rfl)
    obtain ⟨zs, events, order⟩ := List.perm_comp_forall₂ order.symm events
    rw [page_run_perm order.symm reports apart once]
    refine page_run_congr ?_ (fun z member => reports z (order.mem_iff.1 member)) rfl
    exact (List.forall₂_map_left_iff.1 events).flip.imp fun _ _ same => same.symm
  · intro result now
    cases result with
    | error => rfl
    | ok content => exact find?_pageInstalled { c with loading := false } content

/-- All outcomes of a load come in while the institution is edited. -/
theorem fetches_in_any_order_institution :
    let now : Moment := ⟨0, 2026, 3, 14, 9, 0⟩
    let later : Moment := ⟨900, 2026, 3, 14, 9, 1⟩
    let college : Institution := ⟨"i1", "College", none⟩
    let c := (Session.smallRun [.key (.char ' '), .key .tab, .key .tab, .key .tab, .key .tab,
      .institutionsFetched (.ok ⟨[college], none⟩), .pageFetched (.ok Session.smallPage)]).2.console
    let page : Event := .pageFetched (.ok Session.smallPage)
    let institutions : Event := .institutionsFetched (.ok ⟨[], some college⟩)
    let others : List (Event × Moment) :=
      [(.subscriptionsFetched (.error "timeout"), now), (.wikiFetched (.ok []), later)]
    (c.group? .institution).any (·.isDirty) ∧
      ((c.handle page now).1.handle institutions later).1.page =
        ((c.handle institutions now).1.handle page later).1.page ∧
      (c.run ((page, now) :: others ++ [(institutions, later)])).page =
        (c.run ((institutions, now) :: others ++ [(page, later)])).page ∧
      (∃ text, c.handle (.pageFetched (.error "timeout")) now = (c.tell text .page, [])) ∧
      (c.handle page now).1.group? .institution = c.group? .institution := by
  intro now later college c page institutions others
  have reached : Session.smallStart.console.Reached c :=
    (Session.run_smallRun (by decide)).reached
  obtain ⟨two, all, failed, kept⟩ := fetches_in_any_order reached rfl
  have page_area : page.area? = some .page := rfl
  have institutions_area : institutions.area? = some .institutions := rfl
  have order : (page :: others.map Prod.fst ++ [institutions]).Perm
      (institutions :: others.map Prod.fst ++ [page]) :=
    List.perm_append_comm.trans ((List.perm_append_singleton page _).symm.cons institutions)
  exact ⟨by decide, two page_area institutions_area nofun now later now later,
    all _ _ order (by decide) (by decide), failed rfl now, kept _ now⟩

end Console

end SettingsConsole
