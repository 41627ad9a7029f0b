import SettingsConsole.Proofs.Console.SaveOrder
import SettingsConsole.Proofs.Console.Turns
import SettingsConsole.Proofs.Page.Wording

/-!
# Notices

A notice is posted in two ways: a request succeeds that its group waits for, or a save that a key
asks for has nothing to send (`Console.posts?`).  A tick takes away the notices whose time has come,
and no other event touches a notice but a later one of the same group (`Console.notices_handle`).
So after a tick a group has the notice that was posted for it last, if that was less than five
seconds ago (`Console.notice_lives_its_time`).
-/

namespace SettingsConsole

/-- The notice that an answer announces. -/
def announces : Except Refusal EditOutcome → Option Notice
  | .ok (.save (.unchanged notice)) => notice
  | _ => none

namespace SettingGroup

theorem life_of_successNotice {g : SettingGroup} {n : Notice} (h : g.successNotice = some n) :
    n.life = 5000 := by
  obtain ⟨words, -, rfl⟩ := Option.map_eq_some_iff.1 h
  rfl

theorem life_of_announces {g : SettingGroup} {op : Operation} {n : Notice}
    (h : announces (op.perform g).2 = some n) : n.life = 5000 := by
  have step := g.performed op
  unfold announces at h
  split at h
  next unchanged =>
    rw [unchanged, h] at step
    exact life_of_successNotice step.of_unchanged.2.symm
  · cases h

end SettingGroup

namespace Console

variable {c c' : Console} {e : Event} {key : Key} {id : GroupId} {op : Operation}
  {g : SettingGroup} {now : Nat}

/-! ## What posts a notice -/

/-- The notice that an event posts, with the name of its group. -/
def posts? (c : Console) : Event → Option (GroupId × Notice)
  | .key key =>
    (c.operation? key).bind fun (id, op) =>
      (c.group? id).bind fun g => (announces (op.perform g).2).map (id, ·)
  | .saveSettled id (.ok _) => (c.waiting? id).bind fun g => g.successNotice.map (id, ·)
  | _ => none

/-- The notices after an event: those that last beyond a tick, or those that were there with the one
that the event posts. -/
def noticesAfter (c : Console) (now : Nat) : Event → Notices
  | .tick => c.notices.filter (now < ·.expiresAt)
  | e => (c.posts? e).elim c.notices fun (id, n) => c.notices.insert id ⟨n.text, now + n.life⟩

theorem noticesAfter_of_untimed (untimed : e ≠ .tick) :
    c.noticesAfter now e =
      (c.posts? e).elim c.notices fun (id, n) => c.notices.insert id ⟨n.text, now + n.life⟩ := by
  cases e with
  | tick => exact absurd rfl untimed
  | _ => rfl

theorem life_of_posts? {n : Notice} (h : c.posts? e = some (id, n)) : n.life = 5000 := by
  unfold posts? at h
  split at h
  · obtain ⟨⟨asked, op⟩, -, h⟩ := Option.bind_eq_some_iff.1 h
    obtain ⟨g, -, h⟩ := Option.bind_eq_some_iff.1 h
    obtain ⟨m, announced, same⟩ := Option.map_eq_some_iff.1 h
    cases same
    exact SettingGroup.life_of_announces announced
  · obtain ⟨g, -, h⟩ := Option.bind_eq_some_iff.1 h
    obtain ⟨m, announced, same⟩ := Option.map_eq_some_iff.1 h
    cases same
    exact SettingGroup.life_of_successNotice announced
  · cases h

theorem noticesAfter_of_unasked (unasked : c.Unasked key) :
    c.noticesAfter now (.key key) = c.notices := by
  have silent : c.posts? (.key key) = none := by
    unfold posts?
    dsimp only
    cases asked : c.operation? key with
    | none => rfl
    | some it => rw [Option.bind_some, unasked it asked, Option.bind_none]
  unfold noticesAfter
  dsimp only
  rw [silent]
  rfl

theorem posts?_of_loaded (asked : c.operation? key = some (id, op))
    (loaded : c.group? id = some g) :
    c.posts? (.key key) = (announces (op.perform g).2).map (id, ·) := by
  simp [posts?, asked, loaded]

/-! ## Following up on an operation -/

theorem notices_applyEdit (c : Console) (id : GroupId) (outcome : EditOutcome) (now : Nat) :
    (c.applyEdit id outcome now).1.notices = (announces (.ok outcome)).elim c.notices
      fun n => c.notices.insert id ⟨n.text, now + n.life⟩ := by
  cases outcome with
  | save outcome =>
    cases outcome with
    | unchanged notice => cases notice <;> rfl
    | confirm | submit | rolledBack => rfl
  | updated | prompt | redirect => rfl

/-! ## Every event -/

theorem Departs.notices_eq {action : ExitAction} {left : Console}
    (h : Departs c now e action left) : left.notices = c.noticesAfter now e := by
  cases e with
  | tick =>
    cases h
    rfl
  | key key =>
    have same : left.notices = c.notices := by cases h <;> rfl
    rw [same, noticesAfter_of_unasked h.unasked]
  | _ => cases h

theorem notices_saveSettled (c : Console) (id : GroupId) (result : Except String Unit) (now : Nat) :
    (c.saveSettled id result now).notices = c.noticesAfter now (.saveSettled id result) := by
  rw [saveSettled_eq]
  cases result with
  | error words => rfl
  | ok =>
    show (((c.waiting? id).bind (·.successNotice)).map fun n => _).elim c.notices _ =
      ((c.waiting? id).bind fun g => g.successNotice.map (id, ·)).elim c.notices _
    cases c.waiting? id with
    | none => rfl
    | some g => cases posted : g.successNotice <;> simp [posted]

/-- No event but a tick touches a notice, unless it posts one. -/
theorem notices_handle (c : Console) (e : Event) (now : Moment) :
    (c.handle e now).1.notices = c.noticesAfter now.millis e := by
  have step := c.stepped e now
  generalize c.handle e now = s at step
  cases step with
  | ignored | expired => rfl
  | dropped unasked => exact (noticesAfter_of_unasked unasked).symm
  | guarded _ departs => exact departs.notices_eq
  | deferred departs | quit departs | reloaded departs | unconnected departs =>
    exact departs.notices_eq
  | moved free moves =>
    rw [noticesAfter_of_unasked (moves.unasked free)]
    obtain ⟨tab, selection, rfl, -⟩ := moves.exists_eq
    rfl
  | opened free press selected action | obstructed free press selected action =>
    exact (noticesAfter_of_unasked (unasked_of_edit free press selected action)).symm
  | typed front into => exact (noticesAfter_of_unasked (unasked_of_typed front into)).symm
  | closed _ _ unasked => exact (noticesAfter_of_unasked unasked).symm
  | refused asked loaded result =>
    rw [noticesAfter_of_untimed, posts?_of_loaded asked loaded, result]
    · rfl
    · nofun
  | accepted asked loaded result =>
    rw [noticesAfter_of_untimed, posts?_of_loaded asked loaded, result, notices_applyEdit]
    · cases announces (.ok _) <;> rfl
    · nofun
  | settled id result => exact c.notices_saveSettled id result now.millis
  | pageFetched result | subscriptionsFetched result | wikiFetched result
  | institutionsFetched result => cases result <;> rfl

/-! ## The notices of a run -/

/-- When a turn happens, if time matters to it. -/
def Turn.millis? : Turn → Option Nat
  | .drawn _ _ => none
  | .handled _ now => some now.millis

/-- Whether time never runs backward along what happened, the latest first. -/
def Chronological (log : List (Console × Turn)) : Prop :=
  (log.filterMap (·.2.millis?)).Pairwise (· ≥ ·)

/-- The times of the ticks, the latest first. -/
def ticks (log : List (Console × Turn)) : List Nat :=
  log.filterMap fun x => match x.2 with
    | .handled .tick now => some now.millis
    | _ => none

/-- The notice for a group that is posted in a turn, with the time. -/
def posting? (id : GroupId) (x : Console × Turn) : Option (String × Nat) :=
  match x.2 with
  | .drawn _ _ => none
  | .handled e now => ((x.1.posts? e).filter (·.1 = id)).map fun (_, n) => (n.text, now.millis)

/-- The notices that were posted for a group, the latest first, each with its time. -/
def postings (id : GroupId) (log : List (Console × Turn)) : List (String × Nat) :=
  log.filterMap (posting? id)

variable {redraw : Redraw} {first : Console} {log : List (Console × Turn)} {turn : Turn}

/-- A turn that posts a notice for the group leaves it that notice, and any other turn but a tick
leaves it the one it had. -/
theorem lookup_notices_apply (redraw : Redraw) (id : GroupId)
    (untimed : ∀ now, turn ≠ .handled .tick now) :
    (turn.apply redraw c).notices.lookup id =
      ((posting? id (c, turn)).map fun (text, t) => ⟨text, t + 5000⟩).or (c.notices.lookup id) := by
  cases turn with
  | drawn => rfl
  | handled e now =>
    have other : e ≠ .tick := fun tick => untimed now (tick ▸ rfl)
    show (c.handle e now).1.notices.lookup id = _
    rw [notices_handle, noticesAfter_of_untimed other]
    cases posted : c.posts? e with
    | none => simp [posting?, posted]
    | some posting =>
      obtain ⟨k, n⟩ := posting
      by_cases its : k = id
      · subst its
        simp [posting?, Option.filter, posted, Table.lookup_insert_self, life_of_posts? posted]
      · have apart : id ≠ k := fun same => its same.symm
        simp [posting?, Option.filter, posted, its,
          Table.lookup_insert_of_ne _ (fun _ _ same => GroupId.text_injective same) apart]

theorem mem_millis_of_mem_ticks {u : Nat} (member : u ∈ ticks log) :
    u ∈ log.filterMap (·.2.millis?) := by
  obtain ⟨x, listed, its⟩ := List.mem_filterMap.1 member
  refine List.mem_filterMap.2 ⟨x, listed, ?_⟩
  split at its
  next now tick =>
    rw [tick]
    exact its
  · cases its

theorem ticks_le {t : Nat} (ordered : Chronological ((c, turn) :: log))
    (timed : turn.millis? = some t) : ∀ u ∈ ticks log, u ≤ t := by
  intro u member
  unfold Chronological at ordered
  rw [List.filterMap_cons, timed] at ordered
  exact (List.pairwise_cons.1 ordered).1 u (mem_millis_of_mem_ticks member)

theorem ticks_cons_tick (now : Moment) :
    ticks ((c, .handled .tick now) :: log) = now.millis :: ticks log := rfl

theorem postings_cons_tick (id : GroupId) (now : Moment) :
    postings id ((c, .handled .tick now) :: log) = postings id log := rfl

theorem millis?_of_posting? {x : Console × Turn} {text : String} {t : Nat}
    (posted : posting? id x = some (text, t)) : x.2.millis? = some t := by
  unfold posting? at posted
  split at posted
  · cases posted
  next e now handled =>
    obtain ⟨n, -, same⟩ := Option.map_eq_some_iff.1 posted
    cases same
    rw [handled]
    rfl

/-- Until a tick reaches its end, a group has the notice that was posted for it last. -/
theorem Turns.lookup_notices (h : Turns redraw first log c) (unposted : first.notices = ∅)
    (ordered : Chronological log) (id : GroupId) :
    c.notices.lookup id =
      ((postings id log).head?.map fun (text, t) => PostedNotice.mk text (t + 5000)).filter
        fun n => (ticks log).all (· < n.expiresAt) := by
  induction h with
  | opened => rw [unposted]; rfl
  | @taken log c turn earlier ih =>
    have behind : Chronological log := by
      unfold Chronological at ordered
      rw [List.filterMap_cons] at ordered
      split at ordered
      · exact ordered
      · exact ordered.of_cons
    replace ih := ih behind
    by_cases timed : ∃ now, turn = .handled .tick now
    · obtain ⟨now, rfl⟩ := timed
      show (c.tick now.millis).1.notices.lookup id = _
      have swept : (c.tick now.millis).1.notices = c.notices.filter (now.millis < ·.expiresAt) :=
        c.notices_handle .tick now
      rw [swept, Table.lookup_filter, ih, postings_cons_tick, ticks_cons_tick,
        Option.filter_filter]
      simp only [List.all_cons, Bool.and_comm]
    · have untimed : ∀ now, turn ≠ .handled .tick now := fun now tick => timed ⟨now, tick⟩
      have same : ticks ((c, turn) :: log) = ticks log := by
        cases turn with
        | drawn => rfl
        | handled e now =>
          cases e with
          | tick => exact absurd rfl (untimed now)
          | _ => rfl
      rw [lookup_notices_apply redraw id untimed, same]
      cases posted : posting? id (c, turn) with
      | none =>
        have silent : postings id ((c, turn) :: log) = postings id log := by
          simp [postings, posted]
        rw [silent, ← ih]
        rfl
      | some posting =>
        obtain ⟨text, t⟩ := posting
        have latest : postings id ((c, turn) :: log) = (text, t) :: postings id log := by
          simp [postings, posted]
        have recent : ∀ u ∈ ticks log, u < t + 5000 := fun u member => by
          have before := ticks_le ordered (millis?_of_posting? posted) u member
          omega
        rw [latest]
        simpa [Option.filter] using recent

/-- A notice lives exactly its time.  After a tick a group has the notice that was posted for it
last, if that was less than five seconds ago; a notice is posted when a request succeeds that its
group waits for, and when a save that a key asks for has nothing to send.  Drawing and all other
events, reloads, groups that are built anew, dialogs and the notices of other groups among them,
leave it as it is, the time of its end included. -/
theorem notice_lives_its_time (h : Turns redraw first log c) (unposted : first.notices = ∅)
    (now : Moment) (ordered : Chronological ((c, .handled .tick now) :: log)) (id : GroupId) :
    (∀ text, (c.handle .tick now).1.notice? id = some text ↔
      ∃ t, (postings id log).head? = some (text, t) ∧ now.millis < t + 5000) ∧
    ∀ turn, (∀ later, turn ≠ .handled .tick later) → posting? id (c, turn) = none →
      (turn.apply redraw c).notices.lookup id = c.notices.lookup id := by
  constructor
  · intro text
    have ended := (h.taken (.handled .tick now)).lookup_notices unposted ordered id
    have last : ∀ u ∈ ticks log, u ≤ now.millis := ticks_le ordered rfl
    rw [postings_cons_tick, ticks_cons_tick] at ended
    show ((c.handle .tick now).1.notices.lookup id).map _ = some text ↔ _
    rw [show (c.handle .tick now).1.notices.lookup id = _ from ended]
    cases (postings id log).head? with
    | none => simp
    | some posting =>
      obtain ⟨words, t⟩ := posting
      have latest : (now.millis :: ticks log).all (· < t + 5000) =
          decide (now.millis < t + 5000) := by
        by_cases before : now.millis < t + 5000
        · have earlier : ∀ u ∈ ticks log, u < t + 5000 := fun u member =>
            Nat.lt_of_le_of_lt (last u member) before
          simpa [before] using earlier
        · simp [before]
      by_cases before : now.millis < t + 5000 <;> simp [Option.filter, latest, before]
  · intro turn untimed silent
    rw [lookup_notices_apply redraw id untimed, silent]
    rfl

/-- The wiki is switched on, and a reload and a page that is built anew come before the notice about
it ends. -/
theorem notice_lives_its_time_wiki :
    let clock (millis : Nat) : Moment := ⟨millis, 2026, 3, 14, 9, 0⟩
    let ended := Session.played Session.smallStart
      [(.pageFetched (.ok Session.smallPage), clock 2000), (.tick, clock 1500),
        (.saveSettled .wiki (.ok ()), clock 0), (.key (.char ' '), clock 0), (.key .tab, clock 0),
        (.key .tab, clock 0), (.pageFetched (.ok Session.smallPage), clock 0)]
    let c := ended.2.console
    Session.Run Session.smallStart ended.1 ended.2 ∧ (∃ x ∈ ended.1, x.loads) ∧
      (c.handle .tick (clock 4999)).1.notice? .wiki = some "Wiki Enabled" ∧
      (c.handle .tick (clock 5000)).1.notice? .wiki = none := by
  intro clock ended c
  have run : Session.Run Session.smallStart ended.1 ended.2 := Session.run_played (by decide)
  let log := ended.1.map fun x => (x.session.console, Turn.handled x.event x.now)
  have ordered (millis : Nat) (later : 2000 ≤ millis) :
      Chronological ((c, .handled .tick (clock millis)) :: log) := by
    have times : log.filterMap (·.2.millis?) = [2000, 1500, 0, 0, 0, 0, 0] := by decide
    show List.Pairwise (· ≥ ·) (millis :: log.filterMap (·.2.millis?))
    rw [times]
    refine List.pairwise_cons.2 ⟨?_, by decide⟩
    simp
    omega
  have posted : (postings .wiki log).head? = some ("Wiki Enabled", 0) := by decide
  obtain ⟨lives, -⟩ :=
    notice_lives_its_time (run.turns .still) rfl (clock 4999) (ordered _ (by decide)) .wiki
  obtain ⟨ends, -⟩ :=
    notice_lives_its_time (run.turns .still) rfl (clock 5000) (ordered _ (by decide)) .wiki
  refine ⟨run, by decide, (lives _).2 ⟨0, posted, by decide⟩, ?_⟩
  refine Option.eq_none_iff_forall_ne_some.2 fun text shown => ?_
  obtain ⟨t, its, before⟩ := (ends text).1 shown
  cases posted.symm.trans its
  exact absurd before (by decide)

end Console

end SettingsConsole
