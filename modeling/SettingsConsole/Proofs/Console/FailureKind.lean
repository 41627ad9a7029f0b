import Mathlib.Data.List.Forall2
import SettingsConsole.Console.Outcome
import SettingsConsole.Proofs.Console.Session
import SettingsConsole.Proofs.Console.Settlement

/-!
# The kind of a failure

A submission makes one request (`Client.Requests`), and succeeds exactly if an answer arrives whose
status is in the two hundreds and whose body is JSON (`Client.Accepted`).  Which texts are JSON is
for the library that reads them (`Web.ReadsJson`), as are the forms that addresses, headers and
bodies take on their way.  Whatever else becomes of a call reaches the console as a failure, with
words about the cause.  The console does the same on other words (`Console.handle_wordless`), so two
runs whose events differ in the words of failures only are equal step by step, in what is shown and
in what is sent (`failure_kind_never_shows`).  Networks on which the same calls succeed may let the
others fail in any way: the events then differ in such words only (`Effect.outcomes_wordless`).
-/

namespace SettingsConsole

/-- A result without the words about the cause of a failure. -/
def withoutWords {α : Type} (result : Except String α) : Except String α :=
  result.mapError fun _ => ""

/-- An event without the words about the cause of a failure. -/
def Event.wordless : Event → Event
  | .pageFetched result => .pageFetched (withoutWords result)
  | .subscriptionsFetched result => .subscriptionsFetched (withoutWords result)
  | .wikiFetched result => .wikiFetched (withoutWords result)
  | .institutionsFetched result => .institutionsFetched (withoutWords result)
  | .saveSettled id result => .saveSettled id (withoutWords result)
  | .tick => .tick
  | .key pressed => .key pressed
  | .ignored => .ignored

/-- A result without words depends on what succeeded only. -/
theorem CallFailure.wordless_congr {α : Type} {result result' : Except CallFailure α}
    (same : result.toOption = result'.toOption) :
    withoutWords (inWords result) = withoutWords (inWords result') := by
  cases result with
  | error =>
    cases result' with
    | error => rfl
    | ok => cases same
  | ok =>
    cases result' with
    | error => cases same
    | ok =>
      cases same
      rfl

namespace Console

variable (c : Console)

/-! ## Events that differ in words -/

theorem saveSettled_wordless (id : GroupId) (result : Except String Unit) (now : Nat) :
    c.saveSettled id (withoutWords result) now = c.saveSettled id result now := by
  rw [saveSettled_eq, saveSettled_eq]
  cases result <;> rfl

/-- The words of a failure make no difference. -/
theorem handle_wordless (e : Event) (now : Moment) : c.handle e.wordless now = c.handle e now := by
  cases e with
  | pageFetched result | subscriptionsFetched result | wikiFetched result
  | institutionsFetched result => cases result <;> rfl
  | saveSettled id result => exact congrArg (·, []) (c.saveSettled_wordless id result now.millis)
  | tick | key | ignored => rfl

/-- The steps that events make, each with the console after it and what it asks for. -/
def steps (c : Console) : List (Event × Moment) → List Step
  | [] => []
  | (e, now) :: later => c.handle e now :: (c.handle e now).1.steps later

theorem steps_congr {xs ys : List (Event × Moment)}
    (events : List.Forall₂ (fun x y => x.1.wordless = y.1.wordless ∧ x.2 = y.2) xs ys) :
    c.steps xs = c.steps ys := by
  induction events generalizing c with
  | nil => rfl
  | @cons x y xs ys same _ ih =>
    obtain ⟨words, moment⟩ := same
    have step : c.handle x.1 x.2 = c.handle y.1 y.2 := by
      rw [← handle_wordless, words, moment, handle_wordless]
    rw [steps, steps, step, ih]

end Console

/-! ## Calls that fail in one way or another -/

section Calls

variable [Web] {client : Client} {network network' : Network} {s : Submission}
  {isJson : String → Prop}

/-- The library that reads JSON reads the texts that are JSON, and no others. -/
def Web.ReadsJson (isJson : String → Prop) : Prop := ∀ text, (Web.read? text).isSome ↔ isJson text

theorem Call.read_eq_ok_iff {call : Call} {answer : Option HttpResponse} {v : Json} :
    call.read answer = .ok v ↔ ∃ response, answer = some response ∧ 200 ≤ response.status ∧
      response.status < 300 ∧ Web.read? (Web.bodyText response.body) = some v := by
  unfold read
  cases answer with
  | none => simp
  | some response =>
    by_cases accepted : 200 ≤ response.status ∧ response.status < 300
    · cases body : Web.read? (Web.bodyText response.body) <;> simp [accepted, body]
    · simp only [accepted, if_false, reduceCtorEq, false_iff]
      rintro ⟨_, same, above, below, -⟩
      exact accepted (Option.some.inj same ▸ ⟨above, below⟩)

/-- Whether no answer of a network has a status in the two hundreds. -/
def Network.Refuses (network : Network) : Prop :=
  ∀ request response, network request = some response →
    ¬ (200 ≤ response.status ∧ response.status < 300)

theorem Call.toOption_fetch_of_refuses {α : Type} (refuses : network.Refuses) (token : String)
    (decode : Decoder α) (call : Call) : (call.fetch token network decode).toOption = none := by
  unfold fetch
  cases answered : call.perform token network with
  | error => rfl
  | ok v =>
    obtain ⟨response, arrived, above, below, -⟩ := read_eq_ok_iff.1 answered
    obtain ⟨request, -, arrived⟩ := Option.bind_eq_some_iff.1 arrived
    exact absurd ⟨above, below⟩ (refuses request response arrived)

namespace Client

/-- The request that a client makes for a submission: its method, where it goes, for whom, and what
it carries. -/
structure Requests (client : Client) (s : Submission) (request : HttpRequest) : Prop where
  method : request.method = match s.method with
    | .post => "POST"
    | .put => "PUT"
    | .patch => "PATCH"
    | .delete => "DELETE"
  url : Web.address? s.endpoint none = some request.url
  authorization : Web.header? ("Bearer " ++ client.service.token) = some request.authorization
  accept : request.accept = "application/json"
  contentType : request.contentType = some "application/json"
  body : request.body = match s.payload with
    | some value => Web.write value
    | none => ""

theorem request?_ofSubmission_iff {request : HttpRequest} :
    (Call.ofSubmission s).request? client.service.token = some request ↔
      client.Requests s request := by
  obtain ⟨group, m, endpoint, payload⟩ := s
  constructor
  · intro made
    obtain ⟨url, address, made⟩ := Option.bind_eq_some_iff.1 made
    obtain ⟨authorization, header, made⟩ := Option.bind_eq_some_iff.1 made
    cases made
    exact
      { method := by cases m <;> rfl
        url := address
        authorization := header
        accept := rfl
        contentType := rfl
        body := by cases payload <;> rfl }
  · rintro ⟨method, address, header, accept, contentType, body⟩
    refine Option.bind_eq_some_iff.2 ⟨_, address, Option.bind_eq_some_iff.2 ⟨_, header, ?_⟩⟩
    obtain ⟨_, _, _, _, _, _⟩ := request
    subst method accept contentType body
    cases m <;> cases payload <;> rfl

/-- Whether a submission is answered with a status in the two hundreds and a body that is JSON. -/
def Accepted (client : Client) (isJson : String → Prop) (network : Network) (s : Submission) :
    Prop :=
  ∃ request response, client.Requests s request ∧ network request = some response ∧
    200 ≤ response.status ∧ response.status < 300 ∧ isJson (Web.bodyText response.body)

theorem accepted_iff (reads : Web.ReadsJson isJson) :
    client.Accepted isJson network s ↔ ∃ v, client.submit network s = .ok v := by
  have answered : (∃ v, client.submit network s = .ok v) ↔
      ∃ v response, (∃ request, client.Requests s request ∧ network request = some response) ∧
        200 ≤ response.status ∧ response.status < 300 ∧
        Web.read? (Web.bodyText response.body) = some v := by
    unfold submit Call.perform
    simp only [Call.read_eq_ok_iff, Option.bind_eq_bind, Option.bind_eq_some_iff,
      request?_ofSubmission_iff]
  rw [answered]
  constructor
  · rintro ⟨request, response, made, arrived, above, below, json⟩
    obtain ⟨v, json⟩ := Option.isSome_iff_exists.1 ((reads _).2 json)
    exact ⟨v, response, ⟨request, made, arrived⟩, above, below, json⟩
  · rintro ⟨v, response, ⟨request, made, arrived⟩, above, below, json⟩
    have json : isJson (Web.bodyText response.body) :=
      (reads _).1 (Option.isSome_iff_exists.2 ⟨v, json⟩)
    exact ⟨request, response, made, arrived, above, below, json⟩

/-- Two networks on which the same calls of a client succeed, with the same results.  The others
may fail in different ways. -/
structure Alike (client : Client) (isJson : String → Prop) (network network' : Network) :
    Prop where
  page : (client.fetchPage network).toOption = (client.fetchPage network').toOption
  subscriptions :
    (client.fetchSubscriptions network).toOption = (client.fetchSubscriptions network').toOption
  wiki : (client.fetchWiki network).toOption = (client.fetchWiki network').toOption
  institutions :
    (client.fetchInstitutions network).toOption = (client.fetchInstitutions network').toOption
  primary : (client.fetchPrimary network).toOption = (client.fetchPrimary network').toOption
  submit : ∀ s, client.Accepted isJson network s ↔ client.Accepted isJson network' s

theorem not_accepted_of_refuses (refuses : network.Refuses) :
    ¬ client.Accepted isJson network s := by
  rintro ⟨request, response, -, arrived, above, below, -⟩
  exact refuses request response arrived ⟨above, below⟩

/-- Networks that never answer with success are alike, whatever they answer. -/
theorem alike_of_refuses (client : Client) (refuses : network.Refuses)
    (refuses' : network'.Refuses) : client.Alike isJson network network' := by
  have fetched {α : Type} (decode : Decoder α) (call : Call) :
      (call.fetch client.service.token network decode).toOption =
        (call.fetch client.service.token network' decode).toOption := by
    rw [Call.toOption_fetch_of_refuses refuses, Call.toOption_fetch_of_refuses refuses']
  exact
    { page := fetched _ _
      subscriptions := fetched _ _
      wiki := fetched _ _
      institutions := fetched _ _
      primary := fetched _ _
      submit := fun _ =>
        iff_of_false (not_accepted_of_refuses refuses) (not_accepted_of_refuses refuses') }

end Client

namespace Effect

variable {sender : Option Client} {request : Submission}

theorem settled_eq_ok_iff (reads : Web.ReadsJson isJson) :
    settled sender network request = .saveSettled request.group (.ok ()) ↔
      ∃ c ∈ sender, c.Accepted isJson network request := by
  unfold settled
  cases sender with
  | none => simp
  | some client =>
    simp only [Option.mem_some_iff, exists_eq_left', Client.accepted_iff reads]
    cases client.submit network request <;> simp [CallFailure.inWords, Except.map, Except.mapError]

theorem settled_eq_error_iff (reads : Web.ReadsJson isJson) :
    (∃ words, settled sender network request = .saveSettled request.group (.error words)) ↔
      ¬ ∃ c ∈ sender, c.Accepted isJson network request := by
  rw [← settled_eq_ok_iff reads]
  obtain ⟨result, settles⟩ : ∃ result, settled sender network request =
      .saveSettled request.group result := ⟨_, rfl⟩
  rw [settles]
  cases result <;> simp

theorem toOption_fetchChoices (client : Client) (network : Network) :
    (client.fetchChoices network).toOption =
      (client.fetchInstitutions network).toOption.map fun available =>
        ⟨available, (client.fetchPrimary network).toOption.join⟩ := by
  unfold Client.fetchChoices
  cases client.fetchInstitutions network <;> rfl

theorem settled_wordless (reads : Web.ReadsJson isJson)
    (same : (∃ c ∈ sender, c.Accepted isJson network request) ↔
      ∃ c ∈ sender, c.Accepted isJson network' request) :
    (settled sender network request).wordless = (settled sender network' request).wordless := by
  by_cases accepted : ∃ c ∈ sender, c.Accepted isJson network request
  · rw [(settled_eq_ok_iff reads).2 accepted, (settled_eq_ok_iff reads).2 (same.1 accepted)]
  · obtain ⟨words, failed⟩ := (settled_eq_error_iff reads).2 accepted
    obtain ⟨words', failed'⟩ := (settled_eq_error_iff reads).2 (mt same.2 accepted)
    rw [failed, failed']
    rfl

theorem loaded_wordless (alike : client.Alike isJson network network') :
    (loaded client network).map Event.wordless = (loaded client network').map Event.wordless := by
  have choices :
      (client.fetchChoices network).toOption = (client.fetchChoices network').toOption := by
    rw [toOption_fetchChoices, toOption_fetchChoices, alike.institutions, alike.primary]
  simp only [loaded, List.map_cons, List.map_nil, Event.wordless,
    CallFailure.wordless_congr alike.page, CallFailure.wordless_congr alike.subscriptions,
    CallFailure.wordless_congr alike.wiki, CallFailure.wordless_congr choices]

/-- Over networks that are alike, the outcomes of every effect are the same but for words. -/
theorem outcomes_wordless (reads : Web.ReadsJson isJson)
    (alike : ∀ c ∈ sender, c.Alike isJson network network') (effect : Effect) :
    (effect.outcomes sender network).map Event.wordless =
      (effect.outcomes sender network').map Event.wordless := by
  cases effect with
  | load =>
    cases sender with
    | none => rfl
    | some client => exact loaded_wordless (alike client rfl)
  | send request =>
    exact congrArg ([·]) (settled_wordless reads
      (exists_congr fun c => and_congr_right fun member => (alike c member).submit request))

end Effect

end Calls

/-! ## What never shows -/

/-- A submission succeeds exactly if there is a client, its request is answered with a status in the
two hundreds and the body of the answer is JSON, and fails otherwise.  From every console, events
that differ in the words of failures only make the same steps: the same consoles, with every alert
in them, and the same requests.  Networks that let calls fail in different ways make events that
differ in such words only. -/
theorem failure_kind_never_shows [Web] {isJson : String → Prop} (reads : Web.ReadsJson isJson) :
    (∀ (sender : Option Client) (network : Network) (request : Submission),
      (Effect.settled sender network request = .saveSettled request.group (.ok ()) ↔
        ∃ c ∈ sender, c.Accepted isJson network request) ∧
      ((∃ words,
          Effect.settled sender network request = .saveSettled request.group (.error words)) ↔
        ¬ ∃ c ∈ sender, c.Accepted isJson network request)) ∧
    (∀ (c : Console) (xs ys : List (Event × Moment)),
      List.Forall₂ (fun x y => x.1.wordless = y.1.wordless ∧ x.2 = y.2) xs ys →
        c.steps xs = c.steps ys) ∧
    ∀ (sender : Option Client) (network network' : Network),
      (∀ c ∈ sender, c.Alike isJson network network') → ∀ effect : Effect,
        (effect.outcomes sender network).map Event.wordless =
          (effect.outcomes sender network').map Event.wordless :=
  ⟨fun _ _ _ => ⟨Effect.settled_eq_ok_iff reads, Effect.settled_eq_error_iff reads⟩,
    fun c _ _ events => c.steps_congr events,
    fun _ _ _ alike effect => Effect.outcomes_wordless reads alike effect⟩

/-- A web that takes texts as they stand, writes that the wiki is on, and reads one text. -/
abbrev Web.small : Web where
  address? text _ := some text
  header? := some
  write _ := "\x7b\"wiki\":true\x7d"
  bodyText := id
  read? text := if text = "null" then some .null else none

theorem Web.readsJson_small : @Web.ReadsJson .small (· = "null") := by
  intro text
  show (if text = "null" then some Json.null else none).isSome ↔ text = "null"
  split <;> simp_all

/-- The save of the wiki succeeds, is not answered, is answered with a page, or is refused. -/
theorem failure_kind_never_shows_wiki :
    let now : Moment := ⟨0, 2026, 3, 14, 9, 0⟩
    let step := (Session.smallRun [.key .tab, .key .tab,
      .pageFetched (.ok Session.smallPage)]).2.console.handle (.key (.char ' ')) now
    let client : Client := ⟨step.1.service, step.1.scope⟩
    let url := "https://osf.example/api/v1/project/abc12/settings/addons/"
    let request : Submission := ⟨.wiki, .post, url, some (.object [("wiki", .bool true)])⟩
    let sent : HttpRequest := ⟨"POST", url, "Bearer token", "application/json",
      some "application/json", "\x7b\"wiki\":true\x7d"⟩
    let answers (answer : HttpResponse) : Network := fun r => if r = sent then some answer else none
    let silent : Network := fun _ => none
    let broken : Network := fun _ => some ⟨500, "null"⟩
    let _ : Web := .small
    let settled (network : Network) := Effect.settled (some client) network request
    let failing (words : String) : List (Event × Moment) :=
      [(.saveSettled .wiki (.error words), now), (.key .enter, now),
        (.pageFetched (.error words), now)]
    step.1.client? = some client ∧ step.2 = [.send request] ∧
      settled (answers ⟨200, "null"⟩) = .saveSettled .wiki (.ok ()) ∧
      (∀ network ∈ [silent, broken, answers ⟨200, "<html>"⟩],
        ∃ words, settled network = .saveSettled .wiki (.error words)) ∧
      step.1.steps (failing "no answer") =
        step.1.steps (failing "API request failed with status: 500 - null") ∧
      (Effect.load.outcomes (some client) silent).map Event.wordless =
        (Effect.load.outcomes (some client) broken).map Event.wordless := by
  intro now step client url request sent answers silent broken _ settled failing
  obtain ⟨settles, steps, outcomes⟩ := failure_kind_never_shows Web.readsJson_small
  have made : client.Requests request sent := ⟨rfl, rfl, rfl, rfl, rfl, rfl⟩
  have accepted : client.Accepted (· = "null") (answers ⟨200, "null"⟩) request :=
    ⟨sent, _, made, if_pos rfl, by decide, by decide, rfl⟩
  have refuses : silent.Refuses := nofun
  have refuses' : broken.Refuses := by
    rintro _ _ ⟨⟩
    decide
  have unread : ¬ client.Accepted (· = "null") (answers ⟨200, "<html>"⟩) request := by
    rintro ⟨_, _, -, arrived, -, -, json⟩
    simp only [answers, Option.ite_none_right_eq_some, Option.some.injEq] at arrived
    obtain ⟨-, rfl⟩ := arrived
    exact absurd json (by decide)
  have fails {network : Network} (unaccepted : ¬ client.Accepted (· = "null") network request) :
      ∃ words, settled network = .saveSettled .wiki (.error words) :=
    (settles _ _ _).2.2 (by simpa using unaccepted)
  refine ⟨rfl, by decide, (settles _ _ _).1.2 ⟨client, rfl, accepted⟩, ?_, steps _ _ _ ?_,
    outcomes _ _ _ (fun _ member => ?_) _⟩
  · simpa using ⟨fails (Client.not_accepted_of_refuses refuses),
      fails (Client.not_accepted_of_refuses refuses'), fails unread⟩
  · exact .cons ⟨rfl, rfl⟩ (.cons ⟨rfl, rfl⟩ (.cons ⟨rfl, rfl⟩ .nil))
  · obtain rfl := Option.some.inj member
    exact client.alike_of_refuses refuses refuses'

end SettingsConsole
