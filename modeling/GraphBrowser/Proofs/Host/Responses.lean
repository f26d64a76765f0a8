import GraphBrowser.Proofs.Host.Run
import GraphBrowser.Proofs.Navigation.Alerts

/-!
# Responses and what they leave behind

A request is rejected, looks at the browser or runs an errand. Rejections and looks are responded to
at once and leave the browser as it was. An errand is responded to when its task ends, with the way
back to the page, whatever has become of the task and of the view meanwhile.

## Main definitions

* `Request.IsUnknown`, `Request.QueryFails`, `Request.Asks` — the three kinds of request
* `BrowserState.IsBound` — whether a row has an expand link
* `Route.RunsIn` — whether a route is an errand with something to do
* `Hosting.responding` — a host that has responded at once

## Main statements

* `Request.isUnknown_or_queryFails_or_asks` — every request is of one of the kinds
* `Suspended.isOfResource_of_resume` — **no task that has been started fails for want of its row**
* `Hosting.errand_run` — **an errand waits for less with each answer, or is sent back to the page**
* `Hosting.responses_of_request` — **what becomes of each request**

## Design notes

**A row is looked for once, when the request arrives.**  What happens to the view while the errand
waits may take its row away, but then the errand is overtaken and ends without looking for it.
-/

namespace GraphBrowser

/-! ### Kinds of requests -/

namespace Request

/-- The paths at which there is something. -/
def knownPaths : List String := ["/", "/state", "/go", "/navigate", "/expand"]

/-- Whether a request has another method or another path than those that are known. -/
def IsUnknown (request : Request) : Prop :=
  request.method ≠ "GET" ∨ ∀ path ∈ knownPaths, request.path ≠ path.toList

/-- The query of a request does not have the one field that its path wants. -/
inductive QueryFails (request : Request) (e : QueryError) : Prop where
  /-- There is no id to go to. -/
  | go (hmethod : request.method = "GET") (hpath : request.path = "/go".toList)
      (hquery : Query.text "id" request.query = .error e)
  /-- There is no address to navigate to. -/
  | navigate (hmethod : request.method = "GET") (hpath : request.path = "/navigate".toList)
      (hquery : Query.text "url" request.query = .error e)
  /-- There is no row to expand. -/
  | expand (hmethod : request.method = "GET") (hpath : request.path = "/expand".toList)
      (hquery : Query.natural "row" request.query = .error e)

/-- What a request asks for whose method and path are known and whose query has what is wanted. -/
inductive Asks (request : Request) : Route → Prop where
  /-- The page. -/
  | page (hmethod : request.method = "GET") (hpath : request.path = "/".toList) :
      Asks request .page
  /-- The report of the state. -/
  | state (hmethod : request.method = "GET") (hpath : request.path = "/state".toList) :
      Asks request .state
  /-- To go to a typed id. -/
  | go {id : String} (hmethod : request.method = "GET") (hpath : request.path = "/go".toList)
      (hquery : Query.text "id" request.query = .ok id) : Asks request (.go id)
  /-- To go to the node at an address. -/
  | navigate {url : String} (hmethod : request.method = "GET")
      (hpath : request.path = "/navigate".toList)
      (hquery : Query.text "url" request.query = .ok url) : Asks request (.navigate url)
  /-- To expand a row. -/
  | expand {row : Nat} (hmethod : request.method = "GET") (hpath : request.path = "/expand".toList)
      (hquery : Query.natural "row" request.query = .ok row) : Asks request (.expand row)

variable {request : Request}

/-- Every request is unknown, has a query that fails, or asks for something. -/
theorem isUnknown_or_queryFails_or_asks (request : Request) :
    request.IsUnknown ∨ (∃ e, request.QueryFails e) ∨ ∃ route, request.Asks route := by
  by_cases hmethod : request.method = "GET"
  · by_cases hpath : ∃ path ∈ knownPaths, request.path = path.toList
    · obtain ⟨path, hknown, hpath⟩ := hpath
      simp only [knownPaths, List.mem_cons, List.not_mem_nil, or_false] at hknown
      rcases hknown with rfl | rfl | rfl | rfl | rfl
      · exact .inr (.inr ⟨_, .page hmethod hpath⟩)
      · exact .inr (.inr ⟨_, .state hmethod hpath⟩)
      · cases hquery : Query.text "id" request.query with
        | error e => exact .inr (.inl ⟨e, .go hmethod hpath hquery⟩)
        | ok id => exact .inr (.inr ⟨_, .go hmethod hpath hquery⟩)
      · cases hquery : Query.text "url" request.query with
        | error e => exact .inr (.inl ⟨e, .navigate hmethod hpath hquery⟩)
        | ok url => exact .inr (.inr ⟨_, .navigate hmethod hpath hquery⟩)
      · cases hquery : Query.natural "row" request.query with
        | error e => exact .inr (.inl ⟨e, .expand hmethod hpath hquery⟩)
        | ok row => exact .inr (.inr ⟨_, .expand hmethod hpath hquery⟩)
    · exact .inl (.inr fun path hknown heq => hpath ⟨path, hknown, heq⟩)
  · exact .inl (.inl hmethod)

end Request

namespace Route

variable {request : Request} {route : Route}

/-- What is unknown is not found. -/
theorem ofRequest_of_isUnknown (h : request.IsUnknown) : ofRequest request = .error .notFound := by
  unfold ofRequest
  split
  · rename_i hmethod
    have hpath := h.resolve_left (not_not_intro hmethod)
    simp only [Request.knownPaths, List.forall_mem_cons] at hpath
    obtain ⟨hpage, hstate, hgo, hnavigate, hexpand, -⟩ := hpath
    rw [ofPath, if_neg hpage, if_neg hstate, if_neg hgo, if_neg hnavigate, if_neg hexpand]
  · rfl

/-- A query that fails is rejected. -/
theorem ofRequest_of_queryFails {e : QueryError} (h : request.QueryFails e) :
    ofRequest request = .error (.badQuery e) := by
  cases h with
  | go hmethod hpath hquery => rw [ofRequest, if_pos hmethod, hpath, ofPath_go, hquery, ofQuery]
  | navigate hmethod hpath hquery =>
      rw [ofRequest, if_pos hmethod, hpath, ofPath_navigate, hquery, ofQuery]
  | expand hmethod hpath hquery =>
      rw [ofRequest, if_pos hmethod, hpath, ofPath_expand, hquery, ofQuery]

/-- What is asked for is the route. -/
theorem ofRequest_of_asks (h : request.Asks route) : ofRequest request = .ok route := by
  cases h with
  | page hmethod hpath => rw [ofRequest, if_pos hmethod, hpath, ofPath_page]
  | state hmethod hpath => rw [ofRequest, if_pos hmethod, hpath, ofPath_state]
  | go hmethod hpath hquery => rw [ofRequest, if_pos hmethod, hpath, ofPath_go, hquery, ofQuery]
  | navigate hmethod hpath hquery =>
      rw [ofRequest, if_pos hmethod, hpath, ofPath_navigate, hquery, ofQuery]
  | expand hmethod hpath hquery =>
      rw [ofRequest, if_pos hmethod, hpath, ofPath_expand, hquery, ofQuery]

end Route

/-! ### Rows that are bound -/

/-- Whether a row has an expand link. -/
def BrowserState.IsBound (s : BrowserState) (row : Nat) : Prop :=
  ∃ link ∈ s.links, link.row = row ∧ link.action = .expand

/-- A row that is bound has a container, and the other way round. -/
theorem BrowserState.isBound_iff {s : BrowserState} (hs : s.Coherent) (row : Nat) :
    s.IsBound row ↔ ∃ expander, s.surface.expander? row = some expander := by
  have hlinks : s.IsBound row ↔ (s.expandTarget? row).isSome = true := by
    simp [IsBound, expandTarget?, List.find?_isSome]
  rw [hlinks, expandTarget?_eq hs.linksAgree, Option.isSome_map, Option.isSome_iff_exists]

/-! ### Errands -/

/-- A task that waits asks for something. -/
theorem Suspended.stagesLeft_pos (task : Suspended) : 0 < task.stagesLeft := by
  cases task <;> exact Nat.succ_pos _

/-- **No task that has been started fails for want of its row**: if it fails, the failure is one of
the store. -/
theorem Suspended.isOfResource_of_resume {config : Config} {s : BrowserState} {answer : Answer}
    {task : Suspended} {failure : Failure} (hs : s.Coherent)
    (hstore : ∀ failure, answer = .error failure → failure.isOfResource = true)
    (h : (task.resume config s answer).2 = .ended (.error failure)) :
    failure.isOfResource = true := by
  have hnode : ∀ {url}, answer.node url = .error failure → failure.isOfResource = true := by
    intro url hfails
    rcases Answer.eq_of_node_eq_error hfails with hanswer | ⟨reason, rfl⟩
    · exact hstore failure hanswer
    · rfl
  by_cases hlatest : s.loads.latest = task.loadToken
  · cases task with
    | node load url =>
        rw [resume_node hlatest] at h
        cases hfails : answer.node url with
        | ok node =>
            rw [hfails] at h
            cases h
        | error cause =>
            rw [hfails] at h
            cases h
            exact hnode hfails
    | relationships load url =>
        rw [resume_relationships hlatest] at h
        cases hfails : answer.relationships url with
        | ok relationships =>
            rw [hfails] at h
            cases h
        | error cause =>
            rw [hfails] at h
            cases h
            rcases Answer.eq_of_relationships_eq_error hfails with hanswer | ⟨reason, rfl⟩
            · exact hstore failure hanswer
            · rfl
    | expansion e url =>
        rcases resume_expansion_cases config hs e url answer with ⟨-, hresume⟩ |
          ⟨cause, -, hfails, hresume⟩ | ⟨node, surface, -, -, -, hresume⟩
        · rw [hresume] at h
          cases h
        · rw [hresume] at h
          cases h
          exact hnode hfails
        · rw [hresume] at h
          cases h
  · rw [resume_of_ne hlatest] at h
    cases h

namespace Route

/-- Whether a route is an errand that has something to do in a state: an expansion needs a row that
is bound. -/
def RunsIn (s : BrowserState) : Route → Prop
  | .page => False
  | .state => False
  | .go _ => True
  | .navigate _ => True
  | .expand row => s.IsBound row

/-- The number of answers after which an errand has ended at the latest. -/
def stages : Route → Nat
  | .page => 0
  | .state => 0
  | .go _ => 2
  | .navigate _ => 2
  | .expand _ => 1

variable {config : Config} {s : BrowserState} {route : Route}

/-- An errand that has something to do waits for the store at once. -/
theorem receive_of_runsIn (config : Config) (hs : s.Coherent) (h : route.RunsIn s) :
    ∃ task, (route.receive config s).2 = .await route task ∧ task.stagesLeft = route.stages := by
  cases route with
  | page => cases h
  | state => cases h
  | go id => exact ⟨_, congrArg (react _) (congrArg Prod.snd (Intent.start_replace s _ _ _)), rfl⟩
  | navigate url =>
      exact ⟨_, congrArg (react _) (congrArg Prod.snd (Intent.start_replace s _ _ _)), rfl⟩
  | expand row =>
      obtain ⟨expander, hexpander⟩ := (BrowserState.isBound_iff hs row).mp h
      obtain ⟨surface, -, hexpand⟩ := BrowserState.expand_of_some hs.linksAgree hexpander
      exact ⟨_, congrArg (react _) (congrArg Prod.snd hexpand), rfl⟩

/-- An expansion of a row that is not bound is rejected, and nothing changes. -/
theorem receive_expand_of_not_isBound (hs : s.Coherent) {row : Nat} (h : ¬ s.IsBound row) :
    (expand row).receive config s = (s, .respond (.notExpandable row)) := by
  have hnone : s.surface.expander? row = none := by
    rw [Option.eq_none_iff_forall_ne_some]
    intro expander hexpander
    exact h ((BrowserState.isBound_iff hs row).mpr ⟨expander, hexpander⟩)
  have hstart : (Command.expandRow row).start config s =
      (s, .ended (.error (.unboundRow row))) :=
    BrowserState.expand_of_none hnone
  rw [receive, hstart]
  rfl

/-- The end of a task leads back to the page, unless it has failed for want of its row. -/
theorem conclude_of_ne {result : Result} (h : ∀ row, result ≠ .error (.unboundRow row)) :
    route.conclude result = .backToPage := by
  unfold conclude
  split
  · exact absurd rfl (h _)
  · rfl

/-- **An errand that is answered comes nearer to its end, or is sent back to the page.** -/
theorem resume_cases (config : Config) (hs : s.Coherent) {answer : Answer}
    (hstore : ∀ failure, answer = .error failure → failure.isOfResource = true) (task : Suspended) :
    (∃ next, (route.resume config s task answer).2 = .await route next ∧
      next.stagesLeft < task.stagesLeft) ∨
    (route.resume config s task answer).2 = .respond .backToPage := by
  unfold resume
  cases hresume : task.resume config s answer with
  | mk s' progress =>
      cases progress with
      | waiting next => exact .inl ⟨next, rfl, Suspended.stagesLeft_lt_of_resume hresume⟩
      | ended result =>
          refine .inr (congrArg Reaction.respond (conclude_of_ne ?_))
          rintro row rfl
          have hresource := Suspended.isOfResource_of_resume hs hstore
            (congrArg Prod.snd hresume)
          cases hresource

end Route

/-! ### Runs of the host -/

/-- Whether an event is an answer for the errand of the request with a number. -/
def HostEvent.answersErrand (number : Nat) : HostEvent → Bool
  | .request _ => false
  | .answerFirst _ => false
  | .answerErrand errand _ => errand == number

/-- The response that has been sent, if there is one. -/
def Reaction.response? : Reaction → Option Response
  | .respond response => some response
  | .await _ _ => none

namespace Hosting

variable {config : Config} {h : Hosting} {number : Nat}

/-- The response to the request with a number, if it has been sent. -/
def response? (h : Hosting) (number : Nat) : Option Response :=
  h.reactions[number]?.bind Reaction.response?

/-- The host that has responded to one more request at once, everything else being as it was: the
store is asked for nothing. -/
def responding (h : Hosting) (response : Response) : Hosting :=
  { h with reactions := h.reactions ++ [.respond response] }

/-- Nothing that happens at the host takes apart what belongs together. -/
theorem coherent_step (hs : h.state.Coherent) (event : HostEvent) :
    (h.step config event).state.Coherent := by
  cases event with
  | request request =>
      rw [step, Host.receive]
      cases Route.ofRequest request with
      | error response => exact hs
      | ok route =>
          cases route with
          | page => exact ⟨hs.linksAgree, hs.token_le, hs.expandable⟩
          | state => exact hs
          | go id => exact Intent.coherent_start _ _ hs
          | navigate url => exact Intent.coherent_start _ _ hs
          | expand row => exact Intent.coherent_start _ _ hs
  | answerFirst answer =>
      rw [step]
      cases h.first with
      | ended result => exact hs
      | waiting task => exact Suspended.coherent_resume config h.state task answer hs
  | answerErrand errand answer =>
      rw [step]
      cases h.reactions[errand]? with
      | none => exact hs
      | some reaction =>
          cases reaction with
          | respond response => exact hs
          | await route task => exact Suspended.coherent_resume config h.state task answer hs

/-- No other event changes what has followed from a request. -/
theorem getElem?_reactions_step {reaction : Reaction} (hreaction : h.reactions[number]? = some reaction)
    {event : HostEvent} (hevent : event.answersErrand number = false) :
    (h.step config event).reactions[number]? = some reaction := by
  cases event with
  | request request =>
      have hlt : number < h.reactions.length := (List.getElem?_eq_some_iff.mp hreaction).1
      show (h.reactions ++ [_])[number]? = _
      rw [List.getElem?_append_left hlt, hreaction]
  | answerFirst answer =>
      rw [step]
      cases h.first with
      | ended result => exact hreaction
      | waiting task => exact hreaction
  | answerErrand errand answer =>
      have hne : errand ≠ number := by
        rintro rfl
        simp [HostEvent.answersErrand] at hevent
      rw [step]
      cases h.reactions[errand]? with
      | none => exact hreaction
      | some other =>
          cases other with
          | respond response => exact hreaction
          | await route task =>
              show (h.reactions.set errand _)[number]? = _
              rw [List.getElem?_set_ne hne, hreaction]

/-- A response that has been sent is not taken back. -/
theorem respond_run {response : Response}
    (hresponse : h.reactions[number]? = some (.respond response)) (events : List HostEvent) :
    (h.run config events).reactions[number]? = some (.respond response) := by
  induction events generalizing h with
  | nil => exact hresponse
  | cons event events ih =>
      apply ih
      cases hevent : event.answersErrand number with
      | false => exact getElem?_reactions_step hresponse hevent
      | true =>
          cases event with
          | request request => cases hevent
          | answerFirst answer => cases hevent
          | answerErrand errand answer =>
              have hsame : errand = number := beq_iff_eq.mp hevent
              rw [step, hsame, hresponse]
              exact hresponse

/-- **An errand waits for less with each answer, or is sent back to the page**, whatever else
happens. -/
theorem errand_run (hs : h.state.Coherent) {route : Route} {task : Suspended}
    (hwaits : h.reactions[number]? = some (.await route task)) {events : List HostEvent}
    (hstore : ∀ failure, .answerErrand number (.error failure) ∈ events →
      failure.isOfResource = true) :
    (∃ next, (h.run config events).reactions[number]? = some (.await route next) ∧
      next.stagesLeft + events.countP (HostEvent.answersErrand number) ≤ task.stagesLeft) ∨
    (h.run config events).reactions[number]? = some (.respond .backToPage) := by
  induction events generalizing h task with
  | nil => exact .inl ⟨task, hwaits, Nat.le_refl _⟩
  | cons event events ih =>
      have hlater : ∀ failure, HostEvent.answerErrand number (.error failure) ∈ events →
          failure.isOfResource = true :=
        fun failure hmem => hstore failure (List.mem_cons_of_mem event hmem)
      cases hevent : event.answersErrand number with
      | false =>
          rw [List.countP_cons_of_neg (by simp [hevent])]
          exact ih (coherent_step hs event) (getElem?_reactions_step hwaits hevent) hlater
      | true =>
          rw [List.countP_cons_of_pos hevent]
          cases event with
          | request request => cases hevent
          | answerFirst answer => cases hevent
          | answerErrand errand answer =>
              obtain rfl : errand = number := beq_iff_eq.mp hevent
              have hlt : errand < h.reactions.length := (List.getElem?_eq_some_iff.mp hwaits).1
              have hgets : (h.step config (.answerErrand errand answer)).reactions[errand]? =
                  some (route.resume config h.state task answer).2 := by
                rw [step, hwaits]
                exact List.getElem?_set_self hlt
              have hanswer : ∀ failure, answer = .error failure → failure.isOfResource = true := by
                rintro failure rfl
                exact hstore failure List.mem_cons_self
              rcases route.resume_cases config hs hanswer task with
                ⟨next, hnext, hless⟩ | hresponds
              · rw [hnext] at hgets
                refine (ih (coherent_step hs _) hgets hlater).imp_left ?_
                rintro ⟨last, hlast, hle⟩
                exact ⟨last, hlast, by omega⟩
              · rw [hresponds] at hgets
                exact .inr (respond_run hgets events)

/-! ### What becomes of a request -/

variable {request : Request} {route : Route}

/-- What follows from a request is found at its number. -/
theorem getElem?_reactions_request (config : Config) (h : Hosting) (request : Request) :
    (h.step config (.request request)).reactions[h.reactions.length]? =
      some (Host.receive config h.state request).2 :=
  List.getElem?_concat_length

/-- A request that is responded to without a change of the state leaves the host as it was. -/
theorem step_request_of_respond {response : Response}
    (hreceive : Host.receive config h.state request = (h.state, .respond response)) :
    h.step config (.request request) = h.responding response := by
  rw [step, hreceive, responding]

/-- What is received is what is asked for. -/
theorem receive_of_asks (h : Hosting) (hasks : request.Asks route) :
    Host.receive config h.state request = route.receive config h.state := by
  rw [Host.receive, Route.ofRequest_of_asks hasks]

/-- A row that is not bound is rejected. -/
theorem step_request_of_not_isBound (config : Config) (hs : h.state.Coherent) {row : Nat}
    (hasks : request.Asks (.expand row)) (hrow : ¬ h.state.IsBound row) :
    h.step config (.request request) = h.responding (.notExpandable row) := by
  apply step_request_of_respond
  rw [receive_of_asks h hasks, Route.receive_expand_of_not_isBound hs hrow]

/-- A response that is sent at once is still there at the end. -/
theorem response?_of_responding {response : Response}
    (hstep : h.step config (.request request) = h.responding response) (events : List HostEvent) :
    ((h.step config (.request request)).run config events).response? h.reactions.length =
      some response := by
  have hsent : (h.step config (.request request)).reactions[h.reactions.length]? =
      some (.respond response) := by
    rw [hstep]
    exact List.getElem?_concat_length
  rw [response?, respond_run hsent events]
  rfl

/-- An errand with something to do is not responded to at once. -/
theorem awaits_of_runsIn (config : Config) (hs : h.state.Coherent) (hasks : request.Asks route)
    (hruns : route.RunsIn h.state) :
    ∃ task, (h.step config (.request request)).reactions[h.reactions.length]? =
      some (.await route task) ∧ task.stagesLeft = route.stages := by
  obtain ⟨task, htask, hstages⟩ := Route.receive_of_runsIn config hs hruns
  refine ⟨task, ?_, hstages⟩
  rw [getElem?_reactions_request, receive_of_asks h hasks, htask]

/-- **An errand with something to do is sent back to the page**, and waits only as long as it has not
been answered often enough. -/
theorem response?_of_runsIn (hs : h.state.Coherent) (hasks : request.Asks route)
    (hruns : route.RunsIn h.state) {after : List HostEvent}
    (hstore : ∀ failure, .answerErrand h.reactions.length (.error failure) ∈ after →
      failure.isOfResource = true) :
    let later := (h.step config (.request request)).run config after
    later.response? h.reactions.length = some .backToPage ∨
      later.response? h.reactions.length = none ∧
        after.countP (HostEvent.answersErrand h.reactions.length) < route.stages := by
  intro later
  obtain ⟨task, htask, hstages⟩ := awaits_of_runsIn config hs hasks hruns
  rcases errand_run (coherent_step hs (.request request)) htask hstore with
    ⟨next, hnext, hle⟩ | hresponds
  · right
    have hpos := next.stagesLeft_pos
    refine ⟨?_, by omega⟩
    rw [response?, hnext]
    rfl
  · left
    rw [response?, hresponds]
    rfl

/-- **What becomes of each request**, in any state that the browser can reach and whatever else is
going on at the host. What is unknown, a query that fails and a row that is not bound are rejected at
once, and nothing changes; nor does it on a look at the state, and the page only takes the alerts
away. Every other errand is sent back to the page, as soon as it has been answered often enough and
whatever happens meanwhile. So a row is not found exactly if it was not bound when the request
arrived. The store is expected to fail for its own reasons only. -/
theorem responses_of_request (config : Config) (moves : List Event) (first : Progress)
    (reactions : List Reaction) (request : Request) (after : List HostEvent)
    (hstore : ∀ failure, .answerErrand reactions.length (.error failure) ∈ after →
      failure.isOfResource = true) :
    let h : Hosting := ⟨(World.initial.run config moves).state, first, reactions⟩
    let number := reactions.length
    let received := h.step config (.request request)
    let later := received.run config after
    (request.IsUnknown → ∃ response, response.status = 404 ∧ received = h.responding response) ∧
    (∀ e, request.QueryFails e →
      ∃ response, response.status = 400 ∧ received = h.responding response) ∧
    (∀ row, request.Asks (.expand row) → ¬ h.state.IsBound row →
      ∃ response, response.status = 404 ∧ received = h.responding response) ∧
    (request.Asks .state → received = h.responding (.report h.state.report)) ∧
    (request.Asks .page → received =
      { h with state := { h.state with alerts := ⟨[]⟩ } }.responding (.page h.state.page)) ∧
    (∀ route, request.Asks route → route.RunsIn h.state →
      received.response? number = none ∧
      (∀ response, later.response? number = some response →
        response.status = 302 ∧ response.location = some "/") ∧
      (route.stages ≤ after.countP (HostEvent.answersErrand number) →
        (later.response? number).isSome = true)) ∧
    (∀ row response, request.Asks (.expand row) → later.response? number = some response →
      (response.status = 404 ↔ ¬ h.state.IsBound row)) := by
  intro h number received later
  have hs : h.state.Coherent := World.coherent_run World.coherent_initial moves
  have hback : ∀ route, request.Asks route → route.RunsIn h.state → ∀ response,
      later.response? number = some response → response = .backToPage := by
    intro route hasks hruns response hresponse
    rcases response?_of_runsIn hs hasks hruns hstore with hsome | ⟨hnone, -⟩
    · exact Option.some.inj (hresponse.symm.trans hsome)
    · cases hresponse.symm.trans hnone
  refine ⟨?_, ?_, ?_, ?_, ?_, ?_, ?_⟩
  · intro hunknown
    refine ⟨.notFound, rfl, step_request_of_respond ?_⟩
    rw [Host.receive, Route.ofRequest_of_isUnknown hunknown]
  · intro e hfails
    refine ⟨.badQuery e, rfl, step_request_of_respond ?_⟩
    rw [Host.receive, Route.ofRequest_of_queryFails hfails]
  · intro row hasks hrow
    exact ⟨.notExpandable row, rfl, step_request_of_not_isBound config hs hasks hrow⟩
  · intro hasks
    exact step_request_of_respond (receive_of_asks h hasks)
  · intro hasks
    show Hosting.mk _ _ _ = _
    rw [receive_of_asks h hasks]
    rfl
  · intro route hasks hruns
    refine ⟨?_, ?_, ?_⟩
    · obtain ⟨task, htask, -⟩ := awaits_of_runsIn config hs hasks hruns
      show received.reactions[number]?.bind _ = none
      rw [htask]
      rfl
    · intro response hresponse
      rw [hback route hasks hruns response hresponse]
      exact ⟨rfl, rfl⟩
    · intro henough
      rcases response?_of_runsIn hs hasks hruns hstore with hsome | ⟨-, hless⟩
      · exact Option.isSome_of_eq_some hsome
      · exact absurd henough (Nat.not_le_of_lt hless)
  · intro row response hasks hresponse
    by_cases hrow : h.state.IsBound row
    · rw [hback (.expand row) hasks hrow response hresponse]
      constructor
      · intro hstatus
        cases hstatus
      · intro hnot
        exact absurd hrow hnot
    · have hsent := response?_of_responding
        (step_request_of_not_isBound config hs hasks hrow) after
      have hresponse : response = .notExpandable row :=
        Option.some.inj (hresponse.symm.trans hsent)
      rw [hresponse]
      exact ⟨fun _ => hrow, fun _ => rfl⟩

/-- A row is being expanded when the reader goes on to another node, so that the row is gone by the
time the store fails to give its node. The errand is sent back to the page all the same. -/
theorem responses_of_request_for_lost_row :
    let node : Answer := .ok (.array [.object [], .string "/0/all"])
    let relationships : Answer :=
      .ok (.array [.array [.string "/node/0", .string "/node/3", .string "KNOWS"]])
    let moves := [Event.start .showFirst, .resume 0 node, .resume 0 relationships]
    let h : Hosting := ⟨(World.initial.run {} moves).state, .ended (.ok .rendered), []⟩
    let request : Request := ⟨"GET", "/expand?row=0"⟩
    let after := [HostEvent.request ⟨"GET", "/go?id=5"⟩,
      .answerErrand 0 (.error (.fetch "/node/3" "404 Not Found"))]
    let later := (h.step {} (.request request)).run {} after
    request.Asks (.expand 0) ∧ h.state.IsBound 0 ∧ ¬ later.state.IsBound 0 ∧
      ∃ response, later.response? 0 = some response ∧ response.status = 302 := by
  intro node relationships moves h request after later
  have hasks : request.Asks (.expand 0) := by
    apply Request.Asks.expand rfl
    · decide +kernel
    · decide +kernel
  have hlinks : h.state.links =
      [⟨0, .finish, "/node/3", .navigate⟩, ⟨0, .expand, "/node/3", .expand⟩] := by
    decide +kernel
  have hbound : h.state.IsBound 0 :=
    ⟨⟨0, .expand, "/node/3", .expand⟩, by rw [hlinks]; decide, rfl, rfl⟩
  have hlost : later.state.links = [] := by decide +kernel
  have hstore : ∀ failure, .answerErrand 0 (.error failure) ∈ after →
      failure.isOfResource = true := by
    intro failure hmem
    simp only [after, List.mem_cons, List.not_mem_nil, or_false, reduceCtorEq, false_or,
      HostEvent.answerErrand.injEq, Except.error.injEq, true_and] at hmem
    rw [hmem]
    rfl
  obtain ⟨-, -, -, -, -, hruns, -⟩ :=
    responses_of_request {} moves (.ended (.ok .rendered)) [] request after hstore
  obtain ⟨-, hresponse, henough⟩ := hruns (.expand 0) hasks hbound
  obtain ⟨response, hsent⟩ := Option.isSome_iff_exists.mp (henough (by decide))
  refine ⟨hasks, hbound, ?_, response, hsent, (hresponse response hsent).1⟩
  rintro ⟨link, hmem, -⟩
  rw [hlost] at hmem
  cases hmem

end Hosting

end GraphBrowser
