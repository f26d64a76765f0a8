import GraphBrowser.Proofs.Host.LinkRequests
import GraphBrowser.Proofs.Host.Run

/-!
# The links of the page that is served

The page is made from what is on display, and what happens on a request is made from the links that
the browser remembers. An anchor of the page does what its link says, because the host never shows
two tables at once: no request starts a load below what is on display.

## Main definitions

* `Host.Starts` — a request starts a command whose task asks for the resource at an address
* `Link.Dispatched` — what has to become of the request that an anchor of the page leads to

## Main statements

* `Link.dispatched_href` — what the anchor of a link leads to is dispatched as the link says
* `Hosting.links_of_page` — **every anchor of the page does what its link says**
-/

namespace GraphBrowser

/-! ### What becomes of a request -/

/-- In a state, a request for a target starts a command on behalf of an errand, and the task of the
command asks for the resource at an address. -/
def Host.Starts (config : Config) (s : BrowserState) (target : String) (route : Route)
    (command : Command) (url : String) : Prop :=
  ∃ task, (command.start config s).2 = .waiting task ∧ task.url = url ∧
    Host.receive config s ⟨"GET", target⟩ = ((command.start config s).1, .await route task)

/-- What has to become of the request that an anchor leads to: a link to a node shows it instead of
what is on display, and an expand control shows its node in the container of its row. Rows are
numbered by machine words, and a number that does not fit into one is no row. -/
def Link.Dispatched (config : Config) (s : BrowserState) (link : Link) (href : String) : Prop :=
  match link.action with
  | .navigate =>
    Host.Starts config s href (.navigate link.target) (.showInstead link.target) link.target
  | .expand =>
    link.row < Nat.pow 2 64 →
      Host.Starts config s href (.expand link.row) (.expandRow link.row) link.target

namespace Host

variable (config : Config) (s : BrowserState)

/-- An errand is started with its command. -/
theorem starts_of_route {target url : String} {route : Route} {command : Command} {task : Suspended}
    (hroute : Route.ofRequest ⟨"GET", target⟩ = .ok route)
    (hreceive : route.receive config s = ((command.start config s).1,
      route.react (command.start config s).2))
    (htask : (command.start config s).2 = .waiting task) (hurl : task.url = url) :
    Starts config s target route command url := by
  refine ⟨task, htask, hurl, ?_⟩
  rw [receive, hroute]
  show route.receive config s = _
  rw [hreceive, htask]
  rfl

/-- **The link to a node shows the node at exactly its address.** -/
theorem starts_node (url : String) :
    Starts config s (LinkTargets.hosted.node url) (.navigate url) (.showInstead url) url :=
  starts_of_route config s (Route.ofRequest_node url) rfl
    (congrArg Prod.snd (Intent.start_replace s s.controls url (resourceId url))) rfl

/-- **An expand control expands its row**, and the task asks for the target of its link. -/
theorem starts_expand (hs : s.Coherent) {link : Link} (hmem : link ∈ s.links)
    (hexpands : link.expands link.row = true) (hrow : link.row < Nat.pow 2 64) :
    Starts config s (LinkTargets.hosted.expand link.row link.target) (.expand link.row)
      (.expandRow link.row) link.target := by
  have hagree : s.links = s.surface.links := hs.linksAgree
  have hfind : s.surface.links.find? (Link.expands link.row) = some link :=
    Surface.find?_expands_links (hagree ▸ hmem) hexpands
  rw [Surface.find?_expands_links_eq] at hfind
  obtain ⟨expander, hexpander, hlink⟩ := Option.map_eq_some_iff.mp hfind
  obtain ⟨surface, -, hexpand⟩ := BrowserState.expand_of_some hs.linksAgree hexpander
  exact starts_of_route config s (Route.ofRequest_expand hrow link.target) rfl
    (congrArg Prod.snd hexpand) (congrArg Link.target hlink)

end Host

/-- **What the anchor of a link leads to is dispatched as the link says.** -/
theorem Link.dispatched_href (config : Config) {s : BrowserState} (hs : s.Coherent) {link : Link}
    (hmem : link ∈ s.links) : link.Dispatched config s (link.href .hosted) := by
  rw [Dispatched, href]
  cases haction : link.action with
  | navigate => exact Host.starts_node config s link.target
  | expand =>
      intro hrow
      exact Host.starts_expand config s hs hmem (by simp [Link.expands, haction]) hrow

/-! ### The page -/

/-- The page is served at the root, and it takes the alerts away. -/
theorem Host.receive_page (config : Config) (s : BrowserState) :
    receive config s ⟨"GET", "/"⟩ =
      ({ s with alerts := s.alerts.takeAll.2 }, .respond (.page s.page)) := by
  rw [receive, Route.ofRequest_page]
  rfl

namespace Hosting

/-- **Every anchor of the page does what its link says.**  Whatever requests have arrived and
whatever has been answered since the host began to load its first node, it serves a page on request.
The anchors in the result region of this page lead, one for one and in order, to what is dispatched
as the links of the browser say. -/
theorem links_of_page (config : Config) (events : List HostEvent) :
    let h := (beginning config).run config events
    let received := Host.receive config h.state ⟨"GET", "/"⟩
    ∃ page, received.2 = .respond (.page page) ∧ received.1.links = h.state.links ∧
      List.Forall₂ (Link.Dispatched config received.1) received.1.links
        (Page.resultHrefs page) := by
  intro h received
  obtain ⟨moves, hmoves, hfollows⟩ := exists_run config events
  have hreceived : received =
      ({ h.state with alerts := h.state.alerts.takeAll.2 }, .respond (.page h.state.page)) :=
    Host.receive_page config h.state
  -- taking the alerts away is one more event of the run
  have hcoherent : received.1.Coherent := by
    have hstate : received.1 =
        (World.initial.run config ((.start .showFirst :: moves) ++ [.takeAlerts])).state := by
      rw [hreceived, World.run_append, hfollows.state]
      rfl
    rw [hstate]
    exact World.coherent_run World.coherent_initial _
  have hlinks : received.1.links = h.state.links := by rw [hreceived]
  have hhrefs : h.state.surface.hrefs .hosted = received.1.links.map (Link.href .hosted) := by
    rw [hlinks, hfollows.state]
    exact World.hrefs_run config .hosted hmoves
  refine ⟨h.state.page, by rw [hreceived], hlinks, ?_⟩
  rw [BrowserState.page, Page.resultHrefs_html, hhrefs, List.forall₂_map_right_iff,
    List.forall₂_same]
  intro link hmem
  exact Link.dispatched_href config hcoherent hmem

/-- A relationship leads to an address full of characters that mean something in a query or in
markup, and its row is being expanded. The page has two anchors: one shows the node at exactly that
address, the other expands the row once more. -/
theorem links_of_page_to_hostile_address :
    let target := "/node/3?a='b'&c=<d>#e"
    let node : Answer := .ok (.array [.object [], .string "/2/all"])
    let relationships : Answer :=
      .ok (.array [.array [.string "/node/0", .string target, .string "KNOWS"]])
    let events := [HostEvent.answerFirst node, .answerFirst relationships,
      .request ⟨"GET", "/expand?row=0"⟩]
    let h := (beginning {}).run {} events
    let received := Host.receive {} h.state ⟨"GET", "/"⟩
    ∃ page first second, received.2 = .respond (.page page) ∧
      Page.resultHrefs page = [first, second] ∧
      Host.Starts {} received.1 first (.navigate target) (.showInstead target) target ∧
      Host.Starts {} received.1 second (.expand 0) (.expandRow 0) target := by
  intro target node relationships events h received
  have hlinks : h.state.links =
      [⟨0, .finish, target, .navigate⟩, ⟨0, .expand, target, .expand⟩] := by
    decide +kernel
  obtain ⟨page, hpage, hsame, hhrefs⟩ := links_of_page {} events
  rw [hsame, hlinks] at hhrefs
  generalize hresult : Page.resultHrefs page = hrefs at hhrefs
  cases hhrefs with
  | @cons _ first _ _ hfirst hrest =>
      cases hrest with
      | @cons _ second _ _ hsecond hnone =>
          cases hnone
          exact ⟨page, first, second, hpage, hresult, hfirst, hsecond (by decide)⟩

end Hosting

end GraphBrowser
