import GraphBrowser.Proofs.Navigation.Display
import GraphBrowser.Proofs.Navigation.Latest
import GraphBrowser.Proofs.Resource.Address

/-!
# Links of a node to itself

The table of a node has no link to the address from which the node was loaded, whatever the store
says about its relationships. This hangs on ids: the one under which a load shows its node, and the
one that is read off the addresses in the table.

## Main definitions

* `Command.ShowsOwnId` — whether a command shows its node under the id in the node's address
* `Command.typedId?` — the id that has been typed for a command
* `RelationshipTable.ShowsEndsAt` — how the ends at an address are shown

## Main statements

* `World.exists_rendered_table` — **a load that ends with everything on display has rendered its
  relationships under its own id**
* `World.own_address_never_linked` — no link leads to the node itself, and what becomes of typed ids
  that are no segment

## Design notes

**A typed id is shown as it is typed.**  If it is empty or has a separator, no address has it as its
id, so that the table cannot tell the node from another one.
-/

namespace GraphBrowser

/-! ### Ids of commands -/

namespace Command

/-- Whether a command shows its node under the id in the node's address. A typed id has to be one
segment of an address; the id in a given address must not have blanks at its ends. -/
def ShowsOwnId (controls : Controls) : Command → Prop
  | .showFirst => True
  | .showBelow url => trimmed (resourceId url) = resourceId url
  | .showInstead url => trimmed (resourceId url) = resourceId url
  | .goTo input => IsSegment (trimmed input)
  | .pressKey _ => IsSegment (trimmed controls.input)
  | .expandRow _ => True
  | .follow link => trimmed (resourceId link.target) = resourceId link.target

/-- The id that has been typed for a command, if it is one that takes its id from the controls. -/
def typedId? (controls : Controls) : Command → Option String
  | .showFirst => none
  | .showBelow _ => none
  | .showInstead _ => none
  | .goTo input => some (trimmed input)
  | .pressKey key =>
    match key with
    | .enter => some (trimmed controls.input)
    | .char _ => none
    | .other => none
  | .expandRow _ => none
  | .follow _ => none

variable {config : Config} {controls : Controls} {command : Command} {destination : Destination}

/-- An id that is trimmed before it is used comes back if it is one segment. -/
theorem resourceId_nodeAddress_trimmed_eq_iff (base input : String) :
    resourceId (nodeAddress base (trimmed input)) = trimmed (trimmed input) ↔
      IsSegment (trimmed input) := by
  rw [resourceId_nodeAddress_eq_iff, trimmed_trimmed]

/-- A typed id comes back from the address that is built for it exactly if it is one segment. -/
theorem resourceId_url_eq_iff_of_typed {id : String}
    (hdestination : (command.intent config controls).destination? = some destination)
    (htyped : command.typedId? controls = some id) :
    resourceId destination.url = destination.id ↔ IsSegment id := by
  cases command using cases_by_kind with
  | goTo input =>
      cases hdestination
      cases htyped
      exact resourceId_nodeAddress_trimmed_eq_iff config.baseUrl input
  | enter =>
      cases hdestination
      cases htyped
      exact resourceId_nodeAddress_trimmed_eq_iff config.baseUrl controls.input
  | _ => cases htyped

/-- **The id of a node is the one in its address** for commands that show it so. -/
theorem resourceId_url_eq (h : command.ShowsOwnId controls)
    (hdestination : (command.intent config controls).destination? = some destination) :
    resourceId destination.url = destination.id := by
  cases command using cases_by_kind with
  | showFirst =>
      cases hdestination
      exact (trimmed_resourceId_nodeAddress config.baseUrl config.firstNodeId).symm
  | showBelow url =>
      cases hdestination
      exact h.symm
  | showInstead url =>
      cases hdestination
      exact h.symm
  | goTo input => exact (resourceId_url_eq_iff_of_typed hdestination rfl).mpr h
  | enter => exact (resourceId_url_eq_iff_of_typed hdestination rfl).mpr h
  | navigate row place target =>
      cases hdestination
      exact h.symm
  | _ => cases hdestination

end Command

/-- No load shows its node under an id with blanks at its ends. -/
theorem Intent.trimmed_id {intent : Intent} {destination : Destination}
    (h : intent.destination? = some destination) : trimmed destination.id = destination.id := by
  cases intent with
  | append url id =>
      cases h
      exact trimmed_trimmed id
  | replace controls url id =>
      cases h
      exact trimmed_trimmed id
  | expand row => cases h
  | nothing => cases h

/-! ### The ends at an address -/

/-- All ends at an address are shown in the same way, in the table of the given relationships. -/
def RelationshipTable.ShowsEndsAt (table : RelationshipTable) (relationships : List Relationship)
    (url : String) (shown : Endpoint) : Prop :=
  table.rows.length = relationships.length ∧
  ∀ (i : Nat) (row : RelationshipRow) (r : Relationship),
    table.rows[i]? = some row → relationships[i]? = some r →
    (r.start = url → row.start = shown) ∧ (r.finish = url → row.finish = shown)

@[simp] theorem Relationship.start_row (mode : TableMode) (id : String) (r : Relationship) :
    (r.row mode id).start = .ofUrl mode id r.start := by
  simp only [Relationship.row]

@[simp] theorem Relationship.finish_row (mode : TableMode) (id : String) (r : Relationship) :
    (r.row mode id).finish = .ofUrl mode id r.finish := by
  simp only [Relationship.row]

namespace LinkedTable

variable (relationships : List Relationship) (id : String) (mode : TableMode)

/-- An address decides how the ends at it are shown. -/
theorem showsEndsAt (url : String) :
    (ofRelationships relationships id mode).table.ShowsEndsAt relationships url
      (.ofUrl mode (trimmed id) url) := by
  refine ⟨List.length_map _, ?_⟩
  intro i row r hrow hr
  rw [ofRelationships, List.getElem?_map, hr, Option.map_some] at hrow
  cases hrow
  rw [Relationship.start_row, Relationship.finish_row]
  exact ⟨fun hstart => by rw [hstart], fun hfinish => by rw [hfinish]⟩

variable {relationships id mode}

/-- An end that is a link leads to a node with another id. -/
theorem resourceId_ne_of_ofUrl_eq_link {url shown target : String}
    (h : Endpoint.ofUrl mode id url = .link shown target) : resourceId target ≠ id := by
  rw [Endpoint.ofUrl] at h
  split at h
  · cases h
  · cases h
    assumption

/-- No end of a table is a link to an address with the id of the node. -/
theorem ends_ne_link {url : String} (hurl : resourceId url = trimmed id) {row : RelationshipRow}
    (hrow : row ∈ (ofRelationships relationships id mode).table.rows) (shown : String) :
    row.start ≠ .link shown url ∧ row.finish ≠ .link shown url := by
  rw [ofRelationships, List.mem_map] at hrow
  obtain ⟨r, -, rfl⟩ := hrow
  rw [Relationship.start_row, Relationship.finish_row]
  exact ⟨fun h => resourceId_ne_of_ofUrl_eq_link h hurl,
    fun h => resourceId_ne_of_ofUrl_eq_link h hurl⟩

end LinkedTable

namespace Relationship

variable {mode : TableMode} {id : String} {link : Link}

/-- A link in a row that navigates leads to a node with another id. -/
theorem resourceId_target_ne {row : Nat} {r : Relationship} (hmem : link ∈ r.links mode id row)
    (hnavigate : link.action = .navigate) : resourceId link.target ≠ id := by
  simp only [links, List.mem_append] at hmem
  rcases hmem with (hstart | hfinish) | hexpand
  · split at hstart
    · cases hstart
    · rw [List.mem_singleton.mp hstart]
      assumption
  · split at hfinish
    · cases hfinish
    · rw [List.mem_singleton.mp hfinish]
      assumption
  · cases mode with
    | plain => cases hexpand
    | expanding =>
        rw [List.mem_singleton.mp hexpand] at hnavigate
        cases hnavigate

/-- The same for the links in consecutive rows. -/
theorem resourceId_target_ne_of_mem_linksFrom {relationships : List Relationship} {row : Nat}
    (hmem : link ∈ linksFrom mode id row relationships) (hnavigate : link.action = .navigate) :
    resourceId link.target ≠ id := by
  induction relationships generalizing row with
  | nil => cases hmem
  | cons r rest ih =>
      rw [linksFrom_cons, List.mem_append] at hmem
      rcases hmem with hfirst | hlater
      · exact resourceId_target_ne hfirst hnavigate
      · exact ih hlater

end Relationship

/-! ### Loads that end with everything on display -/

/-- **The answer that ends a load with everything on display has its relationships.** -/
theorem LoadCourse.exists_relationships (config : Config) {load : Load} {destination : Destination}
    {asked : List String} {answered : List Answer} {suspended : Suspended} {s : BrowserState}
    {answer : Answer} (h : LoadCourse load destination.url asked answered (.waiting suspended))
    (hlatest : s.loads.latest = suspended.loadToken)
    (hrendered : (suspended.resume config s answer).2 = .ended (.ok .rendered)) :
    ∃ relationships,
      destination.relationships? (answered ++ [answer]) = some relationships ∧
      (suspended.resume config s answer).1 = s.showRelationships
        (.ofRelationships relationships (s.current.id.getD load.id) config.tableMode) := by
  cases h with
  | awaitsNode =>
      rw [Suspended.resume_node hlatest] at hrendered
      cases hnode : answer.node destination.url <;> rw [hnode] at hrendered <;> cases hrendered
  | @awaitsRelationships first node hnode =>
      rw [Suspended.resume_relationships hlatest] at hrendered ⊢
      cases hlist : answer.relationships node.allRelationships with
      | error failure =>
          rw [hlist] at hrendered
          cases hrendered
      | ok relationships =>
          refine ⟨relationships, ?_, rfl⟩
          simp [Destination.relationships?, Destination.node?, hnode, hlist, Except.toOption]

namespace World

variable {config : Config} {w : World} {command : Command} {destination : Destination}

/-- A load that was not overtaken is shown under its own id. -/
theorem currentId_of_latest (hbounded : w.TokensBounded)
    (hdestination : (command.intent config w.state.controls).destination? = some destination)
    {during : List Event} {suspended : Suspended}
    (hwaiting : ((w.step config (.start command)).run config during).waiting? w.tasks.length =
      some suspended)
    (hlatest : ((w.step config (.start command)).run config during).state.loads.latest =
      suspended.loadToken) :
    ((w.step config (.start command)).run config during).state.current.id =
      some destination.id := by
  have hid : command.shownId? config w.state.controls = some destination.id := by
    rw [Command.destination?_intent] at hdestination
    exact (Command.destination?_eq_some_iff.mp hdestination).2
  -- the token of the load is still the latest, so no other load has been started
  have htoken : suspended.loadToken = w.state.loads.latest + 1 :=
    (loadToken_run (waiting?_start hdestination) hwaiting).2
  have hcount := latest_run config (w.step config (.start command)) during
  rw [hlatest, htoken, latest_step_of_destination hdestination] at hcount
  have hnone : during.countP Event.startsLoad = 0 := by omega
  refine ((follows_start config hbounded hid).run ?_).currentId
  intro event hmem
  rw [← Bool.not_eq_true]
  exact List.countP_eq_zero.mp hnone event hmem

/-- **A load that ends with everything on display has rendered its relationships under its own
id.** -/
theorem exists_rendered_table (hbounded : w.TokensBounded)
    (hdestination : (command.intent config w.state.controls).destination? = some destination)
    {during : List Event} {event : Event}
    (hpending : ((w.step config (.start command)).run config during).result? w.tasks.length = none)
    (hended : (((w.step config (.start command)).run config during).step config event).result?
      w.tasks.length = some (.ok .rendered)) :
    ∃ relationships,
      destination.relationships?
          (w.answered config w.tasks.length (.start command :: during ++ [event])) =
        some relationships ∧
      (((w.step config (.start command)).run config during).step config event).state =
        ((w.step config (.start command)).run config during).state.showRelationships
          (.ofRelationships relationships destination.id config.tableMode) := by
  obtain ⟨progress, hprogress, hcourse⟩ := LoadCourse.run_start hdestination during
  rw [run_cons] at hprogress
  cases progress with
  | ended result =>
      rw [result?_eq_some_iff.mpr hprogress] at hpending
      cases hpending
  | waiting suspended =>
      have hwaiting := waiting?_eq_some_iff.mpr hprogress
      obtain ⟨answer, rfl, hresume⟩ := exists_resume_of_result? hwaiting hended
      have hlatest : ((w.step config (.start command)).run config during).state.loads.latest =
          suspended.loadToken := by
        by_contra hne
        rw [Suspended.resume_of_ne hne] at hresume
        cases hresume
      have hanswered :
          w.answered config w.tasks.length
              (.start command :: during ++ [.resume w.tasks.length answer]) =
            w.answered config w.tasks.length (.start command :: during) ++ [answer] := by
        rw [answered_append, answered_cons _ [], answered_nil, List.append_nil, run_cons,
          answers_of_waiting hwaiting]
      obtain ⟨relationships, hrelationships, hstate⟩ :=
        hcourse.exists_relationships config hlatest hresume
      rw [currentId_of_latest hbounded hdestination hwaiting hlatest] at hstate
      refine ⟨relationships, ?_, ?_⟩
      · rw [hanswered, hrelationships]
      · exact (congrArg World.state (resume_of_waiting hwaiting answer)).trans hstate

/-! ### Whole runs -/

/-- **No link leads from a node to itself.**  Let a load end with everything on display. In the
table that it renders, the ends at the address from which the node was loaded are shown as the node
itself, and nothing in the table and none of the links leads there, whatever the store has answered,
if the load shows the node under the id in this address. Typed ids that are not one segment of an
address are shown as they are typed; then all ends at the address of the node are links to it. -/
theorem own_address_never_linked (config : Config) (before during : List Event) (command : Command)
    (event : Event) :
    let w := initial.run config before
    let task := w.tasks.length
    let pending := (w.step config (.start command)).run config during
    let ended := pending.step config event
    ∀ destination, command.destination? config w.state.controls = some destination →
      pending.result? task = none → ended.result? task = some (.ok .rendered) →
      (w.asked config task (.start command :: during)).head? = some destination.url ∧
      ∃ (relationships : List Relationship) (table : RelationshipTable),
        destination.relationships?
          (w.answered config task (.start command :: during ++ [event])) = some relationships ∧
        ended.state.surface = pending.state.surface.append table.blocks ∧
        (command.ShowsOwnId w.state.controls →
          table.ShowsEndsAt relationships destination.url (.thisNode config.tableMode.ownLabel) ∧
          (∀ row ∈ table.rows, ∀ id,
            row.start ≠ .link id destination.url ∧ row.finish ≠ .link id destination.url) ∧
          ∀ link ∈ ended.state.links, link.action = .navigate → link.target ≠ destination.url) ∧
        ∀ id, command.typedId? w.state.controls = some id → ¬ IsSegment id →
          table.ShowsEndsAt relationships destination.url
            (.link (resourceId destination.url) destination.url) := by
  intro w task pending ended destination hdestination hpending hended
  rw [← Command.destination?_intent] at hdestination
  have hbounded : w.TokensBounded := tokensBounded_run tokensBounded_initial before
  have hasked : (w.asked config task (.start command :: during)).head? = some destination.url := by
    have hasks : w.asks config task (.start command) = [destination.url] := by
      rw [asks, if_pos rfl, Command.start, Intent.start_of_destination hdestination]
      rfl
    rw [asked_cons, hasks]
    rfl
  obtain ⟨relationships, hrelationships, hstate⟩ :=
    exists_rendered_table hbounded hdestination hpending hended
  have hends :=
    LinkedTable.showsEndsAt relationships destination.id config.tableMode destination.url
  have htrimmed : trimmed destination.id = destination.id := Intent.trimmed_id hdestination
  rw [Endpoint.ofUrl, htrimmed] at hends
  refine ⟨hasked, relationships, _, hrelationships, congrArg BrowserState.surface hstate, ?_, ?_⟩
  · intro hown
    have hid : resourceId destination.url = destination.id :=
      Command.resourceId_url_eq hown hdestination
    rw [if_pos hid] at hends
    refine ⟨hends, ?_, ?_⟩
    · intro row hrow id
      exact LinkedTable.ends_ne_link (by rw [hid, htrimmed]) hrow id
    · intro link hmem hnavigate heq
      have hlinks := congrArg BrowserState.links hstate
      rw [show ended.state.links = _ from hlinks] at hmem
      refine Relationship.resourceId_target_ne_of_mem_linksFrom hmem hnavigate ?_
      rw [heq, hid, htrimmed]
  · intro id htyped hsegment
    have hid : ¬ resourceId destination.url = destination.id := fun heq =>
      hsegment ((Command.resourceId_url_eq_iff_of_typed hdestination htyped).mp heq)
    rwa [if_neg hid] at hends

/-- The id `9` is typed with blanks around it while an older load is going on. The relationships of
the node lead from its own address to another one and back. When `a/b` is typed instead, the end at
the address of the node is a link. -/
theorem own_address_of_typed_ids :
    let node : Answer := .ok (.array [.object [], .string "/all"])
    let url := "http://localhost:7474/db/data/node/9"
    let path := "http://localhost:7474/db/data/node/a/b"
    let list : Answer := .ok (.array [.array [.string url, .string "/3", .string "KNOWS"],
      .array [.string "/3", .string url, .string "LIKES"]])
    let loop : Answer := .ok (.array [.array [.string path, .string path, .string "KNOWS"]])
    let before := [Event.start (.showBelow "/1")]
    let during := [Event.resume 1 node, .start (.expandRow 0), .resume 0 node]
    let w := initial.run {} before
    let pending := (w.step {} (.start (.goTo " 9 "))).run {} during
    let ended := pending.step {} (.resume 1 list)
    let typed := (w.step {} (.start (.goTo "a/b"))).run {} during
    (Command.goTo " 9 ").destination? {} w.state.controls = some ⟨url, "9"⟩ ∧
    pending.result? 1 = none ∧ ended.result? 1 = some (.ok .rendered) ∧
    (Command.goTo " 9 ").ShowsOwnId w.state.controls ∧
    (∀ link ∈ ended.state.links, link.action = .navigate → link.target ≠ url) ∧
    (∃ table : RelationshipTable, ended.state.surface = pending.state.surface.append table.blocks ∧
      table.ShowsEndsAt [⟨url, "/3", "KNOWS"⟩, ⟨"/3", url, "LIKES"⟩] url (.thisNode "thisNode")) ∧
    (Command.goTo "a/b").typedId? w.state.controls = some "a/b" ∧ ¬ IsSegment "a/b" ∧
    ∃ table : RelationshipTable,
      (typed.step {} (.resume 1 loop)).state.surface = typed.state.surface.append table.blocks ∧
      table.ShowsEndsAt [⟨path, path, "KNOWS"⟩] path (.link (resourceId path) path) := by
  intro node url path list loop before during w pending ended typed
  have hdestination : (Command.goTo " 9 ").destination? {} w.state.controls = some ⟨url, "9"⟩ :=
    congrArg some (congrArg₂ Destination.mk (by decide +kernel) (by decide +kernel))
  have hpending : pending.result? 1 = none := by decide +kernel
  have hended : ended.result? 1 = some (.ok .rendered) := by decide +kernel
  have hown : (Command.goTo " 9 ").ShowsOwnId w.state.controls := by
    show IsSegment (trimmed " 9 ")
    decide +kernel
  obtain ⟨-, found, table, hfound, hsurface, hnever, -⟩ := own_address_never_linked {} before during
    (.goTo " 9 ") (.resume 1 list) ⟨url, "9"⟩ hdestination hpending hended
  obtain ⟨hends, -, hlinks⟩ := hnever hown
  have hlist : Destination.relationships? ⟨url, "9"⟩
      (w.answered {} 1 (.start (.goTo " 9 ") :: during ++ [.resume 1 list])) =
        some [⟨url, "/3", "KNOWS"⟩, ⟨"/3", url, "LIKES"⟩] := by decide +kernel
  obtain rfl := Option.some.inj (hfound.symm.trans hlist)
  have htyped : (Command.goTo "a/b").typedId? w.state.controls = some "a/b" := by decide +kernel
  have hpath : ¬ IsSegment "a/b" := by decide +kernel
  have hgoes : (Command.goTo "a/b").destination? {} w.state.controls = some ⟨path, "a/b"⟩ :=
    congrArg some (congrArg₂ Destination.mk (by decide +kernel) (by decide +kernel))
  have hwaits : typed.result? 1 = none := by decide +kernel
  have hends' : (typed.step {} (.resume 1 loop)).result? 1 = some (.ok .rendered) := by
    decide +kernel
  obtain ⟨-, found, loops, hfound, happended, -, hlinked⟩ := own_address_never_linked {} before
    during (.goTo "a/b") (.resume 1 loop) ⟨path, "a/b"⟩ hgoes hwaits hends'
  have hloop : Destination.relationships? ⟨path, "a/b"⟩
      (w.answered {} 1 (.start (.goTo "a/b") :: during ++ [.resume 1 loop])) =
        some [⟨path, path, "KNOWS"⟩] := by decide +kernel
  obtain rfl := Option.some.inj (hfound.symm.trans hloop)
  -- the worlds are compared as they are written: to evaluate them here would take long
  refine ⟨hdestination, hpending, hended, hown, ?_, ⟨table, ?_, hends⟩, htyped, hpath, loops, ?_,
    hlinked "a/b" htyped hpath⟩
  · with_reducible exact hlinks
  · with_reducible exact hsurface
  · with_reducible exact happended

/-- The id `a/b` is typed, and the node is asked for at an address that ends with `b`. The end at
this address is a link to it. The address `5 /` has an id that ends with a blank, which is lost when
the id becomes current; the end at this address is a link to it as well. -/
theorem own_address_linked :
    let node : Answer := .ok (.array [.object [], .string "/all"])
    let loop (url : String) : Answer :=
      .ok (.array [.array [.string url, .string "/3", .string "KNOWS"]])
    let typed := "http://localhost:7474/db/data/node/a/b"
    let run (command : Command) (url : String) :=
      [Event.start command, .resume 0 node, .resume 0 (loop url)]
    (initial.asked {} 0 (run (.goTo "a/b") typed)).head? = some typed ∧
    (initial.run {} (run (.goTo "a/b") typed)).result? 0 = some (.ok .rendered) ∧
    ⟨0, .start, typed, .navigate⟩ ∈ (initial.run {} (run (.goTo "a/b") typed)).state.links ∧
    (initial.asked {} 0 (run (.showInstead "5 /") "5 /")).head? = some "5 /" ∧
    (initial.run {} (run (.showInstead "5 /") "5 /")).result? 0 = some (.ok .rendered) ∧
    ⟨0, .start, "5 /", .navigate⟩ ∈
      (initial.run {} (run (.showInstead "5 /") "5 /")).state.links := by
  decide +kernel

end World

end GraphBrowser
