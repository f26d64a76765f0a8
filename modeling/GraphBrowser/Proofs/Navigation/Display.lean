import GraphBrowser.Proofs.Navigation.Exchange
import GraphBrowser.Proofs.Text.Trim
import GraphBrowser.Proofs.View.Links
import Mathlib.Data.List.Forall2

/-!
# What is on display

Loads that are started below one another share one surface, and several of them may be going on at
once. What each has put there stays in one piece, in the order in which they were started.

## Main definitions

* `Destination.output` — what a load has to show, by the answers that have reached it
* `ShownLoad`, `World.shownLoads` — the loads that were started since the view was last cleared
* `World.MissesNode`, `World.MissesRelationships` — where a load waits or has failed
* `World.Displays` — the invariant: the surface consists of the outputs of these loads

## Main statements

* `World.displays_run` — **the surface consists of whole pieces of output after every run**
* `World.surface_eq_outputs` — the pieces, and how long the last one is

## Design notes

**The latest load has shown all that it has to show so far**, whereas a load that was overtaken may
be answered further without showing more. So the last piece is an output, and those before it are
beginnings of outputs.

**Outputs and loads are said without the functions that make them.**  The blocks of an output are
spelled out, and which loads there are is told by the commands.
-/

namespace GraphBrowser

/-! ### The output of a load -/

namespace Destination

/-- The node in the first answer for a load. -/
def node? (destination : Destination) (answers : List Answer) : Option Node :=
  answers[0]?.bind fun answer => (answer.node destination.url).toOption

/-- The relationships in the second answer for a load. -/
def relationships? (destination : Destination) (answers : List Answer) :
    Option (List Relationship) :=
  (destination.node? answers).bind fun node =>
    answers[1]?.bind fun answer => (answer.relationships node.allRelationships).toOption

/-- What a load has to show: its heading, the properties of its node with their heading, and the
table of its relationships with one that has their number, as far as its answers have them. -/
def output (config : Config) (destination : Destination) (answers : List Answer) : List Block :=
  .heading ("Node " ++ destination.id) ::
    (((destination.node? answers).map fun node =>
        [.heading "Properties",
          .properties ⟨node.properties.entries.map fun entry => ⟨entry.1, entry.2.display⟩⟩]).getD
        [] ++
      ((destination.relationships? answers).map fun relationships =>
        [.heading ("Relationships (" ++ toString relationships.length ++ ")"),
          .relationships
            (LinkedTable.ofRelationships relationships destination.id config.tableMode).table]).getD
        [])

variable (config : Config) (destination : Destination)

/-- Without an answer there is the heading. -/
@[simp] theorem output_nil : destination.output config [] = [nodeTitle destination.id] := rfl

/-- Without a node there is the heading. -/
theorem output_of_node_error {answer : Answer} {failure : Failure}
    (h : answer.node destination.url = .error failure) (more : List Answer) :
    destination.output config (answer :: more) = [nodeTitle destination.id] := by
  simp [output, relationships?, node?, h, Except.toOption, nodeTitle]

/-- With a node alone there are its properties. -/
theorem output_of_node {answer : Answer} {node : Node} (h : answer.node destination.url = .ok node) :
    destination.output config [answer] =
      [nodeTitle destination.id] ++ node.properties.blocks := by
  simp [output, relationships?, node?, h, Except.toOption, nodeTitle, Properties.blocks,
    Properties.table]

/-- Without relationships there are the properties alone. -/
theorem output_of_relationships_error {answer next : Answer} {node : Node} {failure : Failure}
    (h : answer.node destination.url = .ok node)
    (hnext : next.relationships node.allRelationships = .error failure) :
    destination.output config [answer, next] =
      [nodeTitle destination.id] ++ node.properties.blocks := by
  simp [output, relationships?, node?, h, hnext, Except.toOption, nodeTitle, Properties.blocks,
    Properties.table]

/-- With both there is everything. -/
theorem output_of_relationships {answer next : Answer} {node : Node}
    {relationships : List Relationship} (h : answer.node destination.url = .ok node)
    (hnext : next.relationships node.allRelationships = .ok relationships) :
    destination.output config [answer, next] =
      [nodeTitle destination.id] ++ node.properties.blocks ++
        (LinkedTable.ofRelationships relationships destination.id
          config.tableMode).table.blocks := by
  rw [LinkedTable.blocks_ofRelationships]
  simp [output, relationships?, node?, h, hnext, Except.toOption, nodeTitle, Properties.blocks,
    Properties.table]

/-- **More answers only add to the output.** -/
theorem output_isPrefix (answers more : List Answer) :
    destination.output config answers <+: destination.output config (answers ++ more) := by
  cases answers with
  | nil => exact ⟨_, rfl⟩
  | cons answer rest =>
      cases rest with
      | nil =>
          cases h : answer.node destination.url with
          | error failure =>
              rw [output_of_node_error config destination h]
              exact ⟨_, rfl⟩
          | ok node =>
              rw [output_of_node config destination h]
              simp only [output, node?, List.singleton_append, List.getElem?_cons_zero,
                Option.bind_some, h, Except.toOption, Option.map_some, Option.getD_some]
              exact ⟨_, rfl⟩
      | cons next rest => exact ⟨[], by simp [output, relationships?, node?]⟩

/-- The output of a load has one, three or five blocks. -/
theorem length_output (answers : List Answer) :
    (destination.output config answers).length = 1 ∨
    (destination.output config answers).length = 3 ∨
    (destination.output config answers).length = 5 := by
  rw [output]
  cases hnode : destination.node? answers with
  | none =>
      have hrelationships : destination.relationships? answers = none := by
        rw [relationships?, hnode]
        rfl
      exact Or.inl (by rw [hrelationships]; rfl)
  | some node =>
      cases destination.relationships? answers with
      | none => exact Or.inr (Or.inl rfl)
      | some relationships => exact Or.inr (Or.inr rfl)

end Destination

/-- Blanks around the id do not matter for the table. -/
theorem LinkedTable.ofRelationships_trimmed (relationships : List Relationship) (currentId : String)
    (mode : TableMode) :
    ofRelationships relationships (trimmed currentId) mode =
      ofRelationships relationships currentId mode := by
  rw [ofRelationships, ofRelationships, trimmed_trimmed]

/-! ### The loads on display -/

/-- A load whose output may be on display. -/
structure ShownLoad where
  /-- The number of its task. -/
  task : Nat
  /-- Where it goes. -/
  destination : Destination

namespace World

/-- The loads that may be on display after an event: one more for a command that starts a load, and
none of those before if the command clears the view. -/
def nextShown (config : Config) (w : World) (shown : List ShownLoad) : Event → List ShownLoad
  | .start command =>
    match command.destination? config w.state.controls with
    | some destination =>
      (if command.replaces then [] else shown) ++ [⟨w.tasks.length, destination⟩]
    | none => shown
  | .resume _ _ => shown
  | .takeAlerts => shown

/-- The loads that may be on display after a run, in the order in which they were started: those
since the view was last cleared, the one that cleared it included. -/
def shownLoads (config : Config) (w : World) (shown : List ShownLoad) : List Event → List ShownLoad
  | [] => shown
  | event :: events =>
    shownLoads config (w.step config event) (w.nextShown config shown event) events

theorem shownLoads_concat (config : Config) (w : World) (shown : List ShownLoad)
    (events : List Event) (event : Event) :
    w.shownLoads config shown (events ++ [event]) =
      (w.run config events).nextShown config (w.shownLoads config shown events) event := by
  induction events generalizing w shown with
  | nil => rfl
  | cons first events ih => exact ih _ _

/-- A load waits for its node, or its node could not be had. -/
def MissesNode (w : World) (load : ShownLoad) (answers : List Answer) : Prop :=
  (∃ loading url, w.waiting? load.task = some (.node loading url)) ∨
  ∃ answer failure, answers = [answer] ∧ answer.node load.destination.url = .error failure ∧
    w.result? load.task = some (.error failure)

/-- A load has its node and waits for the relationships, or these could not be had. -/
def MissesRelationships (w : World) (load : ShownLoad) (answers : List Answer) : Prop :=
  (∃ loading url, w.waiting? load.task = some (.relationships loading url)) ∨
  ∃ answer next node failure, answers = [answer, next] ∧
    answer.node load.destination.url = .ok node ∧
    next.relationships node.allRelationships = .error failure ∧
    w.result? load.task = some (.error failure)

/-- A piece of the surface is what a load has shown: a beginning of its output that ends with one of
the three parts. -/
def IsPart (config : Config) (answers : Nat → List Answer) (load : ShownLoad)
    (part : List Block) : Prop :=
  part <+: load.destination.output config (answers load.task) ∧
    (part.length = 1 ∨ part.length = 3 ∨ part.length = 5)

/-- The surface consists of the outputs of the loads on display. Of the last one all is shown that
there is to show; no other load is the latest. -/
inductive Displays (config : Config) (w : World) (answers : Nat → List Answer) :
    List ShownLoad → Prop where
  /-- No load has been started. -/
  | nothing (hblocks : w.state.surface.emptied.blocks = [])
      (hothers : ∀ task suspended, w.waiting? task = some suspended → suspended.isLoad = false) :
      Displays config w answers []
  /-- The last of the loads is the latest of all. -/
  | upTo {earlier : List ShownLoad} {parts : List (List Block)} {latest : ShownLoad}
      {asked : List String} {progress : Progress}
      (hparts : List.Forall₂ (IsPart config answers) earlier parts)
      (hblocks : w.state.surface.emptied.blocks =
        parts.flatten ++ latest.destination.output config (answers latest.task))
      (hid : w.state.current.id = some (trimmed latest.destination.id))
      (hprogress : w.tasks[latest.task]? = some progress)
      (hcourse : LoadCourse ⟨w.state.loads.latest, latest.destination.id⟩ latest.destination.url
        asked (answers latest.task) progress)
      (hlatest : progress ≠ .ended (.ok .superseded))
      (hothers : ∀ task suspended, w.waiting? task = some suspended → suspended.isLoad = true →
        task ≠ latest.task → suspended.loadToken < w.state.loads.latest) :
      Displays config w answers (earlier ++ [latest])

end World

/-! ### One stretch of the latest load -/

/-- **The latest load puts on display what its answer adds to its output.** -/
theorem LoadCourse.blocks_resume (config : Config) {load : Load} {destination : Destination}
    {asked : List String} {answered : List Answer} {suspended : Suspended} {s : BrowserState}
    (h : LoadCourse load destination.url asked answered (.waiting suspended))
    (hlatest : s.loads.latest = suspended.loadToken)
    (hid : s.current.id = some (trimmed destination.id)) (answer : Answer) :
    ∃ blocks, destination.output config (answered ++ [answer]) =
        destination.output config answered ++ blocks ∧
      (suspended.resume config s answer).1.surface.emptied.blocks =
        s.surface.emptied.blocks ++ blocks ∧
      (suspended.resume config s answer).1.current = s.current := by
  cases h with
  | awaitsNode =>
      rw [Suspended.resume_node hlatest, List.nil_append, Destination.output_nil]
      cases hnode : answer.node destination.url with
      | error failure =>
          exact ⟨[], Destination.output_of_node_error config destination hnode [],
            (List.append_nil _).symm, rfl⟩
      | ok node =>
          exact ⟨_, Destination.output_of_node config destination hnode, List.map_append, rfl⟩
  | @awaitsRelationships first node hnode =>
      rw [Suspended.resume_relationships hlatest, List.singleton_append,
        Destination.output_of_node config destination hnode]
      cases hnext : answer.relationships node.allRelationships with
      | error failure =>
          refine ⟨[], ?_, (List.append_nil _).symm, rfl⟩
          rw [Destination.output_of_relationships_error config destination hnode hnext,
            List.append_nil]
      | ok relationships =>
          refine ⟨_, Destination.output_of_relationships config destination hnode hnext, ?_, rfl⟩
          simp only [BrowserState.resumeRelationships, BrowserState.showRelationships, hid,
            Option.getD_some, LinkedTable.ofRelationships_trimmed, Surface.emptied_append,
            Surface.blocks_append, LinkedTable.map_emptied_blocks]

namespace World

variable {config : Config} {w : World} {answers : Nat → List Answer} {shown : List ShownLoad}

/-- A beginning of an output remains one when more answers come in. -/
theorem IsPart.mono {answers' : Nat → List Answer} {load : ShownLoad} {part : List Block}
    (h : IsPart config answers load part)
    (hmore : ∃ more, answers' load.task = answers load.task ++ more) :
    IsPart config answers' load part := by
  obtain ⟨more, hmore⟩ := hmore
  refine ⟨h.1.trans ?_, h.2⟩
  rw [hmore]
  exact load.destination.output_isPrefix config _ _

/-- How much a load has shown that was not overtaken tells what has become of it. -/
theorem length_output_iff {load : Load} {destination : Destination} {task : Nat}
    {asked : List String} {answered : List Answer} {progress : Progress}
    (h : LoadCourse load destination.url asked answered progress)
    (hget : w.tasks[task]? = some progress) (hlatest : progress ≠ .ended (.ok .superseded)) :
    ((destination.output config answered).length = 1 ↔
        w.MissesNode ⟨task, destination⟩ answered) ∧
    ((destination.output config answered).length = 3 ↔
        w.MissesRelationships ⟨task, destination⟩ answered) ∧
    ((destination.output config answered).length = 5 ↔
        w.result? task = some (.ok .rendered)) := by
  cases h with
  | awaitsNode =>
      have hwaiting := waiting?_eq_some_iff.mpr hget
      have hresult := result?_eq_none_of_waiting hwaiting
      simp [MissesNode, MissesRelationships, hwaiting, hresult]
  | nodeFails hnode =>
      have hresult := result?_eq_some_iff.mpr hget
      have hwaiting := waiting?_eq_none_of_result? hresult
      rw [Destination.output_of_node_error config destination hnode]
      simp [MissesNode, MissesRelationships, hwaiting, hresult, hnode]
  | overtakenAtNode answer => exact absurd rfl hlatest
  | awaitsRelationships hnode =>
      have hwaiting := waiting?_eq_some_iff.mpr hget
      have hresult := result?_eq_none_of_waiting hwaiting
      rw [Destination.output_of_node config destination hnode]
      simp [MissesNode, MissesRelationships, hwaiting, hresult, Properties.blocks]
  | relationshipsFail hnode hnext =>
      have hresult := result?_eq_some_iff.mpr hget
      have hwaiting := waiting?_eq_none_of_result? hresult
      rw [Destination.output_of_relationships_error config destination hnode hnext]
      simp [MissesNode, MissesRelationships, hwaiting, hresult, hnode, hnext, Properties.blocks]
  | overtakenAtRelationships hnode next => exact absurd rfl hlatest
  | rendered hnode hnext =>
      have hresult := result?_eq_some_iff.mpr hget
      have hwaiting := waiting?_eq_none_of_result? hresult
      rw [Destination.output_of_relationships config destination hnode hnext]
      simp [MissesNode, MissesRelationships, hwaiting, hresult, Properties.blocks,
        RelationshipTable.blocks]

namespace Displays

/-- **All pieces of the surface**, with what the length of the last one tells. -/
theorem exists_parts (h : w.Displays config answers shown) :
    ∃ parts : List (List Block), w.state.surface.emptied.blocks = parts.flatten ∧
      List.Forall₂ (IsPart config answers) shown parts ∧
      ∀ latest part, shown.getLast? = some latest → parts.getLast? = some part →
        (part.length = 1 ↔ w.MissesNode latest (answers latest.task)) ∧
        (part.length = 3 ↔ w.MissesRelationships latest (answers latest.task)) ∧
        (part.length = 5 ↔ w.result? latest.task = some (.ok .rendered)) := by
  cases h with
  | nothing hblocks hothers =>
      refine ⟨[], hblocks, .nil, ?_⟩
      intro latest part hlast
      cases hlast
  | @upTo earlier parts latest asked progress hparts hblocks hid hprogress hcourse hlatest =>
      have hlast : IsPart config answers latest
          (latest.destination.output config (answers latest.task)) :=
        ⟨List.prefix_rfl, latest.destination.length_output config _⟩
      refine ⟨parts ++ [latest.destination.output config (answers latest.task)], ?_,
        List.rel_append hparts (.cons hlast .nil), ?_⟩
      · rw [hblocks, List.flatten_append, List.flatten_singleton]
      · intro load part hload hpart
        rw [List.getLast?_concat] at hload hpart
        cases hload
        cases hpart
        exact length_output_iff hcourse hprogress hlatest

/-- The last of the loads on display has been started. -/
theorem lt_length (h : w.Displays config answers shown) {load : ShownLoad}
    (hlast : shown.getLast? = some load) : load.task < w.tasks.length := by
  cases h with
  | nothing hblocks hothers => cases hlast
  | @upTo earlier parts latest asked progress hparts hblocks hid hprogress =>
      rw [List.getLast?_concat] at hlast
      cases hlast
      exact (List.getElem?_eq_some_iff.mp hprogress).1

/-- For as long as it waits the last of the loads on display is the latest of all. -/
theorem isLatest_of_waiting (h : w.Displays config answers shown) {load : ShownLoad}
    (hlast : shown.getLast? = some load) {suspended : Suspended}
    (hwaiting : w.waiting? load.task = some suspended) :
    suspended.isLoad = true ∧ w.state.loads.latest = suspended.loadToken := by
  cases h with
  | nothing hblocks hothers => cases hlast
  | @upTo earlier parts latest asked progress hparts hblocks hid hprogress hcourse =>
      rw [List.getLast?_concat] at hlast
      cases hlast
      rw [waiting?_eq_some_iff.mp hwaiting] at hprogress
      cases hprogress
      exact ⟨hcourse.loadToken_eq.1, hcourse.loadToken_eq.2.symm⟩

/-- **What changes containers only, and answers other loads than the latest, lets the surface consist
of the same pieces.** -/
theorem frame {w' : World} {answers' : Nat → List Answer} (h : w.Displays config answers shown)
    (hview : w'.state.view.emptied = w.state.view.emptied)
    (htoken : w'.state.loads.latest = w.state.loads.latest)
    (hmore : ∀ task, ∃ more, answers' task = answers task ++ more)
    (hlast : ∀ load, shown.getLast? = some load →
      answers' load.task = answers load.task ∧ w'.tasks[load.task]? = w.tasks[load.task]?)
    (hstill : ∀ task suspended, w'.waiting? task = some suspended → suspended.isLoad = true →
      w.waiting? task = some suspended) :
    w'.Displays config answers' shown := by
  have hsurface : w'.state.surface.emptied = w.state.surface.emptied :=
    congrArg View.surface hview
  have hcurrent : w'.state.current.id = w.state.current.id := congrArg View.currentId hview
  cases h with
  | nothing hblocks hothers =>
      refine .nothing (by rw [hsurface, hblocks]) ?_
      intro task suspended hwaiting
      by_contra hload
      have hload : suspended.isLoad = true := by simpa using hload
      rw [hothers task suspended (hstill task suspended hwaiting hload)] at hload
      cases hload
  | @upTo earlier parts latest asked progress hparts hblocks hid hprogress hcourse hlatest
      hothers =>
      obtain ⟨hsame, htask⟩ := hlast latest (by simp)
      have hcourse' : LoadCourse ⟨w'.state.loads.latest, latest.destination.id⟩
          latest.destination.url asked (answers' latest.task) progress := by
        rw [htoken, hsame]
        exact hcourse
      refine .upTo (hparts.imp fun load part hpart => hpart.mono (hmore load.task)) ?_ ?_
        (htask.trans hprogress) hcourse' hlatest ?_
      · rw [hsurface, hblocks, hsame]
      · rw [hcurrent, hid]
      · intro task suspended hwaiting hload hne
        rw [htoken]
        exact hothers task suspended (hstill task suspended hwaiting hload) hload hne

/-- **A load that is started puts a new piece at the end of the surface.** -/
theorem of_start {command : Command} {destination : Destination} {earlier : List ShownLoad}
    {parts : List (List Block)} (hbounded : w.TokensBounded)
    (hdestination : (command.intent config w.state.controls).destination? = some destination)
    (hunanswered : answers w.tasks.length = [])
    (hparts : List.Forall₂ (IsPart config answers) earlier parts)
    (hblocks : (w.step config (.start command)).state.surface.emptied.blocks =
      parts.flatten ++ [nodeTitle destination.id])
    (hid : (w.step config (.start command)).state.current.id = some (trimmed destination.id)) :
    (w.step config (.start command)).Displays config answers
      (earlier ++ [⟨w.tasks.length, destination⟩]) := by
  have htoken : (w.step config (.start command)).state.loads.latest =
      w.state.loads.latest + 1 := latest_step_of_destination hdestination
  have hcourse : LoadCourse
      ⟨(w.step config (.start command)).state.loads.latest, destination.id⟩ destination.url
      [destination.url] (answers w.tasks.length)
      (.waiting (.node ⟨w.state.loads.latest + 1, destination.id⟩ destination.url)) := by
    rw [htoken, hunanswered]
    exact .awaitsNode
  refine .upTo hparts ?_ hid (waiting?_eq_some_iff.mp (waiting?_start hdestination)) hcourse
    (by simp) ?_
  · rw [hblocks, hunanswered, Destination.output_nil]
  · intro task suspended hwaiting hload hne
    rw [htoken]
    rcases waiting?_step hwaiting with hbefore | ⟨_, _, heq, _⟩ | ⟨_, _, heq, _⟩
    · exact Nat.lt_succ_of_le (hbounded task suspended hbefore)
    · cases heq
    · exact absurd heq hne

/-- **An answer for the latest load makes the last piece longer**, if it has what is missing. -/
theorem of_resume {answers' : Nat → List Answer} {task : Nat} {suspended : Suspended}
    {answer : Answer} (h : w.Displays config answers shown)
    (hwaiting : w.waiting? task = some suspended) (hload : suspended.isLoad = true)
    (htoken : w.state.loads.latest = suspended.loadToken)
    (hmore : ∀ task, ∃ more, answers' task = answers task ++ more)
    (hanswer : answers' task = answers task ++ [answer]) :
    (w.step config (.resume task answer)).Displays config answers' shown := by
  cases h with
  | nothing hblocks hothers =>
      rw [hothers task suspended hwaiting] at hload
      cases hload
  | @upTo earlier parts latest asked progress hparts hblocks hid hprogress hcourse hlatest
      hothers =>
      -- every other load that waits has an older token, so the answer is for the last piece
      have htask : latest.task = task := by
        by_contra hne
        have hlt := hothers task suspended hwaiting hload (Ne.symm hne)
        omega
      subst htask
      rw [waiting?_eq_some_iff.mp hwaiting] at hprogress
      cases hprogress
      obtain ⟨blocks, houtput, hsurface, hcurrent⟩ :=
        hcourse.blocks_resume config htoken hid answer
      have hstate : (w.step config (.resume latest.task answer)).state =
          (suspended.resume config w.state answer).1 := by
        rw [World.step, resume_of_waiting hwaiting]
      have hloads : (w.step config (.resume latest.task answer)).state.loads = w.state.loads := by
        rw [hstate, Suspended.loads_resume]
      have hcourse' := hcourse.resume config w.state answer
      rw [← hanswer, ← hloads] at hcourse'
      refine .upTo (hparts.imp fun load part hpart => hpart.mono (hmore load.task)) ?_ ?_
        (getElem?_tasks_resume hwaiting answer) hcourse'
        (Suspended.resume_ne_superseded hload htoken) ?_
      · rw [hstate, hsurface, hblocks, hanswer, houtput, List.append_assoc]
      · rw [hstate, hcurrent, hid]
      · intro task other hother hotherLoad hne
        rw [hloads]
        rcases waiting?_step hother with hbefore | ⟨_, _, heq, _⟩ | ⟨_, heq, _, _⟩
        · exact hothers task other hbefore hotherLoad hne
        · cases heq
          exact absurd rfl hne
        · cases heq

/-- What starts without being a load lets the surface consist of the same pieces. -/
theorem of_start_of_not_load {command : Command} (h : w.Displays config answers shown)
    (hload : (command.intent config w.state.controls).isLoad = false) :
    (w.step config (.start command)).Displays config answers shown := by
  have htoken : (w.step config (.start command)).state.loads.latest = w.state.loads.latest := by
    rw [latest_step, Event.startsLoad, ← Command.isLoad_intent config w.state.controls, hload]
    rfl
  refine h.frame ?_ htoken (fun task => ⟨[], (List.append_nil _).symm⟩) ?_ ?_
  · rw [state_step_start rfl]
    exact Intent.emptied_view_start hload w.state
  · intro load hlast
    exact ⟨rfl, getElem?_tasks_step (h.lt_length hlast) (by simp)⟩
  · intro task suspended hwaiting hsuspended
    rcases waiting?_step hwaiting with hbefore | ⟨_, _, heq, _⟩ | ⟨_, heq, _, hstart⟩
    · exact hbefore
    · cases heq
    · cases heq
      rw [Command.start] at hstart
      rw [(Intent.loadToken_of_start hstart).1, hload] at hsuspended
      cases hsuspended

/-- What starts puts a new piece at the end, begins with a first one or leaves the pieces as they
are. -/
theorem step_start (h : w.Displays config answers shown) (hbounded : w.TokensBounded)
    (hunanswered : answers w.tasks.length = []) (command : Command) :
    (w.step config (.start command)).Displays config answers
      (w.nextShown config shown (.start command)) := by
  have hdestination := command.destination?_intent config w.state.controls
  have hreplaces := command.replaces_intent config w.state.controls
  cases hintent : command.intent config w.state.controls with
  | append url id =>
      rw [hintent] at hdestination hreplaces
      obtain ⟨parts, hblocks, hparts, -⟩ := h.exists_parts
      have hview := Intent.view_start_append w.state url id
      rw [← state_step_start hintent] at hview
      have hsurface : (w.step config (.start command)).state.surface =
          w.state.surface.append [nodeTitle (trimmed id)] := congrArg View.surface hview
      rw [nextShown, ← hdestination, ← hreplaces]
      refine of_start hbounded (by rw [hintent]; rfl) hunanswered hparts ?_
        (congrArg View.currentId hview)
      rw [hsurface, Surface.emptied_append, Surface.blocks_append, hblocks]
      rfl
  | replace controls url id =>
      -- the view is cleared, so that no earlier piece is left
      rw [hintent] at hdestination hreplaces
      have hnone : List.Forall₂ (IsPart config answers) [] [] := .nil
      have hview := Intent.view_start_replace w.state controls url id
      rw [← state_step_start hintent] at hview
      have hsurface : (w.step config (.start command)).state.surface =
          Surface.empty.append [nodeTitle (trimmed id)] := congrArg View.surface hview
      rw [nextShown, ← hdestination, ← hreplaces]
      refine of_start hbounded (by rw [hintent]; rfl) hunanswered hnone ?_
        (congrArg View.currentId hview)
      rw [hsurface]
      rfl
  | expand row =>
      rw [nextShown, ← hdestination, hintent]
      exact h.of_start_of_not_load (by rw [hintent]; rfl)
  | nothing =>
      rw [nextShown, ← hdestination, hintent]
      exact h.of_start_of_not_load (by rw [hintent]; rfl)

/-- An answer makes the last piece longer or leaves the pieces as they are. -/
theorem step_resume (h : w.Displays config answers shown) (task : Nat) (answer : Answer) :
    (w.step config (.resume task answer)).Displays config
      (fun other => answers other ++ w.answers other (.resume task answer)) shown := by
  have hmore : ∀ other, ∃ more, answers other ++ w.answers other (.resume task answer) =
      answers other ++ more := fun other => ⟨_, rfl⟩
  have hne : ∀ other, task ≠ other → w.answers other (.resume task answer) = [] := by
    intro other hne
    refine answers_of_ne fun answer' heq => ?_
    cases heq
    exact hne rfl
  cases hwaiting : w.waiting? task with
  | none =>
      have hanswers : (fun other => answers other ++ w.answers other (.resume task answer)) =
          answers := by
        funext other
        by_cases heq : task = other
        · subst heq
          rw [answers_of_not_waiting hwaiting, List.append_nil]
        · rw [hne other heq, List.append_nil]
      rw [hanswers, World.step, resume_of_not_waiting hwaiting]
      exact h
  | some suspended =>
      by_cases hlatest : suspended.isLoad = true ∧ w.state.loads.latest = suspended.loadToken
      · refine h.of_resume hwaiting hlatest.1 hlatest.2 hmore ?_
        rw [answers_of_waiting hwaiting]
      · -- an expansion, or a load that was overtaken: nothing but containers can change
        refine h.frame ?_ (latest_step config w _) hmore ?_ ?_
        · rw [World.step, resume_of_waiting hwaiting]
          exact Suspended.emptied_view_resume hlatest
        · intro load hlast
          have hother : task ≠ load.task := by
            rintro rfl
            exact hlatest (h.isLatest_of_waiting hlast hwaiting)
          refine ⟨?_, getElem?_tasks_step (h.lt_length hlast) (by simp [hother])⟩
          rw [hne load.task hother, List.append_nil]
        · intro other next hnext hload
          rcases waiting?_step hnext with hbefore | ⟨_, _, heq, hwas, hresume⟩ | ⟨_, heq, _, _⟩
          · exact hbefore
          · cases heq
            rw [hwaiting] at hwas
            cases hwas
            exact absurd (Suspended.isLatest_of_resume hresume) hlatest
          · cases heq

/-- **One event after another, the surface goes on to consist of pieces.** -/
theorem step (h : w.Displays config answers shown) (hbounded : w.TokensBounded)
    (hunanswered : answers w.tasks.length = []) (event : Event) :
    (w.step config event).Displays config (fun task => answers task ++ w.answers task event)
      (w.nextShown config shown event) := by
  cases event with
  | start command =>
      simp only [World.answers, List.append_nil]
      exact h.step_start hbounded hunanswered command
  | resume task answer => exact h.step_resume task answer
  | takeAlerts =>
      simp only [World.answers, List.append_nil]
      exact h.frame rfl rfl (fun task => ⟨[], (List.append_nil _).symm⟩) (fun load _ => ⟨rfl, rfl⟩)
        fun task suspended hwaiting _ => hwaiting

end Displays

/-! ### Whole runs -/

/-- **The surface consists of whole pieces of output after every run.** -/
theorem displays_run (config : Config) (events : List Event) :
    (initial.run config events).Displays config
      (fun task => initial.answered config task events)
      (initial.shownLoads config [] events) := by
  -- what a load was answered is told by the whole run, so events are added at its end
  induction events using List.reverseRecOn with
  | nil =>
      refine .nothing rfl ?_
      intro task suspended hwaiting
      simp [initial, waiting?] at hwaiting
  | append_singleton events event ih =>
      have hbounded : (initial.run config events).TokensBounded :=
        tokensBounded_run tokensBounded_initial events
      have hstep := ih.step hbounded (answered_of_length_le (Nat.le_refl _)) event
      simpa only [run_append, run_cons, run_nil, answered_append, answered_cons, answered_nil,
        List.append_nil, shownLoads_concat] using hstep

/-- **The outputs of loads never interleave.**  After every run the surface, with nothing in its
containers, consists of one piece for each load since the view was last cleared, in the order in
which they were started. Each piece is a beginning of the output of its load and has one, three or
five blocks. The last piece has one block for as long as the load has no node, three for as long as
it has no relationships, and five exactly if the load has shown everything. -/
theorem surface_eq_outputs (config : Config) (events : List Event) :
    let w := initial.run config events
    let loads := initial.shownLoads config [] events
    let answers := fun load : ShownLoad => initial.answered config load.task events
    ∃ parts : List (List Block),
      w.state.surface.emptied.blocks = parts.flatten ∧
      List.Forall₂ (fun load part => part <+: load.destination.output config (answers load) ∧
        (part.length = 1 ∨ part.length = 3 ∨ part.length = 5)) loads parts ∧
      ∀ latest part, loads.getLast? = some latest → parts.getLast? = some part →
        (part.length = 1 ↔ w.MissesNode latest (answers latest)) ∧
        (part.length = 3 ↔ w.MissesRelationships latest (answers latest)) ∧
        (part.length = 5 ↔ w.result? latest.task = some (.ok .rendered)) := by
  intro w loads answers
  obtain ⟨parts, hblocks, hparts, hlast⟩ := (displays_run config events).exists_parts
  exact ⟨parts, hblocks, hparts, hlast⟩

end World

end GraphBrowser
