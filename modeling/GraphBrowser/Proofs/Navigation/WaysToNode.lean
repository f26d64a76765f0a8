import GraphBrowser.Proofs.Navigation.Exchange
import GraphBrowser.Proofs.Resource.Address

/-!
# Three ways to a node

The reader gets to a node by submitting its id, by following its address, or by pressing the key that
submits what the controls hold already. The first and the last take the id from the text, the second
reads it back from the address; only the first writes the controls before the load does. None of this
can be told afterwards.

## Main definitions

* `Intent.toNode` — what the ways come down to
* `World.Agree` — two commands cannot be told apart, whatever happens after them

## Main statements

* `Intent.start_replace_congr` — a load that replaces the view depends on its address and on the
  trimmed id alone
* `World.agree_goTo_showInstead_iff` — **an address that is built from a text is followed like the
  text exactly if the text is one segment**
* `World.ways_to_node_agree` — **the three ways to a node agree**

## Design notes

**Whole worlds are compared, not only what is on display.**  Tokens, alerts and the results of all
tasks are the same after commands that agree, and so are the addresses that any task asks for.
-/

namespace GraphBrowser

/-- Blanks around the id leave no trace in the address of a node. -/
@[simp] theorem nodeAddress_trimmed (base id : String) :
    nodeAddress base (trimmed id) = nodeAddress base id := by
  rw [← String.toList_inj, toList_nodeAddress, toList_nodeAddress, toList_trimmed, Address.node,
    Address.node, Text.trim_trim]

/-- Nothing of what the controls held is left when an id is shown in them. -/
theorem Controls.showId_fst (controls : Controls) (id : String) : (controls.showId id).1 = ⟨id⟩ := by
  obtain ⟨input⟩ := controls
  unfold showId
  split
  · rename_i h
    rw [← h]
  · rfl

namespace Intent

/-- **A load that replaces the view depends on its address and on the trimmed id alone**: the
controls are overwritten before anything is asked for. -/
theorem start_replace_congr {id other : String} (h : trimmed id = trimmed other) (s : BrowserState)
    (controls controls' : Controls) (url : String) :
    (replace controls url id).start s = (replace controls' url other).start s := by
  have hstate : { s with controls }.clearView.advance.beginLoad (trimmed other) =
      { s with controls := controls' }.clearView.advance.beginLoad (trimmed other) := by
    simp only [BrowserState.beginLoad, BrowserState.advance, BrowserState.clearView,
      Controls.showId_fst]
  rw [start_replace, start_replace, h, hstate]

/-- What the ways to a node come down to: to load the address that is built from a text under that
text, whatever the controls hold. -/
def toNode (config : Config) (controls : Controls) (input : String) : Intent :=
  .replace controls (nodeAddress config.baseUrl input) input

/-- What the reader sees on the way to a node: its heading, with its id in the controls. -/
theorem view_start_toNode (config : Config) (s : BrowserState) (controls : Controls)
    (input : String) :
    ((toNode config controls input).start s).1.view =
      ⟨Surface.empty.append [nodeTitle (trimmed input)], [], some (trimmed input), trimmed input,
        true⟩ := by
  rw [toNode, view_start_replace, trimmed_trimmed]

end Intent

/-! ### Each of the ways -/

namespace Command

variable {config : Config} {s : BrowserState} {command : Command} {controls : Controls}
variable {input : String}

/-- A command that submits the controls goes to the node whose id they hold, blanks being ignored. -/
theorem start_of_submit
    (hintent : command.intent config s.controls =
      .replace controls (controls.submit config.baseUrl) controls.id)
    (hinput : trimmed controls.input = trimmed input) :
    command.start config s = (Intent.toNode config s.controls input).start s := by
  have hurl : controls.submit config.baseUrl = nodeAddress config.baseUrl input := by
    rw [Controls.submit, Controls.id, hinput, nodeAddress_trimmed]
  have hid : trimmed controls.id = trimmed input := by rw [Controls.id, hinput, trimmed_trimmed]
  rw [start, hintent, hurl]
  exact Intent.start_replace_congr hid s controls s.controls _

/-- What is typed is submitted. -/
theorem start_goTo (config : Config) (s : BrowserState) (input : String) :
    (goTo input).start config s = (Intent.toNode config s.controls input).start s :=
  @start_of_submit config s (.goTo input) (s.controls.withInput input) input rfl rfl

/-- What the controls hold is submitted. -/
theorem start_pressKey_enter (config : Config) (s : BrowserState)
    (hinput : trimmed s.controls.input = trimmed input) :
    (pressKey .enter).start config s = (Intent.toNode config s.controls input).start s :=
  @start_of_submit config s (.pressKey .enter) s.controls input rfl hinput

/-- The address is followed under the id that is read back from it. -/
theorem start_showInstead_nodeAddress (config : Config) (s : BrowserState)
    (h : IsSegment (trimmed input)) :
    (showInstead (nodeAddress config.baseUrl input)).start config s =
      (Intent.toNode config s.controls input).start s := by
  have hid : trimmed (resourceId (nodeAddress config.baseUrl input)) = trimmed input := by
    rw [(resourceId_nodeAddress_eq_iff config.baseUrl input).mpr h, trimmed_trimmed]
  exact Intent.start_replace_congr hid s s.controls s.controls _

end Command

/-! ### Commands that cannot be told apart -/

namespace World

/-- Two commands cannot be told apart, whatever happens after them: neither by the browser and its
tasks nor by what any task asks for. -/
structure Agree (config : Config) (w : World) (command other : Command) : Prop where
  /-- The browser is in the same state, and every task has got equally far. -/
  run (after : List Event) :
    w.run config (.start command :: after) = w.run config (.start other :: after)
  /-- The tasks ask for the same addresses. -/
  asked (task : Nat) (after : List Event) :
    w.asked config task (.start command :: after) = w.asked config task (.start other :: after)

variable {config : Config} {w : World} {command other : Command}

/-- Commands with the same first stretch cannot be told apart. -/
theorem Agree.of_start (h : command.start config w.state = other.start config w.state) :
    w.Agree config command other := by
  have hstep : w.step config (.start command) = w.step config (.start other) := by
    rw [step, step, start, start, h]
  constructor
  · intro after
    rw [run_cons, run_cons, hstep]
  · intro task after
    rw [asked_cons, asked_cons, asks, asks, h, hstep]

/-- Commands that cannot be told apart show the same after their first stretch. -/
theorem Agree.view_start (h : w.Agree config command other) :
    (command.start config w.state).1.view = (other.start config w.state).1.view :=
  congrArg (·.state.view) (h.run [])

/-- **An address that is built from a text is followed like the text exactly if the text is one
segment** once its blanks are removed. -/
theorem agree_goTo_showInstead_iff (config : Config) (w : World) (input : String) :
    w.Agree config (.goTo input) (.showInstead (nodeAddress config.baseUrl input)) ↔
      IsSegment (trimmed input) := by
  constructor
  · intro hagree
    have hview := hagree.view_start
    have hfollowed : ((Command.showInstead (nodeAddress config.baseUrl input)).start config
        w.state).1.view = _ :=
      Intent.view_start_replace w.state w.state.controls _ (resourceId _)
    rw [Command.start_goTo, Intent.view_start_toNode, hfollowed, trimmed_resourceId_nodeAddress,
      trimmed_resourceId_nodeAddress] at hview
    rw [← resourceId_nodeAddress_eq_iff config.baseUrl]
    exact (congrArg View.input hview).symm
  · intro h
    refine .of_start ?_
    rw [Command.start_goTo, Command.start_showInstead_nodeAddress config w.state h]

/-- The key that submits goes on like a text that the controls hold already. -/
theorem agree_pressKey_goTo {input : String}
    (hinput : trimmed w.state.controls.input = trimmed input) :
    w.Agree config (.pressKey .enter) (.goTo input) := by
  refine .of_start ?_
  rw [Command.start_pressKey_enter config w.state hinput, Command.start_goTo]

/-- **The three ways to a node agree.**  Submitting a text, following the address that is built from
it, and pressing the key that submits while the controls hold it cannot be told apart, whatever the
base of the store is and whatever the store answers, if the text is one segment once its blanks are
removed. Each of them asks for the address at once, with the id current and in the controls. -/
theorem ways_to_node_agree (config : Config) (w : World) (input : String)
    (h : IsSegment (trimmed input)) :
    w.Agree config (.goTo input) (.showInstead (nodeAddress config.baseUrl input)) ∧
    (trimmed w.state.controls.input = trimmed input →
      w.Agree config (.pressKey .enter) (.goTo input)) ∧
    (w.step config (.start (.goTo input))).waiting? w.tasks.length =
      some (.node ⟨w.state.loads.latest + 1, trimmed input⟩ (nodeAddress config.baseUrl input)) ∧
    (w.step config (.start (.goTo input))).state.view =
      ⟨⟨[.heading ("Node " ++ trimmed input)]⟩, [], some (trimmed input), trimmed input, true⟩ := by
  refine ⟨(agree_goTo_showInstead_iff config w input).mpr h, agree_pressKey_goTo, ?_, ?_⟩
  · rw [waiting?_eq_some_iff, step, getElem?_tasks_start, Command.start_goTo, Intent.toNode,
      Intent.start_replace]
  · show ((Command.goTo input).start config w.state).1.view = _
    rw [Command.start_goTo, Intent.view_start_toNode]
    rfl

/-- The ways agree for a text with blanks around it and a base with blanks and separators at its end,
while the controls hold the text without the blanks. -/
theorem ways_to_node_agree_with_blanks :
    let config : Config := { baseUrl := " http://host/db// " }
    let w := initial.run config [.start (.goTo "5")]
    IsSegment (trimmed " 5 ") ∧ trimmed w.state.controls.input = trimmed " 5 " ∧
      w.Agree config (.goTo " 5 ") (.showInstead (nodeAddress config.baseUrl " 5 ")) ∧
      w.Agree config (.pressKey .enter) (.goTo " 5 ") := by
  intro config w
  have hsegment : IsSegment (trimmed " 5 ") := by decide
  have hcontrols : trimmed w.state.controls.input = trimmed " 5 " := by decide
  obtain ⟨hfollowed, hentered, -⟩ := ways_to_node_agree config w " 5 " hsegment
  exact ⟨hsegment, hcontrols, hfollowed, hentered hcontrols⟩

end World

end GraphBrowser
