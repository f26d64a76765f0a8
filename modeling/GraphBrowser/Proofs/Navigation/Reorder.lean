import GraphBrowser.Proofs.Navigation.Containers
import GraphBrowser.Proofs.Navigation.Latest

/-!
# The order of answers

Tasks that wait may be answered in any order. As long as the latest load is not among them it does
not matter in which: all is the same in the end but for the order in which the reader is told about
failures.

## Main definitions

* `Effect` — what an answer does that does not go to the latest load
* `World.latestLoad?` — the load that was started last along a run
* `World.SameUpToAlertOrder` — two worlds differ in the order of their alerts at most
* `World.answerAll` — a world after answers for several tasks

## Main statements

* `Suspended.resume_eq_effect` — **such an answer does one of three things**
* `Effect.apply_comm` — effects on different rows commute
* `World.resume_comm` — **two answers commute**
* `World.order_of_answers_irrelevant` — and so do any number of them

## Design notes

**An effect is known before it takes place.**  It depends on the tokens alone, which no such answer
changes, so that a stretch is opened once and not for each pair of tasks. Two effects on one row do
not meet, for at most one expansion that waits holds the token of the row.
-/

namespace GraphBrowser

/-! ### Containers that are filled -/

namespace Surface

/-- The surface with further blocks in the container of a row, if there is one. -/
def fill (surface : Surface) (row : Nat) (blocks : List Block) : Surface :=
  (surface.updateContainer? row (· ++ blocks)).getD surface

theorem fill_of_updateContainer? {surface changed : Surface} {row : Nat} {blocks : List Block}
    (h : surface.updateContainer? row (· ++ blocks) = some changed) :
    surface.fill row blocks = changed := by
  rw [fill, h, Option.getD_some]

/-- A row without a container cannot be filled. -/
theorem fill_of_none {surface : Surface} {row : Nat} (h : surface.expander? row = none)
    (blocks : List Block) : surface.fill row blocks = surface := by
  have hnone : surface.updateContainer? row (· ++ blocks) = none := by
    rw [← Option.not_isSome_iff_eq_none, isSome_updateContainer?, container?_eq, h]
    exact Bool.false_ne_true
  rw [fill, hnone, Option.getD_none]

/-- The other rows keep what they have. -/
theorem expander?_fill_of_ne (surface : Surface) {row other : Nat} (hne : other ≠ row)
    (blocks : List Block) :
    (surface.fill row blocks).expander? other = surface.expander? other := by
  rw [fill]
  cases hchanged : surface.updateContainer? row (· ++ blocks) with
  | none => rfl
  | some changed => exact expander?_updateContainer?_of_ne hchanged hne

/-- **The containers of two rows may be filled in either order.** -/
theorem fill_comm (surface : Surface) {row other : Nat} (hne : row ≠ other)
    (blocks blocks' : List Block) :
    (surface.fill row blocks).fill other blocks' =
      (surface.fill other blocks').fill row blocks := by
  cases hrow : surface.expander? row with
  | none =>
      rw [fill_of_none hrow, fill_of_none ((surface.expander?_fill_of_ne hne blocks').trans hrow)]
  | some expander =>
      cases hother : surface.expander? other with
      | none =>
          rw [fill_of_none hother,
            fill_of_none ((surface.expander?_fill_of_ne (Ne.symm hne) blocks).trans hother)]
      | some expander' =>
          obtain ⟨first, hfirst⟩ := exists_updateContainer? hrow (· ++ blocks)
          obtain ⟨second, hsecond⟩ := exists_updateContainer? hother (· ++ blocks')
          have hcomm := surface.updateContainer?_comm hne (· ++ blocks) (· ++ blocks')
          rw [hfirst, hsecond, Option.bind_some, Option.bind_some] at hcomm
          obtain ⟨both, hboth⟩ := exists_updateContainer?
            ((expander?_updateContainer?_of_ne hfirst (Ne.symm hne)).trans hother) (· ++ blocks')
          rw [fill_of_updateContainer? hfirst, fill_of_updateContainer? hsecond,
            fill_of_updateContainer? hboth, fill_of_updateContainer? (hcomm.symm.trans hboth)]

end Surface

/-! ### What an answer does -/

/-- What an answer does that does not go to the latest load. -/
inductive Effect where
  /-- Nothing, for the task was overtaken. -/
  | nothing
  /-- The reader is told about a failure. -/
  | tells (failure : Failure)
  /-- Blocks are put into the container of a row. -/
  | fills (row : Nat) (blocks : List Block)

namespace Effect

/-- The state once an effect has taken place. -/
def apply (s : BrowserState) : Effect → BrowserState
  | .nothing => s
  | .tells failure => s.alert failure
  | .fills row blocks => { s with surface := s.surface.fill row blocks }

/-- How a task ends whose answer has an effect. -/
def result : Effect → Result
  | .nothing => .ok .superseded
  | .tells failure => .error failure
  | .fills _ _ => .ok .rendered

/-- No effect changes a token. -/
@[simp] theorem isFresh_apply (effect : Effect) (s : BrowserState) (e : Expansion) :
    (effect.apply s).isFresh e = s.isFresh e := by
  cases effect <;> rfl

@[simp] theorem loads_apply (effect : Effect) (s : BrowserState) :
    (effect.apply s).loads = s.loads := by
  cases effect <;> rfl

end Effect

namespace Suspended

/-- What an answer for a task does that is not the latest load. -/
def effect (s : BrowserState) (answer : Answer) : Suspended → Effect
  | .node _ _ => .nothing
  | .relationships _ _ => .nothing
  | .expansion e url =>
    if s.isFresh e then
      match answer.node url with
      | .ok found => .fills e.row found.properties.blocks
      | .error failure => .tells failure
    else .nothing

/-- **An answer that does not go to the latest load ends its task with an effect.** -/
theorem resume_eq_effect (config : Config) {s : BrowserState} (hs : s.Coherent) {task : Suspended}
    (h : task.isLoad = true → task.loadToken ≠ s.loads.latest) (answer : Answer) :
    task.resume config s answer =
      ((task.effect s answer).apply s, .ended (task.effect s answer).result) := by
  cases task with
  | node load url => exact resume_of_ne (Ne.symm (h rfl))
  | relationships load url => exact resume_of_ne (Ne.symm (h rfl))
  | expansion e url =>
      rcases resume_expansion_cases config hs e url answer with ⟨hfresh, hresume⟩ |
        ⟨failure, hfresh, hnode, hresume⟩ | ⟨node, surface, hfresh, hnode, hsurface, hresume⟩
      · rw [hresume, effect, if_neg hfresh]
        rfl
      · rw [hresume, effect, if_pos hfresh, hnode]
        rfl
      · rw [hresume, effect, if_pos hfresh, hnode]
        simp only [Effect.apply, Effect.result, Surface.fill_of_updateContainer? hsurface]

/-- **An effect does not depend on effects before it.** -/
@[simp] theorem effect_apply (task : Suspended) (other : Effect) (s : BrowserState)
    (answer : Answer) : task.effect (other.apply s) answer = task.effect s answer := by
  cases task with
  | node load url => rfl
  | relationships load url => rfl
  | expansion e url => simp only [effect, Effect.isFresh_apply]

/-- Only a fresh expansion fills a container, that of its row. -/
theorem exists_of_effect_eq_fills {task : Suspended} {s : BrowserState} {answer : Answer}
    {row : Nat} {blocks : List Block} (h : task.effect s answer = .fills row blocks) :
    ∃ e url, task = .expansion e url ∧ s.isFresh e = true ∧ e.row = row := by
  cases task with
  | node load url => cases h
  | relationships load url => cases h
  | expansion e url =>
      rw [effect] at h
      split at h
      · rename_i hfresh
        split at h
        · cases h
          exact ⟨e, url, rfl, hfresh, rfl⟩
        · cases h
      · cases h

end Suspended

/-! ### States that differ in the order of alerts -/

namespace BrowserState

/-- Two states differ in the order of their alerts at most. -/
structure SameUpToAlertOrder (s t : BrowserState) : Prop where
  /-- All but the alerts is the same. -/
  rest : s = { t with alerts := s.alerts }
  /-- The alerts are the same in some order. -/
  alerts : s.alerts.pending.Perm t.alerts.pending

namespace SameUpToAlertOrder

variable {s t u : BrowserState}

theorem refl (s : BrowserState) : s.SameUpToAlertOrder s := ⟨rfl, .refl _⟩

theorem trans (h : s.SameUpToAlertOrder t) (h' : t.SameUpToAlertOrder u) :
    s.SameUpToAlertOrder u := by
  refine ⟨?_, h.alerts.trans h'.alerts⟩
  rw [h.rest, h'.rest]

/-- No effect tells the order of alerts. -/
theorem apply (h : s.SameUpToAlertOrder t) (effect : Effect) :
    (effect.apply s).SameUpToAlertOrder (effect.apply t) := by
  obtain ⟨hrest, halerts⟩ := h
  cases effect with
  | nothing => exact ⟨hrest, halerts⟩
  | tells failure =>
      refine ⟨?_, halerts.append_right _⟩
      rw [hrest]
      rfl
  | fills row blocks =>
      refine ⟨?_, halerts⟩
      rw [hrest]
      rfl

/-- Nor does whether an expansion is fresh, and so what an answer does. -/
theorem effect (h : s.SameUpToAlertOrder t) (task : Suspended) (answer : Answer) :
    task.effect s answer = task.effect t answer := by
  rw [h.rest]
  rfl

end SameUpToAlertOrder

end BrowserState

/-- **Effects commute** unless they fill the container of the same row. -/
theorem Effect.apply_comm {effect other : Effect}
    (h : ∀ row blocks blocks', effect = .fills row blocks → other ≠ .fills row blocks')
    (s : BrowserState) :
    (other.apply (effect.apply s)).SameUpToAlertOrder (effect.apply (other.apply s)) := by
  cases effect with
  | nothing => exact .refl _
  | tells failure =>
      cases other with
      | nothing => exact .refl _
      | tells failure' =>
          refine ⟨rfl, ?_⟩
          simp only [apply, BrowserState.alert, AlertQueue.pending_add, List.append_assoc,
            List.singleton_append]
          exact (List.Perm.swap _ _ []).append_left _
      | fills row blocks => exact .refl _
  | fills row blocks =>
      cases other with
      | nothing => exact .refl _
      | tells failure => exact .refl _
      | fills row' blocks' =>
          have hne : row ≠ row' := by
            rintro rfl
            exact h row blocks blocks' rfl rfl
          have hsurface := s.surface.fill_comm hne blocks blocks'
          simp only [apply, hsurface]
          exact .refl _

/-! ### Worlds -/

namespace World

variable {config : Config} {w v : World} {task other : Nat}

/-- The load that was started last along a run, none if there is none. -/
def latestLoad? (config : Config) (w : World) (latest : Option Nat) : List Event → Option Nat
  | [] => latest
  | event :: events =>
    latestLoad? config (w.step config event)
      (if event.startsLoad then some w.tasks.length else latest) events

/-- A world after answers for several tasks, each with its own answer. -/
def answerAll (config : Config) (answers : Nat → Answer) (order : List Nat) (w : World) : World :=
  w.run config (order.map fun task => .resume task (answers task))

@[simp] theorem answerAll_nil (answers : Nat → Answer) : w.answerAll config answers [] = w := rfl

@[simp] theorem answerAll_cons (answers : Nat → Answer) (order : List Nat) :
    w.answerAll config answers (task :: order) =
      (w.step config (.resume task (answers task))).answerAll config answers order := rfl

/-! ### Tasks that stand aside -/

/-- A task stands aside if it is not the latest load. -/
def StandsAside (w : World) (task : Nat) : Prop :=
  ∀ suspended, w.waiting? task = some suspended → suspended.isLoad = true →
    suspended.loadToken ≠ w.state.loads.latest

/-- Answers do not make a load the latest one. -/
theorem StandsAside.step_resume (h : w.StandsAside task) (other : Nat) (answer : Answer) :
    (w.step config (.resume other answer)).StandsAside task := by
  intro next hnext hload
  rw [latest_step_of_not_start config rfl]
  rcases waiting?_step hnext with hbefore | ⟨suspended, _, heq, hbefore, hresume⟩ | ⟨_, heq, -⟩
  · exact h next hbefore hload
  · cases heq
    obtain ⟨hsame, htoken⟩ := Suspended.loadToken_of_resume hresume
    rw [htoken]
    exact h suspended hbefore (hsame ▸ hload)
  · cases heq

/-- The only load that waits with the token of the latest load is this load. -/
def LatestIs (w : World) (latest : Option Nat) : Prop :=
  ∀ task suspended, w.waiting? task = some suspended → suspended.isLoad = true →
    suspended.loadToken = w.state.loads.latest → latest = some task

theorem latestIs_step {latest : Option Nat} (h : w.LatestIs latest) (hbounded : w.TokensBounded)
    (event : Event) :
    (w.step config event).LatestIs (if event.startsLoad then some w.tasks.length else latest) := by
  intro task next hnext hload htoken
  rcases waiting?_step hnext with hbefore | ⟨suspended, answer, rfl, hbefore, hresume⟩ |
    ⟨command, rfl, rfl, hstart⟩
  · have hle := hbounded task next hbefore
    rw [latest_step] at htoken
    cases hstarts : event.startsLoad with
    | true =>
        rw [hstarts, if_pos rfl] at htoken
        omega
    | false =>
        rw [hstarts, if_neg Bool.false_ne_true] at htoken
        exact h task next hbefore hload htoken
  · obtain ⟨hsame, hkeeps⟩ := Suspended.loadToken_of_resume hresume
    rw [hkeeps, latest_step_of_not_start config rfl] at htoken
    exact h task suspended hbefore (hsame ▸ hload) htoken
  · have hstarts : (Event.start command).startsLoad = true := by
      rw [Command.start] at hstart
      rw [Event.startsLoad, ← Command.isLoad_intent config w.state.controls,
        ← (Intent.loadToken_of_start hstart).1]
      exact hload
    rw [if_pos hstarts]

theorem latestIs_run {latest : Option Nat} (h : w.LatestIs latest) (hbounded : w.TokensBounded)
    (events : List Event) :
    (w.run config events).LatestIs (w.latestLoad? config latest events) := by
  induction events generalizing w latest with
  | nil => exact h
  | cons event events ih =>
      exact ih (latestIs_step h hbounded event) (tokensBounded_step hbounded event)

/-- **All tasks but the latest load stand aside.** -/
theorem standsAside_run (config : Config) {events : List Event}
    (h : initial.latestLoad? config none events ≠ some task) :
    (initial.run config events).StandsAside task := by
  have hinitial : initial.LatestIs none := by
    intro other suspended hwaiting
    cases hwaiting
  intro suspended hwaiting hload htoken
  exact h (latestIs_run hinitial tokensBounded_initial events task suspended hwaiting hload htoken)

/-- An answer for a task that stands aside ends it with an effect. -/
theorem step_resume_eq_effect (hs : w.state.Coherent) (h : w.StandsAside task)
    {suspended : Suspended} (hwaiting : w.waiting? task = some suspended) (answer : Answer) :
    w.step config (.resume task answer) =
      ⟨(suspended.effect w.state answer).apply w.state,
        w.tasks.set task (.ended (suspended.effect w.state answer).result)⟩ := by
  rw [step, resume_of_waiting hwaiting,
    Suspended.resume_eq_effect config hs (h suspended hwaiting)]

/-- An answer for one task is none for another. -/
theorem waiting?_step_resume_of_ne (hne : other ≠ task) (answer : Answer) :
    (w.step config (.resume other answer)).waiting? task = w.waiting? task := by
  rw [step, resume]
  split
  · rw [waiting?, List.getElem?_set_ne hne, waiting?]
  · rfl

/-! ### Worlds that differ in the order of alerts -/

/-- Two worlds differ in the order of their alerts at most. -/
structure SameUpToAlertOrder (w v : World) : Prop where
  /-- So do the states. -/
  state : w.state.SameUpToAlertOrder v.state
  /-- The same has become of the tasks. -/
  tasks : w.tasks = v.tasks

namespace SameUpToAlertOrder

theorem refl (w : World) : w.SameUpToAlertOrder w := ⟨.refl _, rfl⟩

theorem trans {u : World} (h : w.SameUpToAlertOrder v) (h' : v.SameUpToAlertOrder u) :
    w.SameUpToAlertOrder u :=
  ⟨h.state.trans h'.state, h.tasks.trans h'.tasks⟩

theorem waiting? (h : w.SameUpToAlertOrder v) (task : Nat) : w.waiting? task = v.waiting? task := by
  rw [World.waiting?, World.waiting?, h.tasks]

/-- The same tasks stand aside. -/
theorem standsAside (h : w.SameUpToAlertOrder v) (haside : w.StandsAside task) :
    v.StandsAside task := by
  intro suspended hwaiting hload
  have hlatest : w.state.loads.latest = v.state.loads.latest := by rw [h.state.rest]
  rw [← hlatest]
  exact haside suspended ((h.waiting? task).trans hwaiting) hload

/-- No answer tells the order of alerts. -/
theorem step_resume (h : w.SameUpToAlertOrder v) (hw : w.state.Coherent) (hv : v.state.Coherent)
    (haside : w.StandsAside task) (answer : Answer) :
    (w.step config (.resume task answer)).SameUpToAlertOrder
      (v.step config (.resume task answer)) := by
  cases hwaiting : w.waiting? task with
  | none =>
      have hwaiting' : v.waiting? task = none := (h.waiting? task).symm.trans hwaiting
      rw [step, step, resume_of_not_waiting hwaiting, resume_of_not_waiting hwaiting']
      exact h
  | some suspended =>
      have hwaiting' : v.waiting? task = some suspended := (h.waiting? task).symm.trans hwaiting
      rw [step_resume_eq_effect hw haside hwaiting,
        step_resume_eq_effect hv (h.standsAside haside) hwaiting', h.state.effect, h.tasks]
      exact ⟨h.state.apply _, rfl⟩

/-- No number of answers tells the order of alerts. -/
theorem answerAll (h : w.SameUpToAlertOrder v) (hw : w.state.Coherent) (hv : v.state.Coherent)
    (answers : Nat → Answer) {order : List Nat} (haside : ∀ task ∈ order, w.StandsAside task) :
    (w.answerAll config answers order).SameUpToAlertOrder (v.answerAll config answers order) := by
  induction order generalizing w v with
  | nil => exact h
  | cons task order ih =>
      obtain ⟨hfirst, hlater⟩ := List.forall_mem_cons.mp haside
      exact ih (h.step_resume hw hv hfirst _) (coherent_step hw _) (coherent_step hv _)
        fun other hmem => (hlater other hmem).step_resume _ _

end SameUpToAlertOrder

/-! ### Two answers -/

/-- At most one expansion of a row is fresh. -/
def HoldersDiffer (w : World) : Prop :=
  ∀ task other e e' url url', w.waiting? task = some (.expansion e url) →
    w.waiting? other = some (.expansion e' url') → w.state.isFresh e = true →
    w.state.isFresh e' = true → e.row = e'.row → task = other

/-- **At most one expansion of a row is fresh after every run**: the newest one. -/
theorem holdersDiffer_run (config : Config) (events : List Event) :
    (initial.run config events).HoldersDiffer := by
  intro task other e e' url url' hwaiting hwaiting' hfresh hfresh' hrow
  have hunfolds := unfolds_run config events
  have hnewest := hunfolds.holder task e url hwaiting (BrowserState.isFresh_eq_true_iff.mp hfresh).2
  have hnewest' :=
    hunfolds.holder other e' url' hwaiting' (BrowserState.isFresh_eq_true_iff.mp hfresh').2
  simp only [← hrow] at hnewest'
  exact Option.some.inj (hnewest.symm.trans hnewest')

/-- **Two answers commute** unless one of them goes to the latest load. -/
theorem resume_comm (hs : w.state.Coherent) (hholders : w.HoldersDiffer)
    (h : w.StandsAside task) (h' : w.StandsAside other) (answers : Nat → Answer) :
    (w.answerAll config answers [task, other]).SameUpToAlertOrder
      (w.answerAll config answers [other, task]) := by
  by_cases hne : task = other
  · subst hne
    exact .refl _
  have hthen : ∀ answer,
      (w.step config (.resume task answer)).waiting? other = w.waiting? other :=
    waiting?_step_resume_of_ne hne
  have hthen' : ∀ answer,
      (w.step config (.resume other answer)).waiting? task = w.waiting? task :=
    waiting?_step_resume_of_ne (Ne.symm hne)
  simp only [answerAll_cons, answerAll_nil]
  cases hwaiting : w.waiting? task with
  | none =>
      have hnow : w.step config (.resume task (answers task)) = w :=
        resume_of_not_waiting hwaiting _
      have hlater : (w.step config (.resume other (answers other))).step config
          (.resume task (answers task)) = w.step config (.resume other (answers other)) :=
        resume_of_not_waiting ((hthen' _).trans hwaiting) _
      rw [hnow, hlater]
      exact .refl _
  | some suspended =>
      cases hwaiting' : w.waiting? other with
      | none =>
          have hnow : w.step config (.resume other (answers other)) = w :=
            resume_of_not_waiting hwaiting' _
          have hlater : (w.step config (.resume task (answers task))).step config
              (.resume other (answers other)) = w.step config (.resume task (answers task)) :=
            resume_of_not_waiting ((hthen _).trans hwaiting') _
          rw [hnow, hlater]
          exact .refl _
      | some suspended' =>
          rw [step_resume_eq_effect (coherent_step hs _) (h'.step_resume _ _)
              ((hthen _).trans hwaiting'),
            step_resume_eq_effect (coherent_step hs _) (h.step_resume _ _)
              ((hthen' _).trans hwaiting),
            step_resume_eq_effect hs h hwaiting, step_resume_eq_effect hs h' hwaiting']
          simp only [Suspended.effect_apply]
          refine ⟨Effect.apply_comm ?_ _, List.set_comm _ _ hne⟩
          -- two effects on one row would come from two fresh expansions of it
          intro row blocks blocks' hfills hfills'
          obtain ⟨e, url, rfl, hfresh, rfl⟩ := Suspended.exists_of_effect_eq_fills hfills
          obtain ⟨e', url', rfl, hfresh', hrow⟩ := Suspended.exists_of_effect_eq_fills hfills'
          exact hne (hholders task other e e' url url' hwaiting hwaiting' hfresh hfresh' hrow.symm)

/-! ### Any number of answers -/

/-- A world that is reached by a run and then by answers is reached by a run. -/
theorem step_run (config : Config) (events : List Event) (event : Event) :
    (initial.run config events).step config event = initial.run config (events ++ [event]) := by
  rw [run_append]
  rfl

/-- **Any number of answers may change places** unless one of them goes to the latest load. -/
theorem answerAll_perm (config : Config) (answers : Nat → Answer) {order order' : List Nat}
    (hperm : order.Perm order') (events : List Event)
    (haside : ∀ task ∈ order, (initial.run config events).StandsAside task) :
    ((initial.run config events).answerAll config answers order).SameUpToAlertOrder
      ((initial.run config events).answerAll config answers order') := by
  induction hperm generalizing events with
  | nil => exact .refl _
  | cons task _ ih =>
      have hlater := (List.forall_mem_cons.mp haside).2
      rw [answerAll_cons, answerAll_cons, step_run]
      refine ih _ fun other hmem => ?_
      rw [← step_run]
      exact (hlater other hmem).step_resume _ _
  | swap task other rest =>
      obtain ⟨hfirst, hrest⟩ := List.forall_mem_cons.mp haside
      obtain ⟨hsecond, hlater⟩ := List.forall_mem_cons.mp hrest
      have hs : (initial.run config events).state.Coherent := coherent_run coherent_initial events
      -- the two answers that change places come first, and the others follow
      refine (resume_comm hs (holdersDiffer_run config events) hfirst hsecond answers).answerAll
        (coherent_step (coherent_step hs _) _) (coherent_step (coherent_step hs _) _) answers
        fun later hmem => ?_
      exact ((hlater later hmem).step_resume _ _).step_resume _ _
  | trans hfirst _ ih ih' =>
      exact (ih events haside).trans
        (ih' events fun task hmem => haside task (hfirst.mem_iff.mpr hmem))

/-- An answer for a task that stands aside is its last. -/
theorem exists_result?_answerAll (answers : Nat → Answer) {order : List Nat} {suspended : Suspended}
    (hs : w.state.Coherent) (haside : ∀ task ∈ order, w.StandsAside task) (hmem : task ∈ order)
    (hwaiting : w.waiting? task = some suspended) :
    ∃ result, (w.answerAll config answers order).result? task = some result := by
  induction order generalizing w with
  | nil => cases hmem
  | cons first rest ih =>
      obtain ⟨hfirst, hlater⟩ := List.forall_mem_cons.mp haside
      by_cases hsame : first = task
      · subst hsame
        have hresult : (w.step config (.resume first (answers first))).result? first =
            some (suspended.effect w.state (answers first)).result := by
          rw [step_resume_eq_effect hs hfirst hwaiting, result?_eq_some_iff]
          exact List.getElem?_set_self (lt_length_of_waiting hwaiting)
        exact ⟨_, result?_run hresult _⟩
      · refine ih (coherent_step hs _) (fun other hother => (hlater other hother).step_resume _ _)
          ((List.mem_cons.mp hmem).resolve_left (Ne.symm hsame)) ?_
        rw [waiting?_step_resume_of_ne hsame]
        exact hwaiting

/-- **The order of answers does not matter.**  After every run let any tasks that wait be answered
one after another, each with an answer of its own, and let the latest load not be among them. Then
every order of answers leads to the same surface, links, id, controls and tokens, and ends the same
tasks with the same results; the reader is told about the same failures, perhaps in another
order. -/
theorem order_of_answers_irrelevant (config : Config) (events : List Event)
    (answers : Nat → Answer) {order order' : List Nat} (hperm : order.Perm order')
    (haside : ∀ task ∈ order, initial.latestLoad? config none events ≠ some task) :
    let w := initial.run config events
    let first := w.answerAll config answers order
    let second := w.answerAll config answers order'
    first.state = { second.state with alerts := first.state.alerts } ∧
    first.state.alerts.pending.Perm second.state.alerts.pending ∧
    first.tasks = second.tasks ∧
    ∀ task ∈ order, ∀ suspended, w.waiting? task = some suspended →
      ∃ result, first.result? task = some result ∧ second.result? task = some result := by
  intro w first second
  have hs : w.state.Coherent := coherent_run coherent_initial events
  have hstands : ∀ task ∈ order, w.StandsAside task :=
    fun task hmem => standsAside_run config (haside task hmem)
  have hsame : first.SameUpToAlertOrder second := answerAll_perm config answers hperm events hstands
  refine ⟨hsame.state.rest, hsame.state.alerts, hsame.tasks, ?_⟩
  intro task hmem suspended hwaiting
  obtain ⟨result, hresult⟩ := exists_result?_answerAll answers hs hstands hmem hwaiting
  refine ⟨result, hresult, ?_⟩
  rw [result?, ← hsame.tasks, ← result?]
  exact hresult

/-- An overtaken load and four expansions are answered in two orders. The older expansion of the
first row is superseded in both. The expansions of the other rows fail, and the reader is told about
them in the order of the answers. -/
theorem order_of_answers_in_three_rows :
    let node : Answer := .ok (.array [.object [("name", .string "Ada")], .string "/all"])
    let row (url : String) : Json := .array [.string "/2", .string url, .string "KNOWS"]
    let events := [Event.start (.showInstead "/9"), .start (.showInstead "/2"), .resume 1 node,
      .resume 1 (.ok (.array [row "/3", row "/4", row "/5"])), .start (.expandRow 0),
      .start (.expandRow 0), .start (.expandRow 1), .start (.expandRow 2)]
    let answers (task : Nat) : Answer := if task < 4 then node else .error (.fetch "/" "timed out")
    let w := initial.run {} events
    let first := w.answerAll {} answers [0, 2, 3, 4, 5]
    let second := w.answerAll {} answers [5, 3, 4, 2, 0]
    [0, 2, 3, 4, 5].Perm [5, 3, 4, 2, 0] ∧
    (∀ task ∈ [0, 2, 3, 4, 5], initial.latestLoad? {} none events ≠ some task) ∧
    first.state = { second.state with alerts := first.state.alerts } ∧
    first.state.alerts.pending.Perm second.state.alerts.pending ∧ first.tasks = second.tasks ∧
    first.result? 0 = some (.ok .superseded) ∧ first.result? 2 = some (.ok .superseded) ∧
    first.result? 3 = some (.ok .rendered) ∧ first.state.alerts.size = 2 := by
  intro node row events answers w first second
  have hperm : [0, 2, 3, 4, 5].Perm [5, 3, 4, 2, 0] := by decide
  have haside : ∀ task ∈ [0, 2, 3, 4, 5], initial.latestLoad? {} none events ≠ some task := by
    decide +kernel
  obtain ⟨hstate, halerts, htasks, -⟩ := order_of_answers_irrelevant {} events answers hperm haside
  have hresults : first.result? 0 = some (.ok .superseded) ∧
      first.result? 2 = some (.ok .superseded) ∧ first.result? 3 = some (.ok .rendered) ∧
      first.state.alerts.size = 2 := by decide +kernel
  refine ⟨hperm, haside, ?_, ?_, ?_, hresults⟩
  · with_reducible exact hstate
  · with_reducible exact halerts
  · with_reducible exact htasks

end World

end GraphBrowser
