import GraphBrowser.CommandLine.Program
import GraphBrowser.Proofs.Navigation.Display
import GraphBrowser.Proofs.Resource.Address

/-!
# Rendering one node

The program that renders a node checks its settings, asks the store for the node and then for the
relationships that the node names, and writes what it has got by the time it fails or is done.

## Main statements

* `complete_node` — **a load that is left to itself**: what it shows, asks for, logs and ends with
* `renderNode_agrees_off_log` — the setting of the log decides about its records only
* `renderNode_eq` — **the whole report**, for any settings and any store

## Design notes

**The store may answer the same address in two ways.**  A node may name its own address as the one of
its relationships; the second request for it has an answer of its own.

**The report is said without the functions that make it.**  Headings, the table of properties and the
texts of the records are spelled out.
-/

namespace GraphBrowser

/-! ### Tasks that are left to themselves -/

section Complete

variable {config : Config} {store : Store} {s next : BrowserState} {task : Suspended}

/-- A task that ends with an answer has asked for one address. -/
theorem complete_of_resume_ended {result : Result}
    (h : task.resume config s (store.answer [] task.url) = (next, .ended result)) :
    complete config store s (.waiting task) =
      ⟨next, result, [task.url], task.announced ++ task.noted s (store.answer [] task.url)⟩ := by
  rw [complete]
  split
  · rename_i s' result' hresume
    rw [h] at hresume
    cases hresume
    rfl
  · rename_i s' waiting hresume
    rw [h] at hresume
    cases hresume

/-- A task that waits again asks the store as it is after the first request. -/
theorem complete_of_resume_waiting {waiting : Suspended}
    (h : task.resume config s (store.answer [] task.url) = (next, .waiting waiting)) :
    complete config store s (.waiting task) =
      let later := complete config (store.after task.url) next (.waiting waiting)
      { later with
        fetched := task.url :: later.fetched
        records := task.announced ++ task.noted s (store.answer [] task.url) ++ later.records } := by
  rw [complete]
  split
  · rename_i s' result hresume
    rw [h] at hresume
    cases hresume
  · rename_i s' waiting' hresume
    rw [h] at hresume
    cases hresume
    rfl

variable {load : Load}

/-- The latest load logs its failure as one that the reader is told about. -/
theorem BrowserState.failureRecord_of_latest (h : s.loads.latest = load.token) (failure : Failure) :
    s.failureRecord load failure = .failure failure := by
  rw [failureRecord, if_pos (isLatest_eq_true_iff.mpr h)]

/-- The second half of a load that is left to itself. -/
theorem complete_relationships (h : s.loads.latest = load.token) (url : String) :
    complete config store s (.waiting (.relationships load url)) =
      match (store.answer [] url).relationships url with
      | .error failure =>
        ⟨s.endLoadWith failure, .error failure, [url], [.request url, .failure failure]⟩
      | .ok relationships =>
        let count := toString relationships.length
        ⟨s.showRelationships
          (.ofRelationships relationships (s.current.id.getD load.id) config.tableMode),
          .ok .rendered, [url],
          [.request url,
            ⟨.info, "Rendered node " ++ load.id ++ " with " ++ count ++ " relationships"⟩]⟩ := by
  have hresume : (Suspended.relationships load url).resume config s (store.answer [] url) =
      s.resumeRelationships config load ((store.answer [] url).relationships url) :=
    Suspended.resume_relationships h url
  have hlatest : s.isLatest load = true := BrowserState.isLatest_eq_true_iff.mpr h
  cases hrelationships : (store.answer [] url).relationships url with
  | error failure =>
      rw [hrelationships] at hresume
      rw [complete_of_resume_ended hresume]
      simp only [Suspended.announced, Suspended.noted, Suspended.url, hrelationships,
        BrowserState.failureRecord_of_latest h]
      rfl
  | ok relationships =>
      rw [hrelationships] at hresume
      rw [complete_of_resume_ended hresume]
      simp only [Suspended.announced, Suspended.noted, Suspended.url, hrelationships, if_pos hlatest]
      rfl

/-- **A load that is left to itself** asks for its node and, if there is one in the answer, for the
relationships of the node. -/
theorem complete_node (h : s.loads.latest = load.token) (url : String) :
    let begun : List LogRecord :=
      [⟨.info, "Loading node " ++ load.id ++ " from " ++ url⟩, .request url]
    complete config store s (.waiting (.node load url)) =
      match (store.answer [] url).node url with
      | .error failure =>
        ⟨s.endLoadWith failure, .error failure, [url], begun ++ [.failure failure]⟩
      | .ok node =>
        let shown := s.showProperties node.properties
        let asked := [url, node.allRelationships]
        let logged := begun ++ [.request node.allRelationships]
        match (store.answer [url] node.allRelationships).relationships node.allRelationships with
        | .error failure =>
          ⟨shown.endLoadWith failure, .error failure, asked, logged ++ [.failure failure]⟩
        | .ok relationships =>
          let count := toString relationships.length
          ⟨shown.showRelationships
            (.ofRelationships relationships (s.current.id.getD load.id) config.tableMode),
            .ok .rendered, asked,
            logged ++
              [⟨.info, "Rendered node " ++ load.id ++ " with " ++ count ++ " relationships"⟩]⟩ := by
  intro begun
  have hresume : (Suspended.node load url).resume config s (store.answer [] url) =
      s.resumeNode load ((store.answer [] url).node url) :=
    Suspended.resume_node h url
  have hisLatest : s.isLatest load = true := BrowserState.isLatest_eq_true_iff.mpr h
  cases hnode : (store.answer [] url).node url with
  | error failure =>
      rw [hnode] at hresume
      rw [complete_of_resume_ended hresume]
      simp only [Suspended.announced, Suspended.noted, Suspended.url, hnode,
        BrowserState.failureRecord_of_latest h]
      rfl
  | ok node =>
      rw [hnode] at hresume
      have hlatest : (s.showProperties node.properties).loads.latest = load.token := h
      have hnoted : (Suspended.node load url).noted s (store.answer [] url) = [] := by
        rw [Suspended.noted, hnode]
        exact if_pos hisLatest
      rw [complete_of_resume_waiting hresume, complete_relationships hlatest]
      simp only [Store.after, Suspended.url, hnoted, List.append_nil]
      cases (store.answer [url] node.allRelationships).relationships node.allRelationships <;> rfl

end Complete

/-- The id in the address of the first node has no blanks at its ends. -/
theorem Config.trimmed_resourceId_firstAddress (config : Config) :
    trimmed (resourceId config.firstAddress) = resourceId config.firstAddress :=
  trimmed_resourceId_nodeAddress config.baseUrl config.firstNodeId

/-- The load of the first node, left to itself from the beginning. -/
theorem Command.run_showFirst (config : Config) (store : Store) :
    Command.run config store .initial .showFirst =
      complete config store
        (BrowserState.initial.advance.beginLoad (resourceId config.firstAddress))
        (.waiting (.node ⟨1, resourceId config.firstAddress⟩ config.firstAddress)) := by
  have hstart : Command.showFirst.start config .initial =
      (BrowserState.initial.advance.beginLoad (trimmed (resourceId config.firstAddress)),
        .waiting (.node ⟨1, trimmed (resourceId config.firstAddress)⟩ config.firstAddress)) :=
    Intent.start_append .initial _ _
  rw [run, hstart, config.trimmed_resourceId_firstAddress]

/-- **The setting of the log decides which records are written**, and nothing else. -/
theorem renderNode_agrees_off_log (config : Config) (log log' : LogLevel) (store : Store) :
    let report := renderNode config log store
    let report' := renderNode config log' store
    report.exit = report'.exit ∧ report.stdout = report'.stdout ∧
      report.messages = report'.messages ∧ report.requests = report'.requests := by
  intro report report'
  simp only [report, report', renderNode]
  cases config.check with
  | error failure => exact ⟨rfl, rfl, rfl, rfl⟩
  | ok _ =>
      cases (Command.run config store .initial .showFirst).result with
      | ok outcome => simp [Report.messages]
      | error failure => simp [Report.messages]

/-- **The whole report of rendering a node.**  Settings that are rejected are told about, and the
store is not asked. Otherwise it is asked for the address of the node, and for the relationships that
the node names if there is a node in the answer. The output has one, three or five blocks: the
heading, the properties if there is a node, and the relationships if these could be had too. The exit
code is zero exactly if both could be had. If not, the message of the one failure is told once as an
alert and once as the error that ends the program. Nothing else is on the standard error but the
records of the log that are written for the setting. -/
theorem renderNode_eq (config : Config) (log : LogLevel) (store : Store) :
    let url := nodeAddress config.baseUrl config.firstNodeId
    let id := resourceId url
    let title := Block.heading ("Node " ++ id)
    let begun : List LogRecord :=
      [⟨.info, "Loading node " ++ id ++ " from " ++ url⟩, ⟨.debug, "GET " ++ url⟩]
    let written (records : List LogRecord) : List ErrorOutput :=
      (records.filter fun record => log.admits record.level).map .record
    renderNode config log store =
      match config.check with
      | .error failure =>
        { exit := 1
          stdout := some ""
          stderr := some [.message ("Error: " ++ failure.message)]
          requests := [] }
      | .ok () =>
        match (store.answer [] url).node url with
        | .error failure =>
          { exit := 1
            stdout := some (Block.html .direct [title])
            stderr := some (written (begun ++ [⟨.warn, failure.message⟩]) ++
              [.message failure.message, .message ("Error: " ++ failure.message)])
            requests := [url] }
        | .ok node =>
          let properties := Block.properties
            ⟨node.properties.entries.map fun entry => ⟨entry.1, entry.2.display⟩⟩
          let logged := begun ++ [⟨.debug, "GET " ++ node.allRelationships⟩]
          match (store.answer [url] node.allRelationships).relationships node.allRelationships with
          | .error failure =>
            { exit := 1
              stdout := some (Block.html .direct [title, .heading "Properties", properties])
              stderr := some (written (logged ++ [⟨.warn, failure.message⟩]) ++
                [.message failure.message, .message ("Error: " ++ failure.message)])
              requests := [url, node.allRelationships] }
          | .ok relationships =>
            let table := (LinkedTable.ofRelationships relationships id config.tableMode).table
            let count := toString relationships.length
            { exit := 0
              stdout := some (Block.html .direct
                [title, .heading "Properties", properties,
                 .heading ("Relationships (" ++ count ++ ")"), .relationships table])
              stderr := some (written (logged ++
                [⟨.info, "Rendered node " ++ id ++ " with " ++ count ++ " relationships"⟩]))
              requests := [url, node.allRelationships] } := by
  intro url id title begun written
  cases hcheck : config.check with
  | error failure =>
      rw [renderNode, hcheck]
      rfl
  | ok _ =>
      have hrun : Command.run config store .initial .showFirst = complete config store
          (BrowserState.initial.advance.beginLoad id) (.waiting (.node ⟨1, id⟩ url)) :=
        Command.run_showFirst config store
      rw [renderNode, hcheck, hrun, complete_node rfl]
      cases hnode : (store.answer [] url).node url with
      | error failure => rfl
      | ok node =>
          cases hrelationships :
              (store.answer [url] node.allRelationships).relationships node.allRelationships with
          | error failure =>
              simp only [hrelationships]
              rfl
          | ok relationships =>
              have hcurrent : (BrowserState.initial.advance.beginLoad id).current.id = some id := by
                rw [BrowserState.beginLoad, CurrentNode.id_set]
                exact congrArg some config.trimmed_resourceId_firstAddress
              have hblocks := LinkedTable.blocks_ofRelationships relationships id config.tableMode
              have htold : ∀ records, written records = ErrorOutput.told (log.written records) [] :=
                fun records => (ErrorOutput.told_nil _).symm
              simp only [hrelationships, hcurrent, Option.getD_some, ← hblocks, htold]
              rfl

end GraphBrowser
