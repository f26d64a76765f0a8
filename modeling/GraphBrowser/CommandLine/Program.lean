import GraphBrowser.CommandLine.Arguments
import GraphBrowser.Host.Route
import GraphBrowser.Store.Network
import GraphBrowser.Text.Parts

/-!
# The program

What the two commands do, apart from reading and writing.

## Main definitions

* `Report` — the exit code, what is written, and the requests that the store has seen
* `Report.messages`, `Report.errorLines` — what the standard error has besides the log
* `renderNode` — renders one node
* `servePage` — serves the page for a list of requests
* `Program.run`, `Program.responses` — the program for a list of arguments

## Design notes

**A node is rendered as far as it could be loaded.** Its failure is told twice, once as an alert and
once as the error that ends the program; settings that cannot work are told once. The log, which has
the failure as a warning, goes to the standard error as well.

**Records of libraries are left out**, and so is the standard error of the page: it is written by two
threads, so that the order of its records is open.
-/

namespace GraphBrowser

/-- A piece of what is written to the standard error. -/
inductive ErrorOutput where
  /-- A record of the log. -/
  | record (record : LogRecord)
  /-- A message of the program. -/
  | message (text : String)
deriving Repr, DecidableEq

namespace ErrorOutput

/-- The text of a message. -/
def message? : ErrorOutput → Option String
  | .record _ => none
  | .message text => some text

/-- Records, followed by messages. -/
def told (records : List LogRecord) (messages : List String) : List ErrorOutput :=
  records.map record ++ messages.map message

@[simp] theorem told_nil (records : List LogRecord) : told records [] = records.map record :=
  List.append_nil _

/-- The messages are told apart from the records. -/
@[simp] theorem filterMap_message?_told (records : List LogRecord) (messages : List String) :
    (told records messages).filterMap message? = messages := by
  induction records with
  | nil => simp [told, List.filterMap_map, Function.comp_def, message?]
  | cons record records ih => exact ih

end ErrorOutput

/-- What the program leaves behind. -/
structure Report where
  /-- The exit code. -/
  exit : Nat
  /-- What is written to the standard output, if that is up to the program. -/
  stdout : Option String
  /-- What is written to the standard error, in order, if that is up to the program and to nothing
  else. -/
  stderr : Option (List ErrorOutput)
  /-- The addresses whose requests have reached the store. -/
  requests : List String := []
deriving Repr, DecidableEq

namespace Report

/-- The messages that are written to the standard error, apart from the log. -/
def messages (report : Report) : Option (List String) :=
  report.stderr.map (·.filterMap ErrorOutput.message?)

/-- The lines of these messages. A message ends its last line. -/
def errorLines (report : Report) : Option (List String) :=
  report.messages.map fun messages =>
    messages.flatMap fun message =>
      (Text.lines (message.toList ++ ['\n'])).map String.ofList

/-- Settings that are rejected, before anything else is done. -/
def badConfig (failure : Failure) : Report :=
  { exit := 1, stdout := some "", stderr := some [.message ("Error: " ++ failure.message)] }

/-- Arguments that are rejected: help is no error. -/
def rejection : Rejection → Report
  | .help => { exit := 0, stdout := none, stderr := none }
  | .usage => { exit := 2, stdout := none, stderr := none }

end Report

/-- Renders the first node of the settings with a store that always answers. The report holds all
addresses that were asked for. -/
def renderNode (config : Config) (log : LogLevel) (store : Store) : Report :=
  match config.check with
  | .error failure => .badConfig failure
  | .ok () =>
    let completion := Command.run config store .initial .showFirst
    let records := log.written completion.records
    let alerts := completion.state.alerts.pending.map Alert.message
    let report (exit : Nat) (messages : List String) : Report :=
      { exit
        stdout := some (completion.state.surface.html .direct)
        stderr := some (ErrorOutput.told records messages)
        requests := completion.fetched }
    match completion.result with
    | .ok _ => report 0 alerts
    | .error failure => report 1 (alerts ++ ["Error: " ++ failure.message])

/-- What the page leaves behind: the responses and the addresses that were asked for. -/
structure Service where
  /-- The responses in the order of the requests. -/
  responses : List Response
  /-- The addresses, in order. -/
  fetched : List String
deriving Repr, DecidableEq

/-- Loads the first node of the settings and serves the page for requests that are sent one after
another, until it is interrupted. -/
def servePage (config : Config) (answers : String → Answer) (requests : List Request) : Service :=
  let loaded := Command.run config (.steady answers) .initial .showFirst
  let exchanges := Host.respondAll config answers loaded.state requests
  ⟨exchanges.map (·.response), loaded.fetched ++ exchanges.flatMap (·.fetched)⟩

namespace Program

/-- The program for a list of arguments, with the requests that are sent to its page, if it serves
one. -/
def run (network : Network) (arguments : List String) (requests : List Request) : Report :=
  match Invocation.ofArguments arguments with
  | .error rejection => .rejection rejection
  | .ok (.render config log) =>
    let report := renderNode config log (.steady network.fetch)
    { report with requests := network.requests report.requests }
  | .ok (.serve config _) =>
    match config.check with
    | .error failure => .badConfig failure
    | .ok () =>
      let received := if network.connected then requests else []
      { exit := 0
        stdout := some ""
        stderr := none
        requests := network.requests (servePage config network.fetch received).fetched }

/-- The responses of the program to requests for its page. There is none if the program does not
serve or cannot be reached. -/
def responses (network : Network) (arguments : List String) (requests : List Request) :
    List (Option Response) :=
  let absent : List (Option Response) := requests.map fun _ => none
  match Invocation.ofArguments arguments with
  | .error _ => absent
  | .ok (.render _ _) => absent
  | .ok (.serve config _) =>
    match config.check with
    | .error _ => absent
    | .ok () =>
      if network.connected then (servePage config network.fetch requests).responses.map some
      else absent

end Program

end GraphBrowser
