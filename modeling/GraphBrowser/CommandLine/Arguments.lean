import GraphBrowser.Config
import GraphBrowser.Host.Request
import GraphBrowser.Log

/-!
# The command line

There are two commands: one renders a single node, the other serves the page. Options may stand
before and after the name of the command.

## Main definitions

* `Invocation` — what a command line asks for
* `Rejection` — a call for help, or a line that cannot be used
* `Invocation.ofArguments` — the invocation for a list of arguments

## Design notes

**Arguments are read from left to right, and the first one that cannot be used decides.** An option
may be given once before the name of the command and once after it; the later one counts. A value
does not begin with a hyphen, unless it is one or is attached to its option by an equals sign.

**A value that stands for itself is only looked at when reading goes on in the same place**, with
another option or an id, or when all has been read. So a call for help behind the name of a command
is heard although the last value in front of that name cannot be used.
-/

namespace GraphBrowser

/-- What a command line asks for. -/
inductive Invocation where
  /-- To render one node, with a log. -/
  | render (config : Config) (log : LogLevel)
  /-- To serve the page at a port. -/
  | serve (config : Config) (port : Nat)
deriving Repr, DecidableEq

/-- Why nothing is run. -/
inductive Rejection where
  /-- Help was asked for. -/
  | help
  /-- The arguments cannot be used. -/
  | usage
deriving Repr, DecidableEq

namespace CommandLine

/-- The name of a command. -/
inductive Verb where
  /-- Renders one node. -/
  | render
  /-- Serves the page. -/
  | serve
deriving Repr, DecidableEq

/-- The command with a name. -/
def verb? (name : String) : Option Verb :=
  if name = "render" then some .render
  else if name = "serve" then some .serve
  else none

/-- The options that were given before the name of the command, or after it. -/
structure Options where
  /-- The base address of the store. -/
  baseUrl : Option String := none
  /-- The time to wait for a reply, in milliseconds. -/
  timeoutMs : Option Nat := none
  /-- Whether rows are to have no expand control. -/
  noInline : Bool := false
  /-- How much is logged. -/
  logLevel : Option String := none
  /-- The node that is shown first. -/
  initialNode : Option String := none
  /-- The port of the page. -/
  port : Option Nat := none
  /-- The name and the value of the option whose value has not been looked at. -/
  unread : Option (String × String) := none
deriving Repr, DecidableEq

/-- What has been read of a command line. -/
structure Reading where
  /-- The options before the name of the command. -/
  before : Options := {}
  /-- The command, once it has been named. -/
  verb : Option Verb := none
  /-- The options after the name of the command. -/
  after : Options := {}
  /-- The id of the node to render. -/
  id : Option String := none
  /-- Whether two hyphens have ended the options. -/
  optionsEnded : Bool := false
deriving Repr, DecidableEq

/-- Whether the argument is read as an option where a value is wanted. -/
def looksLikeOption (argument : String) : Bool :=
  match argument.toList with
  | '-' :: _ :: _ => true
  | _ => false

/-- The number of milliseconds that a text stands for. -/
def milliseconds? (value : String) : Option Nat := (Query.parseNatural value.toList).toOption

/-- The port that a text stands for. A negative zero is a zero. -/
def port? (value : String) : Option Nat :=
  let number :=
    match value.toList with
    | '-' :: digits =>
      if digits.head? = some '+' then none
      else (Query.parseNatural digits).toOption.filter (· == 0)
    | digits => (Query.parseNatural digits).toOption
  number.filter (· ≤ 65535)

/-- Whether an option has a value. The options of the page only belong to its command. -/
def hasValue (verb : Option Verb) (name : String) : Bool :=
  ["base-url", "timeout-ms", "log-level"].contains name ||
    verb == some .serve && ["initial-node", "port"].contains name

/-- The value of an option that has not been given yet. -/
def once {α : Type} (given value : Option α) : Except Rejection (Option α) :=
  match given, value with
  | none, some value => .ok (some value)
  | _, _ => .error .usage

namespace Options

/-- The options with one more that has a value. -/
def set (options : Options) (name value : String) : Except Rejection Options := do
  if name = "base-url" then
    return { options with baseUrl := ← once options.baseUrl (some value) }
  else if name = "timeout-ms" then
    return { options with timeoutMs := ← once options.timeoutMs (milliseconds? value) }
  else if name = "log-level" then
    return { options with logLevel := ← once options.logLevel (some value) }
  else if name = "initial-node" then
    return { options with initialNode := ← once options.initialNode (some value) }
  else if name = "port" then
    return { options with port := ← once options.port (port? value) }
  else .error .usage

/-- The options after the last value has been looked at. -/
def settle (options : Options) : Except Rejection Options :=
  match options.unread with
  | none => .ok options
  | some (name, value) => ({ options with unread := none } : Options).set name value

end Options

namespace Reading

/-- The reading after a step on the options that the next one belongs to. Their last value is looked
at first. -/
def onOptions (reading : Reading) (step : Options → Except Rejection Options) :
    Except Rejection Reading := do
  match reading.verb with
  | none => return { reading with before := ← step (← reading.before.settle) }
  | some _ => return { reading with after := ← step (← reading.after.settle) }

/-- The reading after the last value has been looked at. -/
def settle (reading : Reading) : Except Rejection Reading := reading.onOptions .ok

/-- The reading after an option with its value in one argument. -/
def attached (reading : Reading) (name value : String) : Except Rejection Reading :=
  if hasValue reading.verb name then reading.onOptions (·.set name value) else .error .usage

/-- The reading after an option with its value in the next argument. -/
def separated (reading : Reading) (name value : String) : Except Rejection Reading :=
  if hasValue reading.verb name then
    reading.onOptions fun options => .ok { options with unread := some (name, value) }
  else .error .usage

/-- The reading after the one option that has no value. -/
def flag (reading : Reading) : Except Rejection Reading :=
  reading.onOptions fun options =>
    if options.noInline then .error .usage else .ok { options with noInline := true }

/-- The answer to an option that calls for help. -/
def help (reading : Reading) : Except Rejection Reading := do
  let _ ← reading.settle
  .error .help

/-- The reading after an argument that is no option. -/
def positional (reading : Reading) (argument : String) : Except Rejection Reading := do
  match reading.verb, reading.id with
  | none, _ =>
    match verb? argument with
    | some verb =>
      if reading.optionsEnded then .error .usage else return { reading with verb := some verb }
    | none => .error .usage
  | some .render, none => return { ← reading.settle with id := some argument }
  | some .render, some _ => .error .usage
  | some .serve, _ => .error .usage

/-- The reading after all arguments: every value has been looked at. -/
def finish (reading : Reading) : Except Rejection Reading := do
  return { reading with before := ← reading.before.settle, after := ← reading.after.settle }

end Reading

/-- Help for a command that is named, or for all of them. -/
def helpFor : List String → Rejection
  | [] => .help
  | [name] => if (verb? name).isSome ∨ name = "help" then .help else .usage
  | _ => .usage

/-- Reads arguments from left to right. -/
def read (reading : Reading) : List String → Except Rejection Reading
  | [] => reading.finish
  | argument :: rest =>
    if reading.optionsEnded then do
      let reading ← reading.positional argument
      read reading rest
    else
      match argument.toList with
      | '-' :: '-' :: [] => read { reading with optionsEnded := true } rest
      | '-' :: '-' :: long =>
        let name := String.ofList (long.takeWhile (· != '='))
        match long.dropWhile (· != '=') with
        | _ :: value => do
          let reading ← reading.attached name (String.ofList value)
          read reading rest
        | [] =>
          if name = "help" then reading.help
          else if name = "no-inline" then do
            let reading ← reading.flag
            read reading rest
          else
            match rest with
            | [] => .error .usage
            | value :: rest =>
              if looksLikeOption value then .error .usage
              else do
                let reading ← reading.separated name value
                read reading rest
      | '-' :: 'h' :: _ => reading.help
      | '-' :: _ :: _ => .error .usage
      | _ =>
        if reading.verb = none ∧ argument = "help" then .error (helpFor rest)
        else do
          let reading ← reading.positional argument
          read reading rest

/-- The settings for options, those after the name of the command having precedence. -/
def Reading.config (reading : Reading) (firstNodeId : String) : Config where
  baseUrl := (reading.after.baseUrl.or reading.before.baseUrl).getD ({} : Config).baseUrl
  firstNodeId := firstNodeId
  expandable := !(reading.before.noInline || reading.after.noInline)

/-- How much is logged. The options after the name of the command have precedence here too. -/
def Reading.log (reading : Reading) : LogLevel :=
  ((reading.after.logLevel.or reading.before.logLevel).map LogLevel.ofText).getD .info

/-- The port of the page if none is given. -/
def defaultPort : Nat := 7475

end CommandLine

open CommandLine in
/-- The invocation for a list of arguments. -/
def Invocation.ofArguments (arguments : List String) : Except Rejection Invocation := do
  let reading ← CommandLine.read {} arguments
  match reading.verb, reading.id with
  | some .render, some id => return .render (reading.config id) reading.log
  | some .render, none => .error .usage
  | some .serve, _ =>
    let initialNode := reading.after.initialNode.getD ({} : Config).firstNodeId
    return .serve (reading.config initialNode) (reading.after.port.getD defaultPort)
  | none, _ => .error .usage

end GraphBrowser
