import GraphBrowser.CommandLine.Program
import GraphBrowser.Store.Description

/-!
# The program on a terminal

The first line of the standard input describes the store; if it is empty, the store refuses
connections. Each further line is the target of a request to the page, which is answered when the
page is served.

## Main definitions

* `usage` — what is told about the arguments
* `main` — reading, running and writing
-/

namespace GraphBrowser

/-- What is told about the arguments. -/
def usage : String :=
  "Usage: [OPTIONS] render <ID>\n" ++
  "       [OPTIONS] serve [--initial-node <ID>] [--port <PORT>]\n" ++
  "Options: --base-url <URL>, --timeout-ms <MS>, --no-inline, --log-level <LEVEL>"

/-- The line of a record, or the lines of a message. -/
def ErrorOutput.text : ErrorOutput → String
  | .record entry => entry.level.name ++ " " ++ entry.text
  | .message text => text

/-- Writes what the program leaves behind. -/
def Report.write (report : Report) : IO Unit := do
  match report.stdout with
  | some text => IO.print text
  | none => if report.exit = 0 then IO.println usage
  match report.stderr with
  | some output => output.forM fun piece => IO.eprintln piece.text
  | none => if report.exit ≠ 0 then IO.eprintln usage

/-- Writes a response: its status, where it leads, and its body. -/
def Response.write (response : Response) : IO Unit := do
  IO.println (toString response.status)
  match response.location with
  | some location => IO.println ("location: " ++ location)
  | none => pure ()
  IO.println response.body

/-- The store that the first line describes. -/
def storeOf (line : String) : Option Network :=
  if line.isEmpty then some { refuses := true } else Network.ofText? line

end GraphBrowser

open GraphBrowser in
/-- Runs the program for the arguments with the store and the requests of the standard input. -/
def main (arguments : List String) : IO UInt32 := do
  let input ← IO.getStdin
  let first ← input.getLine
  let others ← input.readToEnd
  match storeOf (trimmed first) with
  | none =>
    IO.eprintln "The first line of the input does not describe a store."
    return 2
  | some network =>
    let targets := (others.splitOn "\n").filter (!·.isEmpty)
    let requests := targets.map fun target => ({ target } : Request)
    let report := Program.run network arguments requests
    let responses := Program.responses network arguments requests
    responses.forM fun response =>
      match response with
      | some response => response.write
      | none => pure ()
    report.write
    return UInt32.ofNat report.exit
