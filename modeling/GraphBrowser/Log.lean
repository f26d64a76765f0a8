/-!
# The log

While it is at work the program writes records of what it does. How much of that is written is a
setting.

## Main definitions

* `LogLevel` — how important a record is
* `LogRecord` — one record
* `LogLevel.written` — the records that are written for a setting

## Design notes

A record is its level and its text. The time at which it is written and the part of the program that
it comes from are left out.
-/

namespace GraphBrowser

/-- How important a record is. As a setting it is the least important level that is written. -/
inductive LogLevel where
  /-- The work cannot go on. -/
  | error
  /-- Something has failed. -/
  | warn
  /-- A step of the work. -/
  | info
  /-- What helps to find a fault. -/
  | debug
  /-- Everything else. -/
  | trace
deriving Repr, DecidableEq

namespace LogLevel

/-- The level that a text names. A text that names none stands for steps of the work. -/
def ofText (name : String) : LogLevel :=
  if name = "trace" then .trace
  else if name = "debug" then .debug
  else if name = "info" then .info
  else if name = "warn" then .warn
  else if name = "error" then .error
  else .info

/-- The place of a level, the most important one being the first. -/
def rank : LogLevel → Nat
  | .error => 0
  | .warn => 1
  | .info => 2
  | .debug => 3
  | .trace => 4

/-- Whether records of a level are written for a setting. -/
def admits (setting level : LogLevel) : Bool := level.rank ≤ setting.rank

/-- The name of a level in the log. -/
def name : LogLevel → String
  | .error => "ERROR"
  | .warn => "WARN"
  | .info => "INFO"
  | .debug => "DEBUG"
  | .trace => "TRACE"

end LogLevel

/-- A record in the log. -/
structure LogRecord where
  /-- How important it is. -/
  level : LogLevel
  /-- What it says. -/
  text : String
deriving Repr, DecidableEq

/-- The records that are written for a setting. -/
def LogLevel.written (setting : LogLevel) (records : List LogRecord) : List LogRecord :=
  records.filter fun record => setting.admits record.level

end GraphBrowser
