import GraphBrowser.Failure
import GraphBrowser.Json.Value

/-!
# Alerts

Failures that the reader is told about wait in a queue until the page is shown next.

## Main definitions

* `Alert` — the wording of a failure and the resource that it is about
* `AlertQueue` — the alerts that are waiting, the oldest first
* `AlertQueue.add`, `AlertQueue.takeAll` — adding a failure, and taking everything out
-/

namespace GraphBrowser

/-- A failure as the reader is told about it. -/
structure Alert where
  /-- The wording. -/
  message : String
  /-- The resource that the failure is about, if it is about one. -/
  url : Option String
deriving Repr, DecidableEq

/-- The alert for a failure. -/
def Alert.ofFailure (failure : Failure) : Alert := ⟨failure.message, failure.url?⟩

/-- The alert in a report. -/
def Alert.toJson (alert : Alert) : Json :=
  .object [("message", .string alert.message), ("url", .ofOption .string alert.url)]

/-- The alerts that are waiting to be shown. -/
structure AlertQueue where
  /-- The alerts, the oldest first. -/
  pending : List Alert := []
deriving Repr, DecidableEq

namespace AlertQueue

/-- The queue with one more failure at its end. -/
def add (queue : AlertQueue) (failure : Failure) : AlertQueue :=
  ⟨queue.pending ++ [.ofFailure failure]⟩

@[simp] theorem pending_add (queue : AlertQueue) (failure : Failure) :
    (queue.add failure).pending = queue.pending ++ [Alert.ofFailure failure] := rfl

/-- All alerts, and the queue without them. -/
def takeAll (queue : AlertQueue) : List Alert × AlertQueue := (queue.pending, ⟨[]⟩)

/-- The number of alerts. -/
def size (queue : AlertQueue) : Nat := queue.pending.length

/-- Whether no alert is waiting. -/
def isEmpty (queue : AlertQueue) : Bool := queue.pending.isEmpty

end AlertQueue

end GraphBrowser
