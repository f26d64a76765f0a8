/-!
# The load counter

Each load gets a token when it starts, and it may write only while its token is the latest.

## Main definitions

* `LoadCounter` — the token that was given out last
* `LoadCounter.advance`, `LoadCounter.isCurrent` — giving out a token, and looking at one

## Design notes

Tokens are natural numbers that only grow, so that no token is given out twice.
-/

namespace GraphBrowser

/-- The source of tokens. -/
structure LoadCounter where
  /-- The token that was given out last, zero before the first. -/
  latest : Nat := 0
deriving Repr, DecidableEq

namespace LoadCounter

/-- The counter after one more token, which is then the latest. -/
def advance (counter : LoadCounter) : LoadCounter := ⟨counter.latest + 1⟩

@[simp] theorem latest_advance (counter : LoadCounter) :
    counter.advance.latest = counter.latest + 1 := rfl

/-- Whether the token is the latest. -/
def isCurrent (counter : LoadCounter) (token : Nat) : Bool := counter.latest == token

end LoadCounter

end GraphBrowser
