/-!
# The states of an exchange

A browse goes from idle over the sent request to collecting and ends completed
or failed. A lookup awaits its one answer instead, and passes through timed out
to failed when none comes.
-/

namespace SqlResolution

/-- How far an exchange has come. -/
inductive State where
  | idle
  | requestSent
  | collecting
  | awaitingOne
  | completed
  | timedOut
  | failed
  deriving DecidableEq, Repr

namespace State

def label : State → String
  | idle => "IDLE"
  | requestSent => "REQUEST_SENT"
  | collecting => "COLLECTING"
  | awaitingOne => "AWAITING_ONE"
  | completed => "COMPLETED"
  | timedOut => "TIMED_OUT"
  | failed => "FAILED"

/-- Nothing more happens in this state. -/
def isTerminal (state : State) : Bool :=
  state = completed || state = failed

end State

end SqlResolution
