import SqlResolution.Number.Shortest

/-!
# Time

The clock shows seconds in double precision. Every finite number of that precision
is a whole multiple of the smallest one above zero, and so instants and lengths of
time are counted in these ticks, of which a second has 2^1074.

What is added or subtracted is rounded as such numbers are, to 53 binary digits. So
0.1 s after 0.7 s it is not yet 0.8 s, and a time that is over then is not over. But
the order of instants is that of whole numbers.

No clock is that fine. Who waits for an instant does not wait for its last
nanosecond, and so what is to happen less than a nanosecond from now is due now.

A timeout is a number of seconds; messages show it as it was asked for.
-/

namespace SqlResolution

open SqlResolution.Number

/-- A point in time, in ticks since the beginning. -/
abbrev Instant := Int

/-- A length of time, in ticks. -/
abbrev Span := Int

/-- Ticks in a second. -/
def Span.second : Nat := Nat.pow 2 1074

def secondsOfMillis (ms : Int) : Binary64 :=
  .ofRatio (ms < 0) ms.natAbs 1000

/-- So many milliseconds, which must be few enough to be a finite number of seconds. -/
def Span.ofMillis (ms : Int) : Span :=
  (secondsOfMillis ms).units?.getD 0

/-- What the clock can tell apart: a nanosecond. -/
def Span.resolution : Span :=
  (Binary64.ofRatio false 1 1000000000).units?.getD 0

namespace Instant

/-- The instant a length of time after another. -/
def after (t : Instant) (length : Span) : Instant :=
  Binary64.nearestUnits (t + length)

/-- The length of time since an earlier instant. -/
def since (t earlier : Instant) : Span :=
  Binary64.nearestUnits (t - earlier)

/-- It is not worth waiting for an instant: it has come, or will within the resolution of the
clock. -/
def isDue (time now : Instant) : Bool :=
  time ≤ now || time < now.after Span.resolution

/-- An instant in whole milliseconds, a half going to the even one. -/
def toMillis (t : Instant) : Int :=
  roundDivInt (Binary64.nearestUnits (t * 1000)) Span.second

end Instant

/-- How long to wait at most, in seconds. -/
structure Timeout where
  seconds : Binary64
  deriving DecidableEq, Repr

namespace Timeout

def ofMillis (ms : Int) : Timeout :=
  ⟨secondsOfMillis ms⟩

/-- How long a lookup waits for its answer unless told otherwise. -/
def defaultResponse : Timeout := ⟨.ofRatio false 1 1⟩

/-- How long a browse waits for the next answer unless told otherwise. -/
def defaultInactivity : Timeout := ⟨.ofRatio false 1 1⟩

/-- How long a browse lasts at most unless told otherwise. -/
def defaultTotal : Timeout := ⟨.ofRatio false 5 1⟩

def text (timeout : Timeout) : String :=
  timeout.seconds.text

/-- The length of a timeout, if it has one. One that is infinitely below zero is over at once; one
that is infinite, or no number, is over at no instant. -/
def length (timeout : Timeout) : Option Span :=
  match timeout.seconds with
  | .infinite true => some 0
  | seconds => seconds.units?

/-- The instant at which a wait that begins now is over, if there is one. -/
def deadline (timeout : Timeout) (now : Instant) : Option Instant :=
  timeout.length.map now.after

/-- The length of a wait that is over with the timeout or with what remains of another, if that is
sooner. What is no number is neither sooner nor later than anything. As a timeout it is taken all
the same, whatever remains of the other; such a wait is over at no instant of its own, but once
nothing is to come any more. -/
def within (timeout : Timeout) (remaining : Option Span) : Option Span :=
  match timeout.seconds, timeout.length, remaining with
  | .notANumber, _, _ => none
  | _, some length, some remaining => some (min length remaining)
  | _, some length, none => some length
  | _, none, remaining => remaining

end Timeout

end SqlResolution
