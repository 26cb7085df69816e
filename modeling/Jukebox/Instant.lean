/-!
The steady clock, which only moves forward and knows no calendar.
-/

namespace Jukebox

/-- A reading of the steady clock. -/
structure Instant where
  /-- The milliseconds since the clock was started. -/
  millis : Nat
deriving DecidableEq, Repr, Inhabited

namespace Instant

/-- The clock counts whole seconds in a signed word of 64 bits. -/
def secondsLimit : Nat :=
  0x8000000000000000

/-- The reading after some milliseconds. -/
def advance (t : Instant) (millis : Nat) : Instant :=
  ⟨t.millis + millis⟩

/-- The reading after some seconds, if the clock can show it. -/
def addSeconds? (t : Instant) (seconds : Nat) : Option Instant :=
  let later := t.advance (1000 * seconds)
  if later.millis / 1000 < secondsLimit then some later else none

/-- The milliseconds from `start` until `t`, none if `t` is earlier. -/
def since (t start : Instant) : Nat :=
  t.millis - start.millis

/-- The reading `t` is earlier than `u`. -/
def isBefore (t u : Instant) : Bool :=
  t.millis < u.millis

end Instant
end Jukebox
