/-!
# The clock

A clock that is read by hand: each reading gives the time in milliseconds and moves the clock on.
-/

namespace Scaffold

/-- The time of the next reading, and how far each reading moves the clock on. -/
structure Clock where
  now : Int
  step : Int
  deriving DecidableEq, Repr

/-- The time, and the clock after the reading. -/
def Clock.read (c : Clock) : Int × Clock := (c.now, { c with now := c.now + c.step })

end Scaffold
