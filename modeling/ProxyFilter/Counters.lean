/-!
# Counters of a plugin

Every stream of one plugin sees the same two counters.
-/

namespace ProxyFilter

/-- The numbers shared by the streams of one plugin. -/
structure Counters where
  /-- How many requests have taken a number. -/
  requests : Nat
  /-- How often the timer has fired. -/
  ticks : Nat
  deriving DecidableEq, Repr

namespace Counters

/-- The counters of a new plugin. -/
def zero : Counters := ⟨0, 0⟩

/-- Take the next request number, counted from one. -/
def nextRequest (counters : Counters) : Nat × Counters :=
  (counters.requests + 1, { counters with requests := counters.requests + 1 })

/-- Record one firing of the timer. -/
def tick (counters : Counters) : Counters := { counters with ticks := counters.ticks + 1 }

/-- The counters behind any number of firings of the timer. -/
def tickTimes (counters : Counters) (times : Nat) : Counters :=
  { counters with ticks := counters.ticks + times }

/-- One more firing of the timer. -/
theorem tick_tickTimes (counters : Counters) (times : Nat) :
    (counters.tickTimes times).tick = counters.tickTimes (times + 1) := rfl

end Counters

end ProxyFilter
