import ProxyFilter.Behavior

/-!
# Streams

A stream is a behavior behind a gate. The gate lets a phase through unless the
stream waits for a cluster call or is finished, and lets a completion through
only when the stream waits for it. The outcome of what is let through decides
the next state.
-/

namespace ProxyFilter

/-- What the proxy does with a stream after a phase. -/
inductive Action where
  /-- Let the stream go on. -/
  | proceed
  /-- Hold the stream. -/
  | pause
  deriving DecidableEq, Repr

/-- The state that an outcome leads to. -/
def Outcome.state : Outcome → StreamState
  | .proceed => .running
  | .awaitBody => .awaitingBody
  | .awaitCall token => .awaitingCall token
  | .responded => .completed
  | .finished => .completed

/-- What the proxy is told after an outcome. -/
def Outcome.action : Outcome → Action
  | .proceed => .proceed
  | .awaitBody => .pause
  | .awaitCall _ => .pause
  | .responded => .pause
  | .finished => .proceed

/-- What the proxy is told at once in a state that lets no phase through. -/
def StreamState.gate? : StreamState → Option Action
  | .running => none
  | .awaitingBody => none
  | .awaitingCall _ => some .pause
  | .completed => some .proceed

/-- A state that waits for nothing, or only for more of a body, lets every phase through. -/
theorem StreamState.gate?_eq_none {state : StreamState}
    (h : state = .running ∨ state = .awaitingBody) : state.gate? = none := by
  rcases h with rfl | rfl <;> rfl

/-- One stream. -/
structure Stream where
  /-- The number by which the proxy knows the stream. -/
  id : UInt32
  /-- What the stream does. -/
  behavior : Behavior
  /-- Where the stream stands. -/
  state : StreamState
  deriving DecidableEq, Repr

namespace Stream

/-- A stream before its first event. -/
def new (id : UInt32) (behavior : Behavior) : Stream := ⟨id, behavior, .running⟩

/-- Deliver a phase. -/
def onPhase (stream : Stream) (counters : Counters) (phase : Phase) :
    Dialogue (Action × Stream × Counters) := do
  match stream.state.gate? with
  | some action => return (action, stream, counters)
  | none =>
    let reaction ← stream.behavior.onPhase stream.id counters phase
    let next :=
      { stream with behavior := reaction.behavior, state := reaction.outcome.state }
    return (reaction.outcome.action, next, reaction.counters)

/-- Deliver the completion of a cluster call. Only the one that the stream
waits for is let through, and it finishes the stream. -/
def onCompletion (stream : Stream) (completion : Completion) : Dialogue Stream := do
  if stream.state = .awaitingCall completion.token then
    Dialogue.say stream.id
      (.callCompleted completion.token completion.headers completion.bodySize)
    stream.behavior.onCompletion stream.id completion
    return { stream with state := .completed }
  else
    Dialogue.say stream.id (.strayCompletion completion.token stream.state)
    return stream

end Stream

end ProxyFilter
