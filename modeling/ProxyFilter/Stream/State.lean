/-!
# States of a stream

A stream runs, or is held for the rest of a body or for a cluster call, or is
finished.
-/

namespace ProxyFilter

/-- Where a stream stands between two events. -/
inductive StreamState where
  /-- Nothing holds the stream. -/
  | running
  /-- Held until more of a body has arrived. -/
  | awaitingBody
  /-- Held until the cluster call with this token completes. -/
  | awaitingCall (token : UInt32)
  /-- Finished; later events are ignored. -/
  | completed
  deriving DecidableEq, Repr

/-- The wording of a state in messages. -/
def StreamState.text : StreamState → String
  | .running => "Running"
  | .awaitingBody => "PausedAwaitingBody"
  | .awaitingCall token =>
    "PausedAwaitingUpstream \x7b token: " ++ toString token.toNat ++ " \x7d"
  | .completed => "Completed"

end ProxyFilter
