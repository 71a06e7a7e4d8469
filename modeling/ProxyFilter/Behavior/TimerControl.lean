import ProxyFilter.Behavior.Phase
import ProxyFilter.Counters
import ProxyFilter.Property

/-!
# Switching and reading the timer

Three request paths start the timer of the plugin, stop it, and report how often
it has fired. The whole path must match.
-/

namespace ProxyFilter

/-- What a control path asks for. -/
inductive TimerAction where
  /-- Start the timer. -/
  | enable
  /-- Stop the timer. -/
  | disable
  /-- Report the number of firings. -/
  | get
  deriving DecidableEq, Repr

/-- The action of a path, for the three control paths only. -/
def TimerAction.ofPath? (path : String) : Option TimerAction :=
  if path = "/tickTests/enable" then some .enable
  else if path = "/tickTests/disable" then some .disable
  else if path = "/tickTests/get" then some .get
  else none

namespace TimerControl

open Dialogue

/-- The period of the started timer in milliseconds. -/
def period : Nat := 100

/-- Set the period and answer. A period that is refused leaves the request to go
on. -/
def setPeriod (id : UInt32) (milliseconds : Nat) : Dialogue Outcome := do
  let reply : Except Status Unit ← call (.setTickPeriod milliseconds)
  match reply with
  | .error status =>
    sayFailed id (.setTickPeriod milliseconds) status
    return .proceed
  | .ok () => respond id (Text.Utf8.encode ['o', 'k'])

/-- Do what the path of the request asks for. -/
def onRequestHeaders (id : UInt32) (counters : Counters) : Dialogue Outcome := do
  match ← Property.requestPath with
  | .error status =>
    sayFailed id .readPath status
    return .proceed
  | .ok path =>
    match TimerAction.ofPath? path with
    | some .enable =>
      say id (.enablingTimer period)
      setPeriod id period
    | some .disable =>
      say id .disablingTimer
      setPeriod id 0
    | some .get => respond id (Bytes.ofNat counters.ticks)
    | none => return .proceed

end TimerControl

end ProxyFilter
