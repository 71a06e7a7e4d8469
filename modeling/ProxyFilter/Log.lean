import ProxyFilter.Config
import ProxyFilter.Host
import ProxyFilter.Stream.State

/-!
# Log records

A record says who speaks and what is noticed. Its severity and its wording
follow from that.
-/

namespace ProxyFilter

/-- The severity of a record. -/
inductive Level where
  /-- Every single step. -/
  | trace
  /-- What helps to find a mistake. -/
  | debug
  /-- What is worth knowing. -/
  | info
  /-- What should not happen. -/
  | warn
  /-- What went wrong. -/
  | error
  deriving DecidableEq, Repr

/-- The order of severity, the least severe level first. -/
def Level.rank : Level → Nat
  | .trace => 0
  | .debug => 1
  | .info => 2
  | .warn => 3
  | .error => 4

/-- What a stream was about to do when a call failed. -/
inductive Task where
  /-- Add the number to the request. -/
  | stampRequest
  /-- Add the number to the response. -/
  | stampResponse
  /-- Read the path of the request. -/
  | readPath
  /-- Start or stop the timer. -/
  | setTickPeriod (milliseconds : Nat)
  /-- Answer the request at once. -/
  | respond
  /-- Let the held request go on. -/
  | resumeRequest
  /-- Read the headers of the request. -/
  | readRequestHeaders
  /-- Read a property. -/
  | readProperty (path : List String)
  /-- Read the body of the request. -/
  | readRequestBody
  /-- Read the body of the response, or that of a cluster response. -/
  | readResponseBody
  /-- Read the headers of a cluster response. -/
  | readResponseHeaders
  /-- Start a cluster call. -/
  | dispatch
  /-- Call a function of the proxy. -/
  | callForeign (name : String)
  /-- Replace the body of the response. -/
  | replaceResponse
  deriving DecidableEq, Repr

/-- A time span in milliseconds. No time at all is counted in nanoseconds. -/
def spanText (milliseconds : Nat) : String :=
  if milliseconds = 0 then "0ns" else toString milliseconds ++ "ms"

/-- The wording of a task. -/
def Task.text : Task → String
  | .stampRequest => "set request counter header"
  | .stampResponse => "set response counter header"
  | .readPath => "get :path"
  | .setTickPeriod milliseconds => "set tick period to " ++ spanText milliseconds
  | .respond => "send local response"
  | .resumeRequest => "resume request"
  | .readRequestHeaders => "get request headers"
  | .readProperty path => "get property " ++ Call.propertyKey path
  | .readRequestBody => "get request body"
  | .readResponseBody => "get response body"
  | .readResponseHeaders => "get response headers"
  | .dispatch => "dispatch http call"
  | .callForeign name => "call FFI " ++ name
  | .replaceResponse => "replace the response"

/-- What is noticed. -/
inductive Notice where
  /-- The binding is about to read its configuration. -/
  | loadingConfig
  /-- The configuration could not be read. -/
  | unreadConfig (status : Status)
  /-- There is no configuration. -/
  | noConfig
  /-- A configuration picked a behavior. -/
  | usingKind (kind : BehaviorKind)
  /-- A configuration was refused. -/
  | refusedConfig (error : ConfigError)
  /-- A call completed for which the stream does not wait. -/
  | strayCompletion (token : UInt32) (state : StreamState)
  /-- The awaited call completed. -/
  | callCompleted (token : UInt32) (headers bodySize : Nat)
  /-- A call to the proxy failed. -/
  | failed (task : Task) (status : Status)
  /-- A response came before its request. -/
  | responseBeforeRequest
  /-- The timer is about to be started. -/
  | enablingTimer (milliseconds : Nat)
  /-- The timer is about to be stopped. -/
  | disablingTimer
  /-- A cluster call is about to be made. -/
  | dispatching (cluster : String) (bodySize : Nat)
  /-- A cluster call came back without any header. -/
  | callFailed (cluster : String)
  /-- A foreign function is about to be called. -/
  | callingForeign (name : String)
  /-- A stream is over. -/
  | streamFinished (kind : BehaviorKind) (state : StreamState)
  deriving Repr

namespace Notice

/-- The severity of a notice. -/
def level : Notice → Level
  | .loadingConfig => .debug
  | .unreadConfig _ => .error
  | .noConfig => .info
  | .usingKind _ => .debug
  | .refusedConfig _ => .error
  | .strayCompletion .. => .warn
  | .callCompleted .. => .debug
  | .failed .. => .error
  | .responseBeforeRequest => .warn
  | .enablingTimer _ => .info
  | .disablingTimer => .info
  | .dispatching .. => .debug
  | .callFailed _ => .error
  | .callingForeign _ => .info
  | .streamFinished .. => .debug

/-- The wording of a notice. -/
def text : Notice → String
  | .loadingConfig => "loading plugin config"
  | .unreadConfig status => "error reading plugin configuration: " ++ status.name
  | .noConfig => "no plugin configuration, no handler selected"
  | .usingKind kind => "using handlerType: " ++ kind.name
  | .refusedConfig error => error.message
  | .strayCompletion token state =>
    "ignoring completion of call " ++ toString token.toNat ++ " in state " ++ state.text
  | .callCompleted token headers bodySize =>
    "call " ++ toString token.toNat ++ " completed: " ++ toString headers ++ " headers, " ++
      toString bodySize ++ " body bytes"
  | .failed task status => "failed to " ++ task.text ++ ": " ++ status.name
  | .responseBeforeRequest => "response headers before request headers"
  | .enablingTimer milliseconds => "enabling tick every " ++ spanText milliseconds
  | .disablingTimer => "disabling tick"
  | .dispatching cluster bodySize =>
    "dispatching http call to " ++ cluster ++ " (" ++ toString bodySize ++ " body bytes)"
  | .callFailed cluster => "http call to " ++ cluster ++ " failed or timed out"
  | .callingForeign name => "calling ffi: " ++ name
  | .streamFinished kind state =>
    kind.name ++ " stream finished in state " ++ state.text

end Notice

/-- A notice of a stream, or of the plugin as a whole. -/
structure Record where
  /-- The stream that speaks, if it is one. -/
  stream : Option UInt32
  /-- What it says. -/
  notice : Notice
  deriving Repr

namespace Record

/-- The severity of a record. -/
def level (record : Record) : Level := record.notice.level

/-- The line that a record writes. -/
def message (record : Record) : String :=
  let speaker := match record.stream with
    | none => ""
    | some id => ":" ++ toString id.toNat
  "[unit-tester" ++ speaker ++ "] " ++ record.notice.text

/-- The records that are at least as severe as a threshold. Without a threshold
nothing is recorded. -/
def kept (threshold : Option Level) (records : List Record) : List Record :=
  match threshold with
  | none => []
  | some least => records.filter fun record => least.rank ≤ record.level.rank

end Record

end ProxyFilter
