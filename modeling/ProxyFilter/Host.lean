import ProxyFilter.Bytes

/-!
# Calls to the proxy

What a stream may ask of the proxy that runs it. Every call has a type of
answers, and every call may fail with a status instead.
-/

namespace ProxyFilter

/-- Header names with their values, in order and with duplicates. -/
abbrev Headers := List (String × String)

/-- Why the proxy refuses a call. -/
inductive Status where
  /-- There is no such thing. -/
  | notFound
  /-- An argument is not understood. -/
  | badArgument
  /-- A value could not be written. -/
  | serializationFailure
  /-- A value could not be read. -/
  | parseFailure
  /-- There is nothing to give. -/
  | empty
  /-- A shared value has changed in the meantime. -/
  | casMismatch
  /-- The proxy itself has failed. -/
  | internalFailure
  deriving DecidableEq, Repr

/-- The name of a status in messages. -/
def Status.name : Status → String
  | .notFound => "NotFound"
  | .badArgument => "BadArgument"
  | .serializationFailure => "SerializationFailure"
  | .parseFailure => "ParseFailure"
  | .empty => "Empty"
  | .casMismatch => "CasMismatch"
  | .internalFailure => "InternalFailure"

/-- The bodies that the proxy buffers for a stream. -/
inductive Buffer where
  /-- The body of the request. -/
  | request
  /-- The body of the response. -/
  | response
  /-- The body that answered the latest cluster call. -/
  | callResponse
  deriving DecidableEq, Repr

/-- A call with its arguments. -/
inductive Call where
  /-- Read all headers of the request. -/
  | requestHeaders
  /-- Read the first request header with a name. -/
  | requestHeader (name : String)
  /-- Add a header to the request. -/
  | addRequestHeader (name value : String)
  /-- Add a header to the response. -/
  | addResponseHeader (name value : String)
  /-- Read a window of a buffered body. -/
  | body (buffer : Buffer) (start size : Nat)
  /-- Replace a window of the response body. -/
  | replaceResponseBody (start size : Nat) (value : Bytes)
  /-- Read a property by the parts of its name. -/
  | property (path : List String)
  /-- Set the period of the timer in milliseconds; zero stops it. -/
  | setTickPeriod (milliseconds : Nat)
  /-- Call a function of the proxy. -/
  | foreignFunction (name : String) (argument : Bytes)
  /-- Start a cluster call with headers, body, trailers and a time limit in
  milliseconds. -/
  | dispatch (cluster : String) (headers : Headers) (body : Bytes) (trailers : Headers)
      (timeout : Nat)
  /-- Read the headers that answered the latest cluster call. -/
  | callResponseHeaders
  /-- Answer the request at once. -/
  | respond (status : Nat) (headers : Headers) (body : Bytes)
  /-- Let a held request go on. -/
  | resumeRequest
  deriving DecidableEq, Repr

/-- A call without its arguments. -/
inductive CallKind where
  /-- All headers of the request. -/
  | requestHeaders
  /-- One header of the request. -/
  | requestHeader
  /-- A further header for the request. -/
  | addRequestHeader
  /-- A further header for the response. -/
  | addResponseHeader
  /-- A window of one of the buffered bodies. -/
  | body (buffer : Buffer)
  /-- New bytes for the response body. -/
  | replaceResponseBody
  /-- A property. -/
  | property
  /-- The period of the timer. -/
  | setTickPeriod
  /-- A function of the proxy. -/
  | foreignFunction
  /-- A cluster call. -/
  | dispatch
  /-- The headers that answered a cluster call. -/
  | callResponseHeaders
  /-- An answer to the request. -/
  | respond
  /-- The end of holding a request. -/
  | resumeRequest
  deriving DecidableEq, Repr

namespace Call

/-- The kind of a call. -/
def kind : Call → CallKind
  | .requestHeaders => .requestHeaders
  | .requestHeader .. => .requestHeader
  | .addRequestHeader .. => .addRequestHeader
  | .addResponseHeader .. => .addResponseHeader
  | .body buffer .. => .body buffer
  | .replaceResponseBody .. => .replaceResponseBody
  | .property .. => .property
  | .setTickPeriod .. => .setTickPeriod
  | .foreignFunction .. => .foreignFunction
  | .dispatch .. => .dispatch
  | .callResponseHeaders => .callResponseHeaders
  | .respond .. => .respond
  | .resumeRequest => .resumeRequest

/-- The name of a property, its parts joined by points. -/
def propertyKey (path : List String) : String := ".".intercalate path

/-- The text that a call is about, for the calls whose first argument is one. -/
def subject? : Call → Option String
  | .requestHeader name => some name
  | .addRequestHeader name _ => some name
  | .addResponseHeader name _ => some name
  | .property path => some (propertyKey path)
  | .foreignFunction name _ => some name
  | .dispatch cluster .. => some cluster
  | _ => none

/-- What a call answers when it does not fail. -/
@[reducible] def Answer : Call → Type
  | .requestHeaders => Headers
  | .requestHeader _ => Option String
  | .body .. => Option Bytes
  | .property _ => Option Bytes
  | .foreignFunction .. => Option Bytes
  | .dispatch .. => UInt32
  | .callResponseHeaders => Headers
  | .addRequestHeader .. => Unit
  | .addResponseHeader .. => Unit
  | .replaceResponseBody .. => Unit
  | .setTickPeriod _ => Unit
  | .respond .. => Unit
  | .resumeRequest => Unit

/-- The answer of a call, or the status it fails with. -/
abbrev Reply (call : Call) : Type := Except Status call.Answer

end Call

/-- A proxy: how it replies to each call in each of its states. -/
abbrev Host (σ : Type) := (call : Call) → σ → call.Reply × σ

/-- A proxy that takes a missing body, property or header for none at all. -/
def Host.lenient {σ : Type} (host : Host σ) : Host σ := fun call state =>
  let (reply, next) := host call state
  (soften call reply, next)
where
  /-- The reply without the status that only says that nothing is there. -/
  soften : (call : Call) → call.Reply → call.Reply
    | .body .., .error .notFound => .ok none
    | .property _, .error .notFound => .ok none
    | .requestHeader _, .error .notFound => .ok none
    | _, reply => reply

end ProxyFilter
