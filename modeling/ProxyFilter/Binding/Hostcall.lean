import ProxyFilter.Host

/-!
# The hostcalls of the binding

The binding reaches the proxy through an SDK, which makes a hostcall of every question and a
value of every answer. The SDK is a parameter: of each call of a stream the binding only picks
the hostcall and its arguments.
-/

namespace ProxyFilter.Binding

/-- The maps of headers that a hostcall may name. -/
inductive MapType where
  /-- The headers of the request. -/
  | httpRequestHeaders
  /-- The headers of the response. -/
  | httpResponseHeaders
  /-- The headers that answered the latest cluster call. -/
  | httpCallResponseHeaders
  deriving DecidableEq, Repr

/-- The buffers that a hostcall may name. -/
inductive BufferType where
  /-- The body of the request. -/
  | httpRequestBody
  /-- The body of the response. -/
  | httpResponseBody
  /-- The body that answered the latest cluster call. -/
  | httpCallResponseBody
  /-- The configuration of the plugin. -/
  | pluginConfiguration
  deriving DecidableEq, Repr

/-- A hostcall with its arguments. -/
inductive Hostcall where
  /-- Read a whole map. -/
  | getMap (map : MapType)
  /-- Read the first value under a name. -/
  | getMapValue (map : MapType) (name : String)
  /-- Add a value under a name. -/
  | addMapValue (map : MapType) (name value : String)
  /-- Read a window of a buffer. -/
  | getBuffer (buffer : BufferType) (start size : Nat)
  /-- Replace a window of a buffer. -/
  | setBuffer (buffer : BufferType) (start size : Nat) (value : Bytes)
  /-- Read a property by the parts of its name. -/
  | getProperty (path : List String)
  /-- Set the period of the timer in milliseconds. -/
  | setTickPeriod (milliseconds : Nat)
  /-- Call a function of the proxy. -/
  | callForeignFunction (name : String) (argument : Option Bytes)
  /-- Start a cluster call with headers, body, trailers and a time limit in
  milliseconds. -/
  | dispatchHttpCall (cluster : String) (headers : Headers) (body : Option Bytes)
      (trailers : Headers) (timeout : Nat)
  /-- Answer the request at once. -/
  | sendHttpResponse (status : Nat) (headers : Headers) (body : Option Bytes)
  /-- Let a held request go on. -/
  | resumeHttpRequest
  deriving DecidableEq, Repr

namespace Hostcall

/-- What a hostcall answers when it does not fail. -/
@[reducible] def Answer : Hostcall → Type
  | .getMap _ => Headers
  | .getMapValue .. => Option String
  | .addMapValue .. => Unit
  | .getBuffer .. => Option Bytes
  | .setBuffer .. => Unit
  | .getProperty _ => Option Bytes
  | .setTickPeriod _ => Unit
  | .callForeignFunction .. => Option Bytes
  | .dispatchHttpCall .. => UInt32
  | .sendHttpResponse .. => Unit
  | .resumeHttpRequest => Unit

/-- The answer of a hostcall, or the status it fails with. -/
abbrev Reply (hostcall : Hostcall) : Type := Except Status hostcall.Answer

/-- The hostcall that reads the whole configuration of a plugin. Its size is the largest that
an address can tell. -/
@[reducible] def configuration : Hostcall := .getBuffer .pluginConfiguration 0 (UInt32.size - 1)

end Hostcall

/-- An SDK: how it replies to each hostcall in each state of the proxy behind it. -/
abbrev Sdk (σ : Type) := (hostcall : Hostcall) → σ → hostcall.Reply × σ

variable {σ : Type}

namespace Sdk

/-- The proxy that the binding shows to its streams: every call is one hostcall. -/
def proxyHost (sdk : Sdk σ) : Host σ
  | .requestHeaders => sdk (.getMap .httpRequestHeaders)
  | .requestHeader name => sdk (.getMapValue .httpRequestHeaders name)
  | .addRequestHeader name value => sdk (.addMapValue .httpRequestHeaders name value)
  | .addResponseHeader name value => sdk (.addMapValue .httpResponseHeaders name value)
  | .body .request start size => sdk (.getBuffer .httpRequestBody start size)
  | .body .response start size => sdk (.getBuffer .httpResponseBody start size)
  | .body .callResponse start size => sdk (.getBuffer .httpCallResponseBody start size)
  | .replaceResponseBody start size value =>
    sdk (.setBuffer .httpResponseBody start size value)
  | .property path => sdk (.getProperty path)
  | .setTickPeriod milliseconds => sdk (.setTickPeriod milliseconds)
  | .foreignFunction name argument => sdk (.callForeignFunction name (some argument))
  | .dispatch cluster headers body trailers timeout =>
    sdk (.dispatchHttpCall cluster headers (some body) trailers timeout)
  | .callResponseHeaders => sdk (.getMap .httpCallResponseHeaders)
  | .respond status headers body => sdk (.sendHttpResponse status headers (some body))
  | .resumeRequest => sdk .resumeHttpRequest

/-- A reply that takes what is not found for nothing. -/
def orNothing {α : Type} : Except Status (Option α) → Except Status (Option α)
  | .error .notFound => .ok none
  | reply => reply

/-- Hand a question for something that may be missing on to a proxy. -/
def readMaybe {α : Type} (read : σ → Except Status (Option α) × σ) (state : σ) :
    Except Status (Option α) × σ :=
  let (reply, next) := read state
  (orNothing reply, next)

/-- Refuse a hostcall about something that the proxy does not have. -/
def refuse {α : Type} (state : σ) : Except Status α × σ := (.error .badArgument, state)

/-- The SDK before a proxy. It hands each hostcall on as the call that means the same. What may be
missing is read as nothing where the proxy does not find it. -/
def before (host : Host σ) : Sdk σ
  | .getMap .httpRequestHeaders => host .requestHeaders
  | .getMap .httpCallResponseHeaders => host .callResponseHeaders
  | .getMap .httpResponseHeaders => refuse
  | .getMapValue .httpRequestHeaders name => readMaybe (host (.requestHeader name))
  | .getMapValue .. => refuse
  | .addMapValue .httpRequestHeaders name value => host (.addRequestHeader name value)
  | .addMapValue .httpResponseHeaders name value => host (.addResponseHeader name value)
  | .addMapValue .. => refuse
  | .getBuffer .httpRequestBody start size => readMaybe (host (.body .request start size))
  | .getBuffer .httpResponseBody start size => readMaybe (host (.body .response start size))
  | .getBuffer .httpCallResponseBody start size =>
    readMaybe (host (.body .callResponse start size))
  | .getBuffer .pluginConfiguration .. => refuse
  | .setBuffer .httpResponseBody start size value => host (.replaceResponseBody start size value)
  | .setBuffer .. => refuse
  | .getProperty path => readMaybe (host (.property path))
  | .setTickPeriod milliseconds => host (.setTickPeriod milliseconds)
  | .callForeignFunction name argument => host (.foreignFunction name (argument.getD []))
  | .dispatchHttpCall cluster headers body trailers timeout =>
    host (.dispatch cluster headers (body.getD []) trailers timeout)
  | .sendHttpResponse status headers body => host (.respond status headers (body.getD []))
  | .resumeHttpRequest => host .resumeRequest

end Sdk

end ProxyFilter.Binding
