import ProxyFilter.Host
import ProxyFilter.Proxy.Foreign

/-!
# A scripted proxy

A proxy whose headers, bodies, properties, functions and failures are given in
advance. It replies to every call from them, and hands out tokens for cluster
calls in ascending order.
-/

namespace ProxyFilter

/-- A failure given in advance. -/
structure Failure where
  /-- The kind of call that fails. -/
  kind : CallKind
  /-- The only text about which the call fails, or none for every call. -/
  subject : Option String
  /-- The status it fails with. -/
  status : Status
  deriving DecidableEq, Repr

/-- What a proxy holds for one stream. -/
structure Proxy where
  /-- The headers of the request. -/
  requestHeaders : Headers
  /-- The request body that has arrived. -/
  requestBody : Bytes
  /-- The response body that has arrived. -/
  responseBody : Bytes
  /-- The headers that answered the latest cluster call. -/
  callHeaders : Headers
  /-- The body that answered the latest cluster call. -/
  callBody : Bytes
  /-- Properties by name. -/
  properties : List (String × Bytes)
  /-- Functions by name. -/
  functions : List (String × ForeignFunction)
  /-- Calls that fail. -/
  failures : List Failure

/-- A scripted proxy in a session, where all streams share one row of tokens. -/
structure World where
  /-- What the proxy holds for the stream. -/
  proxy : Proxy
  /-- The token of the next cluster call. -/
  nextToken : UInt32

namespace Proxy

/-- A proxy that holds nothing. -/
def blank : Proxy := ⟨[], [], [], [], [], [], [], []⟩

/-- The status of the first failure of a kind of call about a subject. -/
def failureAbout? (proxy : Proxy) (kind : CallKind) (subject : Option String) :
    Option Status :=
  (proxy.failures.find? fun failure =>
    failure.kind = kind && failure.subject == subject).map (·.status)

/-- The status with which a call fails. A failure about the subject of the call
goes before one of every such call. -/
def failure? (proxy : Proxy) (call : Call) : Option Status :=
  let particular := call.subject?.bind fun subject =>
    proxy.failureAbout? call.kind (some subject)
  particular.or (proxy.failureAbout? call.kind none)

/-- The bytes of a buffered body. -/
def buffered (proxy : Proxy) : Buffer → Bytes
  | .request => proxy.requestBody
  | .response => proxy.responseBody
  | .callResponse => proxy.callBody

/-- The value under a name. -/
def lookup? {α : Type} (entries : List (String × α)) (name : String) : Option α :=
  (entries.find? fun entry => entry.1 == name).map (·.2)

/-- The reply to a call that is not made to fail. -/
def reply : (call : Call) → World → call.Reply × World
  | .requestHeaders, world => (.ok world.proxy.requestHeaders, world)
  | .requestHeader name, world => (.ok (lookup? world.proxy.requestHeaders name), world)
  | .addRequestHeader .., world => (.ok (), world)
  | .addResponseHeader .., world => (.ok (), world)
  | .body buffer start size, world =>
    (.ok ((world.proxy.buffered buffer).window? start size), world)
  | .replaceResponseBody start size value, world =>
    let responseBody := world.proxy.responseBody.splice start size value
    (.ok (), { world with proxy := { world.proxy with responseBody } })
  | .property path, world =>
    (.ok (lookup? world.proxy.properties (Call.propertyKey path)), world)
  | .setTickPeriod _, world => (.ok (), world)
  | .foreignFunction name argument, world =>
    match lookup? world.proxy.functions name with
    | some function => (.ok (function argument), world)
    | none => (.error .notFound, world)
  | .dispatch .., world =>
    (.ok world.nextToken, { world with nextToken := world.nextToken + 1 })
  | .callResponseHeaders, world => (.ok world.proxy.callHeaders, world)
  | .respond .., world => (.ok (), world)
  | .resumeRequest, world => (.ok (), world)

/-- The scripted proxy. A call that is made to fail changes nothing. -/
def host : Host World := fun call world =>
  match world.proxy.failure? call with
  | some status => (.error status, world)
  | none => reply call world

end Proxy

end ProxyFilter
