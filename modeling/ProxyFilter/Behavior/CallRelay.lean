import ProxyFilter.Behavior.Phase
import ProxyFilter.Config
import ProxyFilter.Property

/-!
# Answering with the response of a cluster call

The whole request is sent to the configured cluster, and the stream is answered
with the headers and the body that come back.
-/

namespace ProxyFilter

/-- A stream that is sent to a cluster. -/
structure CallRelay where
  /-- The cluster of the call. -/
  cluster : String
  /-- The path of the call. -/
  path : String
  /-- The headers of the call, taken when the request headers arrive. -/
  headers : Headers
  deriving DecidableEq, Repr

namespace CallRelay

open Dialogue

/-- The time limit of a call in milliseconds. -/
def timeout : Nat := 5000

/-- The request headers that a call sets anew. -/
def pseudoHeaders : List String := [":method", ":authority", ":path"]

/-- A stream whose request headers have not arrived. -/
def new (config : Config) : CallRelay := ⟨config.cluster, config.path, []⟩

/-- A property of the request, empty when it cannot be read. -/
def property (id : UInt32) (path : List String) : Dialogue String := do
  match ← Property.text path with
  | .ok text => return text
  | .error status =>
    sayFailed id (.readProperty path) status
    return ""

/-- Take the headers of the call: those of the request, but with the method and
authority that the proxy reports and the configured path at the end. -/
def onRequestHeaders (id : UInt32) (self : CallRelay) : Dialogue CallRelay := do
  let reply : Except Status Headers ← call .requestHeaders
  let inbound ← match reply with
    | .ok headers => pure headers
    | .error status => do
      sayFailed id .readRequestHeaders status
      pure []
  let kept := inbound.filter fun header => !pseudoHeaders.contains header.1
  let method ← property id ["request", "method"]
  let authority ← property id ["request", "host"]
  let headers :=
    kept ++ [(":method", method), (":authority", authority), (":path", self.path)]
  return { self with headers }

/-- Make the call once the whole request body has arrived. -/
def onRequestBody (id : UInt32) (self : CallRelay) (size : Nat) (isLast : Bool) :
    Dialogue Outcome := do
  if !isLast then return .awaitBody
  match ← readBody .request size with
  | .error status =>
    sayFailed id .readRequestBody status
    return .finished
  | .ok body =>
    say id (.dispatching self.cluster body.length)
    let reply : Except Status UInt32 ←
      call (.dispatch self.cluster self.headers body [] timeout)
    match reply with
    | .ok token => return .awaitCall token
    | .error status =>
      sayFailed id .dispatch status
      return .finished

/-- Whether a header of the cluster response is passed on. -/
def isRelayed (name : String) : Bool := name.toList.head? != some ':'

/-- Answer with what came back. What cannot be read is left out, and a request
that cannot be answered goes on. -/
def onCompletion (id : UInt32) (self : CallRelay) (headers bodySize : Nat) :
    Dialogue Unit := do
  if headers = 0 then say id (.callFailed self.cluster)
  let reply : Except Status Headers ← call .callResponseHeaders
  let received ← match reply with
    | .ok headers => pure headers
    | .error status => do
      sayFailed id .readResponseHeaders status
      pure []
  let body ← match ← readBody .callResponse bodySize with
    | .ok body => pure body
    | .error status => do
      sayFailed id .readResponseBody status
      pure []
  let relayed := received.filter fun header => isRelayed header.1
  let reply : Except Status Unit ← call (.respond 200 relayed body)
  if let .error status := reply then
    sayFailed id .respond status
    let reply : Except Status Unit ← call .resumeRequest
    if let .error status := reply then sayFailed id .resumeRequest status

end CallRelay

end ProxyFilter
