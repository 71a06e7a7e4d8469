import ProxyFilter.Dialogue

/-!
# Phases of a stream and what they come to

The proxy delivers the parts of a request and of its response as phases. A
behavior reacts to each with an outcome. Reading a whole body and answering at
once are shared by several behaviors.
-/

namespace ProxyFilter

/-- A part of a request or response that has arrived. -/
inductive Phase where
  /-- The headers of the request. -/
  | requestHeaders
  /-- More of the request body: the size buffered so far, and whether it is the
  end. -/
  | requestBody (size : Nat) (isLast : Bool)
  /-- The headers of the response. -/
  | responseHeaders
  /-- More of the response body: the size buffered so far, and whether it is the
  end. -/
  | responseBody (size : Nat) (isLast : Bool)
  deriving DecidableEq, Repr

/-- What a completed cluster call reports. -/
structure Completion where
  /-- The token of the call. -/
  token : UInt32
  /-- The number of response headers, zero for a call that failed. -/
  headers : Nat
  /-- The size of the response body. -/
  bodySize : Nat
  /-- The number of response trailers. -/
  trailers : Nat
  deriving DecidableEq, Repr

/-- What a phase came to, and so where the stream goes next. -/
inductive Outcome where
  /-- There is nothing to wait for. -/
  | proceed
  /-- The body is incomplete. -/
  | awaitBody
  /-- A cluster call is on its way under a token. -/
  | awaitCall (token : UInt32)
  /-- The request has been answered at once. -/
  | responded
  /-- The behavior has no more to do. -/
  | finished
  deriving DecidableEq, Repr

namespace Dialogue

/-- Report a call that failed. -/
def sayFailed (id : UInt32) (task : Task) (status : Status) : Dialogue Unit :=
  say id (.failed task status)

/-- The reported size of a buffered body from its start. A body of size zero is
empty without a question. -/
def readBody (buffer : Buffer) (size : Nat) : Dialogue (Except Status Bytes) := do
  if size = 0 then return .ok []
  let reply : Except Status (Option Bytes) ← call (.body buffer 0 size)
  return reply.map fun body => body.getD []

/-- Answer at once with status 200, no headers and a body. An answer that cannot
be sent leaves nothing to wait for. -/
def respond (id : UInt32) (body : Bytes) : Dialogue Outcome := do
  let reply : Except Status Unit ← call (.respond 200 [] body)
  match reply with
  | .ok () => return .responded
  | .error status =>
    sayFailed id .respond status
    return .finished

end Dialogue

end ProxyFilter
