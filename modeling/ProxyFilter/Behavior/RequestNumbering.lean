import ProxyFilter.Behavior.Phase
import ProxyFilter.Counters

/-!
# Numbering requests in headers

The first request headers of a stream take a number from the counters of the
plugin. The stream keeps it and stamps the request and its response with it.
-/

namespace ProxyFilter

/-- A stream that is numbered. -/
structure RequestNumbering where
  /-- The number of the stream, once it has one. -/
  number : Option Nat
  deriving DecidableEq, Repr

namespace RequestNumbering

open Dialogue

/-- The header that numbers a request. -/
def requestHeader : String := "x-request-counter"

/-- The header that numbers a response. -/
def responseHeader : String := "x-response-counter"

/-- A stream without a number. -/
def new : RequestNumbering := ⟨none⟩

/-- The number of a stream, taken from the counters if it has none yet. -/
def take (self : RequestNumbering) (counters : Counters) : Nat × Counters :=
  match self.number with
  | some number => (number, counters)
  | none => counters.nextRequest

/-- Number the request. -/
def onRequestHeaders (id : UInt32) (self : RequestNumbering) (counters : Counters) :
    Dialogue (Outcome × RequestNumbering × Counters) := do
  let (number, counters) := self.take counters
  let reply : Except Status Unit ← call (.addRequestHeader requestHeader (toString number))
  if let .error status := reply then sayFailed id .stampRequest status
  return (.proceed, ⟨some number⟩, counters)

/-- Number the response, and be finished. A response before its request stays
as it is. -/
def onResponseHeaders (id : UInt32) (self : RequestNumbering) : Dialogue Outcome := do
  match self.number with
  | none =>
    say id .responseBeforeRequest
    return .finished
  | some number =>
    let reply : Except Status Unit ←
      call (.addResponseHeader responseHeader (toString number))
    if let .error status := reply then sayFailed id .stampResponse status
    return .finished

end RequestNumbering

end ProxyFilter
