import ProxyFilter.Behavior.Phase
import ProxyFilter.Proxy

/-!
# Steps of a session

A session is a row of steps on plugins and streams, which are named by numbers.
A step may bring new contents for the proxy, and an event first arrives at the
proxy and is then delivered to its stream.
-/

namespace ProxyFilter

/-- New contents for a proxy. What is not given stays as it is. -/
structure Script where
  /-- The headers of the request. -/
  requestHeaders : Option Headers
  /-- The buffered request body. -/
  requestBody : Option Bytes
  /-- The buffered response body. -/
  responseBody : Option Bytes
  /-- Properties by name. -/
  properties : Option (List (String × Bytes))
  /-- Functions by name. -/
  functions : Option (List (String × ForeignFunction))
  /-- Calls that fail. -/
  failures : Option (List Failure)
  /-- The token of the next cluster call in the whole session. -/
  nextToken : Option UInt32

namespace Script

/-- A script that changes nothing. -/
def blank : Script := ⟨none, none, none, none, none, none, none⟩

/-- The world with the contents that a script gives. -/
def apply (script : Script) (world : World) : World where
  proxy := {
    requestHeaders := script.requestHeaders.getD world.proxy.requestHeaders
    requestBody := script.requestBody.getD world.proxy.requestBody
    responseBody := script.responseBody.getD world.proxy.responseBody
    callHeaders := world.proxy.callHeaders
    callBody := world.proxy.callBody
    properties := script.properties.getD world.proxy.properties
    functions := script.functions.getD world.proxy.functions
    failures := script.failures.getD world.proxy.failures }
  nextToken := script.nextToken.getD world.nextToken

end Script

/-- A phase as it arrives at the proxy. A chunk is buffered, and the size that is
reported may be given instead of the buffered one. -/
inductive Arrival where
  /-- The headers of the request. -/
  | requestHeaders
  /-- A chunk of the request body. -/
  | requestBody (chunk : Bytes) (isLast : Bool) (size : Option Nat)
  /-- The headers of the response. -/
  | responseHeaders
  /-- A chunk of the response body. -/
  | responseBody (chunk : Bytes) (isLast : Bool) (size : Option Nat)
  deriving DecidableEq, Repr

/-- The proxy after an arrival, and the phase that it delivers. -/
def Arrival.arrive (proxy : Proxy) : Arrival → Proxy × Phase
  | .requestHeaders => (proxy, .requestHeaders)
  | .requestBody chunk isLast size =>
    let requestBody := proxy.requestBody ++ chunk
    ({ proxy with requestBody }, .requestBody (size.getD requestBody.length) isLast)
  | .responseHeaders => (proxy, .responseHeaders)
  | .responseBody chunk isLast size =>
    let responseBody := proxy.responseBody ++ chunk
    ({ proxy with responseBody }, .responseBody (size.getD responseBody.length) isLast)

/-- The answer to a cluster call as it arrives at the proxy, with the counts
that are reported instead of the true ones. -/
structure CallResponse where
  /-- The token of the call. -/
  token : UInt32
  /-- The headers of the answer. -/
  headers : Headers
  /-- The body of the answer. -/
  body : Bytes
  /-- The number of headers that is reported, if not the true one. -/
  headerCount : Option Nat
  /-- The size of the body that is reported, if not the true one. -/
  bodySize : Option Nat
  /-- The number of trailers that is reported. -/
  trailers : Nat
  deriving DecidableEq, Repr

/-- The proxy after an answer has arrived, and the completion that it delivers. -/
def CallResponse.arrive (proxy : Proxy) (response : CallResponse) : Proxy × Completion :=
  ({ proxy with callHeaders := response.headers, callBody := response.body },
    { token := response.token
      headers := response.headerCount.getD response.headers.length
      bodySize := response.bodySize.getD response.body.length
      trailers := response.trailers })

/-- A step on the plugins and streams of a session. -/
inductive Step where
  /-- Start a plugin with a configuration. -/
  | start (plugin : UInt32) (configuration : Option Bytes)
  /-- Let the timer of a plugin fire. -/
  | tick (plugin : UInt32) (times : Nat)
  /-- Look at a plugin. -/
  | plugin (plugin : UInt32)
  /-- Create a stream of a plugin with a proxy of its own. -/
  | stream (plugin id : UInt32) (script : Script)
  /-- Remove a stream. -/
  | drop (id : UInt32)
  /-- Change the contents of the proxy of a stream. -/
  | script (id : UInt32) (script : Script)
  /-- Look at a stream. -/
  | inspect (id : UInt32)
  /-- Let a phase arrive. -/
  | arrival (id : UInt32) (arrival : Arrival)
  /-- Let the answer to a cluster call arrive. -/
  | callResponse (id : UInt32) (response : CallResponse)

end ProxyFilter
