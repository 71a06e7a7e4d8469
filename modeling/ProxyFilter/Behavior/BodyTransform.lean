import ProxyFilter.Behavior.Phase
import ProxyFilter.Config
import ProxyFilter.Property

/-!
# Applying a foreign function to a body

A request whose path names a function is answered with that function of its
body. Any other stream has its response body replaced by the configured function
of it, if one is configured.
-/

namespace ProxyFilter

/-- What a stream does with which function. -/
inductive TransformMode where
  /-- Not decided before the request headers arrive. -/
  | pending
  /-- Answer with a function of the request body. -/
  | request (function : String)
  /-- Replace the response body by a function of it. -/
  | response (function : String)
  /-- Leave both bodies alone. -/
  | passthrough
  deriving DecidableEq, Repr

/-- A stream with a foreign function. -/
structure BodyTransform where
  /-- The configured function, possibly empty. -/
  function : String
  /-- What the stream does. -/
  mode : TransformMode
  deriving DecidableEq, Repr

namespace BodyTransform

open Dialogue

/-- How a path that names a function begins. -/
def pathStart : String := "/ffiTests/"

/-- The function that a path names: what stands between its fixed beginning and
a query, unless that is empty. -/
def ofPath? (path : String) : Option String :=
  let start := pathStart.toList
  if start.isPrefixOf path.toList then
    let name := (path.toList.drop start.length).takeWhile (· != '?')
    if name.isEmpty then none else some (String.ofList name)
  else none

/-- A stream whose request headers have not arrived. -/
def new (config : Config) : BodyTransform := ⟨config.function, .pending⟩

/-- The mode that a path and a configured function lead to. -/
def modeOf (path function : String) : TransformMode :=
  match ofPath? path with
  | some name => .request name
  | none => if function.isEmpty then .passthrough else .response function

/-- Decide what to do. A path that cannot be read counts as empty. -/
def onRequestHeaders (id : UInt32) (self : BodyTransform) : Dialogue BodyTransform := do
  let path ← match ← Property.requestPath with
    | .ok path => pure path
    | .error status => do
      sayFailed id .readPath status
      pure ""
  return { self with mode := modeOf path self.function }

/-- The result of a function for a body, where no data counts as empty, or
nothing when the call fails. -/
def apply (id : UInt32) (name : String) (body : Bytes) : Dialogue (Option Bytes) := do
  say id (.callingForeign name)
  let reply : Except Status (Option Bytes) ← call (.foreignFunction name body)
  match reply with
  | .ok result => return some (result.getD [])
  | .error status =>
    sayFailed id (.callForeign name) status
    return none

/-- Answer with the function of the whole request body. -/
def onRequestBody (id : UInt32) (self : BodyTransform) (size : Nat) (isLast : Bool) :
    Dialogue Outcome := do
  match self.mode with
  | .request name =>
    if !isLast then return .awaitBody
    match ← readBody .request size with
    | .error status =>
      sayFailed id .readRequestBody status
      return .finished
    | .ok body =>
      match ← apply id name body with
      | some result => respond id result
      | none => return .finished
  | _ => return .proceed

/-- Replace the whole response body by the function of it. -/
def onResponseBody (id : UInt32) (self : BodyTransform) (size : Nat) (isLast : Bool) :
    Dialogue Outcome := do
  match self.mode with
  | .response name =>
    if !isLast then return .awaitBody
    match ← readBody .response size with
    | .error status =>
      sayFailed id .readResponseBody status
      return .finished
    | .ok body =>
      match ← apply id name body with
      | none => return .finished
      | some result =>
        let reply : Except Status Unit ← call (.replaceResponseBody 0 size result)
        if let .error status := reply then sayFailed id .replaceResponse status
        return .finished
  | _ => return .proceed

end BodyTransform

end ProxyFilter
