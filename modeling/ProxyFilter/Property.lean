import ProxyFilter.Dialogue

/-!
# Properties of a stream as text

Properties are bytes. As text they are decoded with replacement of what is
ill-formed, so that reading one never fails for its contents.
-/

namespace ProxyFilter.Property

open Text

/-- The text that bytes stand for. -/
def decode (bytes : Bytes) : String := String.ofList (Utf8.lossy bytes)

/-- The text of a property, empty when there is none. -/
def text (path : List String) : Dialogue (Except Status String) := do
  let reply : Except Status (Option Bytes) ← Dialogue.call (.property path)
  return reply.map fun bytes => (bytes.map decode).getD ""

/-- The path of the request: its property, or else its header. A property that
cannot be read is passed over in silence. -/
def requestPath : Dialogue (Except Status String) := do
  let reply : Except Status (Option Bytes) ← Dialogue.call (.property ["request", "path"])
  match reply with
  | .ok (some bytes) => return .ok (decode bytes)
  | _ =>
    let reply : Except Status (Option String) ← Dialogue.call (.requestHeader ":path")
    return reply.map fun header => header.getD ""

end ProxyFilter.Property
