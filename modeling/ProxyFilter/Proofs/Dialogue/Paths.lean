import ProxyFilter.Proofs.Behavior.Effects
import ProxyFilter.Proofs.Dialogue.Scripts
import ProxyFilter.Proofs.Text.Lossy

/-!
# The bytes of the path of a request

A proxy gives the path of a request as a property or, if that gives nothing, as a header. Either
way there are bytes behind the text that is found, so that what is decided by the text is decided
by the bytes.
-/

namespace ProxyFilter

open Dialogue TraceEntry

variable {σ : Type}

namespace Host

/-- The bytes of the path of a request: those of its property if that has a value, even an empty
one, and else those of its header, none if there is no such header. -/
def pathBytes (host : Host σ) (world : σ) : Except Status Bytes :=
  let found : Except Status (Option Bytes) × σ := host (.property ["request", "path"]) world
  match found.1 with
  | .ok (some bytes) => .ok bytes
  | _ =>
    let header : Except Status (Option String) := (host (.requestHeader ":path") found.2).1
    header.map fun value => Text.Utf8.encode (value.getD "").toList

/-- The calls that find the path of a request. -/
def pathCalls (host : Host σ) (world : σ) : List Call :=
  let found : Except Status (Option Bytes) := (host (.property ["request", "path"]) world).1
  match found with
  | .ok (some _) => [.property ["request", "path"]]
  | _ => [.property ["request", "path"], .requestHeader ":path"]

/-- Finding the path of a request asks for a property and a header only. -/
theorem kind_of_mem_pathCalls {host : Host σ} {world : σ} {call : Call}
    (hcall : call ∈ host.pathCalls world) : call.kind = .property ∨ call.kind = .requestHeader := by
  unfold pathCalls at hcall
  dsimp only at hcall
  split at hcall
  · cases List.mem_singleton.mp hcall
    exact .inl rfl
  · obtain rfl | hcall := List.mem_cons.mp hcall
    · exact .inl rfl
    · cases List.mem_singleton.mp hcall
      exact .inr rfl

end Host

/-- The path that is found is the text of its bytes. -/
theorem Property.run_requestPath (host : Host σ) (world : σ) :
    (requestPath.run host world).value = (host.pathBytes world).map decode ∧
      calls (requestPath.run host world).trace = host.pathCalls world := by
  have hheader (after : σ) :
      let reply : Except Status (Option String) := (host (.requestHeader ":path") after).1
      reply.map (·.getD "") =
        (reply.map fun value => Text.Utf8.encode (value.getD "").toList).map decode := by
    intro reply
    cases reply with
    | error status => rfl
    | ok value => exact congrArg Except.ok (decode_encode _).symm
  rw [requestPath, run_call_bind]
  unfold Host.pathBytes Host.pathCalls
  generalize host (.property ["request", "path"]) world = found
  obtain ⟨reply, after⟩ := found
  rcases reply with status | _ | bytes
  · exact ⟨hheader after, rfl⟩
  · exact ⟨hheader after, rfl⟩
  · exact ⟨rfl, rfl⟩

namespace Host.IsScripted

variable {host : Host World} {world : World}

/-- Finding the path of a request leaves a scripted proxy as it is. -/
theorem world_requestPath (h : host.IsScripted) (world : World) :
    (Property.requestPath.run host world).world = world := by
  have hproperty : (host (.property ["request", "path"]) world).2 = world := h.keeps rfl
  have hheader : (host (.requestHeader ":path") world).2 = world := h.keeps rfl
  rw [Property.requestPath, run_call_bind, hproperty]
  generalize (host (.property ["request", "path"]) world).1 = reply
  rcases reply with status | _ | bytes
  · exact hheader
  · exact hheader
  · rfl

/-- The path that a scripted proxy has as a property is the path of the request. -/
theorem pathBytes_of_property (h : host.IsScripted) {path : Bytes}
    (hheld : Proxy.lookup? world.proxy.properties "request.path" = some path)
    (hworks : world.proxy.failure? (.property ["request", "path"]) = none) :
    host.pathBytes world = .ok path := by
  have hkey : Call.propertyKey ["request", "path"] = "request.path" := by decide
  have hreply : host (.property ["request", "path"]) world = (.ok (some path), world) := by
    rw [h.apply_of_works hworks, Proxy.reply, hkey, hheld]
  simp only [pathBytes, hreply]

end Host.IsScripted

end ProxyFilter
