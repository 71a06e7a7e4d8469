import ProxyFilter.Dialogue
import ProxyFilter.Proxy

/-!
# The response body that a proxy buffers

How a proxy keeps the body of a response is its own affair. All that is asked of it is that the
body changes only where it is replaced with success, as the scripted proxy has it; then a run
that replaces nothing leaves the body as it is.
-/

namespace ProxyFilter

namespace TraceEntry

/-- Whether an entry replaces a part of the response body with success. -/
def isReplacement : TraceEntry → Bool
  | .asked (.replaceResponseBody ..) (.ok ()) => true
  | _ => false

/-- A call that fails replaces nothing. -/
theorem isReplacement_error (call : Call) (status : Status) :
    isReplacement (.asked call (.error status)) = false := by
  cases call <;> rfl

/-- Whether a trace replaces a part of the response body. -/
def replaces (trace : List TraceEntry) : Bool := trace.any isReplacement

/-- Of two traces one behind the other either may replace something. -/
theorem replaces_append (opening ending : List TraceEntry) :
    replaces (opening ++ ending) = (replaces opening || replaces ending) :=
  List.any_append

end TraceEntry

open TraceEntry

variable {σ : Type} {host : Host σ}

/-- Whether a view of the state of a proxy is one of the response body: it changes only where
the body is replaced with success. -/
def Host.BuffersResponse (host : Host σ) (view : σ → Bytes) : Prop :=
  ∀ call world, isReplacement (.asked call (host call world).1) = false →
    view (host call world).2 = view world

/-- A run that replaces nothing leaves the response body as it is. -/
theorem Host.BuffersResponse.run_of_replaces {α : Type} {view : σ → Bytes}
    (h : host.BuffersResponse view) (dialogue : Dialogue α) (world : σ)
    (hplain : replaces (dialogue.run host world).trace = false) :
    view (dialogue.run host world).world = view world := by
  induction dialogue generalizing world with
  | done value => rfl
  | note record next ih => exact ih world hplain
  | ask call next ih =>
    have hsplit : isReplacement (.asked call (host call world).1) = false ∧
        replaces ((next (host call world).1).run host (host call world).2).trace = false :=
      Bool.or_eq_false_iff.mp hplain
    have hfirst : view (host call world).2 = view world := h call world hsplit.1
    have hrest := ih (host call world).1 (host call world).2 hsplit.2
    exact hrest.trans hfirst

/-- A scripted proxy changes the response body only where it is replaced with success. -/
theorem Proxy.host_buffersResponse :
    Proxy.host.BuffersResponse fun world => world.proxy.responseBody := by
  intro call world hplain
  unfold host at hplain ⊢
  split
  · rfl
  · next hworks =>
    rw [hworks] at hplain
    cases call with
    | replaceResponseBody start size value => cases hplain
    | foreignFunction name argument =>
      simp only [reply]
      split <;> rfl
    | _ => rfl

end ProxyFilter
