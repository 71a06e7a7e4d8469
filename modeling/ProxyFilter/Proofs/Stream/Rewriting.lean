import ProxyFilter.Proofs.Dialogue.Scripts

/-!
# Response bodies are rewritten where they were read

A stream that rewrites its response reads as much of the buffered body as the size says, and puts
the function of what it has read into its place. The size counts for both, so what lies behind the
part that was read stays, whether the size falls short of the body, reaches past it or is zero.
-/

namespace ProxyFilter

open Dialogue TraceEntry

/-- The body that is left when the part of a given size is replaced by a function of it, where no
data counts as empty. -/
def ForeignFunction.rewrite (function : ForeignFunction) (size : Nat) (body : Bytes) : Bytes :=
  (function (body.take size)).getD [] ++ body.drop size

/-- Of a body whose size is known nothing is left but the function of it. -/
theorem ForeignFunction.rewrite_length (function : ForeignFunction) (body : Bytes) :
    function.rewrite body.length body = (function body).getD [] := by
  rw [rewrite, List.take_length, List.drop_length, List.append_nil]

/-- A scripted proxy that lets a function be applied and a body be replaced has the beginning of
the response body replaced by the function of it. -/
theorem Host.IsScripted.run_replaceWith {host : Host World} (h : host.IsScripted) {world : World}
    {name : String} {function : ForeignFunction} {size : Nat} {body : Bytes}
    (hoffered : Proxy.lookup? world.proxy.functions name = some function)
    (hcall : world.proxy.failure? (.foreignFunction name body) = none)
    (hset : world.proxy.failure? (.replaceResponseBody 0 size ((function body).getD [])) = none)
    (id : UInt32) :
    let responseBody := (function body).getD [] ++ world.proxy.responseBody.drop size
    ∃ trace, (BodyTransform.replaceWith id name size body).run host world =
        ⟨.finished, { world with proxy := { world.proxy with responseBody } }, trace⟩ ∧
      calls trace = [.foreignFunction name body,
        .replaceResponseBody 0 size ((function body).getD [])] := by
  intro responseBody
  obtain ⟨opening, happly, hcalls⟩ := h.run_apply hoffered hcall id
  have hreply : host (.replaceResponseBody 0 size ((function body).getD [])) world =
      (.ok (), { world with proxy := { world.proxy with responseBody } }) := by
    rw [h.apply_of_works hset]
    simp only [Proxy.reply, Bytes.splice_zero]
    rfl
  refine ⟨opening ++ [.asked (.replaceResponseBody 0 size ((function body).getD [])) (.ok ())],
    ?_, ?_⟩
  · rw [BodyTransform.replaceWith, run_bind, happly]
    dsimp only
    rw [run_call_bind, hreply]
    rfl
  · rw [calls_append, hcalls]
    rfl

namespace Stream

/-- Response bodies are rewritten where they were read. Let a stream that rewrites its response by
a function be told of the end of the response body with any size, and let none of its calls fail.
It reads the body, unless the size is zero, applies the function once to as much of the body as the
size says, and replaces the part of that size by the result. The proxy is left with the function of
that part and with all that lies behind it, so with the function of the whole body if the size is
that of the body; nothing else of the proxy changes. The stream goes on and is finished, without an
answer among its calls. -/
theorem responses_are_rewritten {stream : Stream} {transform : BodyTransform} {name : String}
    {function : ForeignFunction} {host : Host World} {world : World}
    (hstate : stream.state = .running ∨ stream.state = .awaitingBody)
    (hbehavior : stream.behavior = .bodyTransform transform)
    (hmode : transform.mode = .response name) (hscript : host.IsScripted)
    (hoffered : Proxy.lookup? world.proxy.functions name = some function) (counters : Counters)
    (size : Nat) :
    let body := world.proxy.responseBody
    let part := body.take size
    let made : List Call := (if size = 0 then [] else [.body .response 0 size]) ++
      [.foreignFunction name part, .replaceResponseBody 0 size ((function part).getD [])]
    (∀ call ∈ made, world.proxy.failure? call = none) →
      let run := (stream.onPhase counters (.responseBody size true)).run host world
      let responseBody := function.rewrite size body
      run.calls = made ∧
        run.world = { world with proxy := { world.proxy with responseBody } } ∧
        (size = body.length → run.world.proxy.responseBody = (function body).getD []) ∧
        run.value = (.proceed, { stream with state := .completed }, counters) := by
  intro body part made hworks run responseBody
  obtain ⟨configured, mode⟩ := transform
  cases hmode
  have hopen : stream.state.gate? = none := StreamState.gate?_eq_none hstate
  have hlast : stream.behavior.buffered? (.responseBody size true) =
      some (.response, size, true) := by
    rw [hbehavior]
    rfl
  obtain ⟨hfirst, hothers⟩ := List.forall_mem_append.mp hworks
  obtain ⟨hcall, hlatter⟩ := List.forall_mem_cons.mp hothers
  obtain ⟨hset, -⟩ := List.forall_mem_cons.mp hlatter
  have hspend : stream.behavior.spend stream.id size part =
      BodyTransform.replaceWith stream.id name size part := by
    rw [hbehavior]
    rfl
  have hspent := hscript.run_replaceWith hoffered hcall hset stream.id
  rw [← hspend] at hspent
  obtain ⟨trace, hleft, hcalls⟩ := hscript.run_onPhase_last hopen hlast hfirst hspent counters
  have hrun : run = ⟨(.proceed, { stream with state := .completed }, counters),
      { world with proxy := { world.proxy with responseBody } }, trace⟩ := hleft
  refine ⟨?_, by rw [hrun], fun hwhole => ?_, by rw [hrun]⟩
  · rw [hrun]
    exact hcalls
  · rw [hrun]
    simp only [responseBody, hwhole]
    exact function.rewrite_length body

/-- A proxy that doubles what it is given, and holds a response body of three bytes. -/
def sampleDoubling : World :=
  ⟨{ Proxy.blank with
    responseBody := [0x61, 0xFF, 0x63]
    functions := [("double", .double)] }, 1⟩

/-- In the sample two of the three bytes are doubled, and the third stays behind them. -/
theorem sample_responses_are_rewritten :
    let stream : Stream := ⟨1, .bodyTransform ⟨"double", .response "double"⟩, .awaitingBody⟩
    let run := (stream.onPhase .zero (.responseBody 2 true)).run Proxy.host sampleDoubling
    (stream.state = .running ∨ stream.state = .awaitingBody) ∧
      Proxy.lookup? sampleDoubling.proxy.functions "double" = some .double ∧
      (∀ call ∈ run.calls, sampleDoubling.proxy.failure? call = none) ∧
      run.calls = [.body .response 0 2, .foreignFunction "double" [0x61, 0xFF],
        .replaceResponseBody 0 2 [0x61, 0xFF, 0x61, 0xFF]] ∧
      run.world.proxy.responseBody = [0x61, 0xFF, 0x61, 0xFF, 0x63] ∧
      run.value = (.proceed, { stream with state := .completed }, .zero) := by
  intro stream run
  have hstate : stream.state = .running ∨ stream.state = .awaitingBody := .inr rfl
  have hoffered : Proxy.lookup? sampleDoubling.proxy.functions "double" = some .double := rfl
  have hscript : Proxy.host.IsScripted := .inl rfl
  have hworks : ∀ call ∈ [Call.body .response 0 2, .foreignFunction "double" [0x61, 0xFF],
      .replaceResponseBody 0 2 [0x61, 0xFF, 0x61, 0xFF]],
      sampleDoubling.proxy.failure? call = none := by
    decide
  obtain ⟨hcalls, hworld, -, hvalue⟩ :=
    responses_are_rewritten hstate rfl rfl hscript hoffered .zero 2 hworks
  have hmade : ∀ call ∈ run.calls, sampleDoubling.proxy.failure? call = none := by
    simp only [run, hcalls]
    exact hworks
  exact ⟨hstate, hoffered, hmade, hcalls, congrArg (·.proxy.responseBody) hworld, hvalue⟩

end Stream

end ProxyFilter
