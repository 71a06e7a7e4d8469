import ProxyFilter.Proofs.Behavior.Bodies

/-!
# Scripted proxies, as they are and as the binding presents them

A call that the script of a proxy does not let fail is replied to from what the proxy holds, and
one that it does let fail changes nothing. The binding passes on both, but for taking what is not
found for nothing at all. So either way a body is read as much as its size says, and one that is
refused counts as empty where a failure is passed over.
-/

namespace ProxyFilter

open Dialogue TraceEntry

/-- A window from the beginning of a body is what the body has of it. -/
theorem Bytes.getD_window? (buffer : Bytes) (size : Nat) :
    (buffer.window? 0 size).getD [] = buffer.take size := by
  by_cases hempty : buffer = []
  · rw [hempty, List.take_nil]
    rfl
  · rw [window?_zero hempty]
    rfl

/-- As much of a buffered body as a proxy gives for a size, nothing if it refuses to. -/
def Proxy.fetched (proxy : Proxy) (buffer : Buffer) (size : Nat) : Bytes :=
  if proxy.failure? (.body buffer 0 size) = none then (proxy.buffered buffer).take size else []

/-- Whether a proxy is the scripted one, as it is or as the binding presents it. -/
def Host.IsScripted (host : Host World) : Prop := host = Proxy.host ∨ host = Proxy.host.lenient

namespace Host.IsScripted

variable {host : Host World} {call : Call} {world : World}

/-- A call that the script does not let fail is replied to from what the proxy holds. Of that only
a function is ever refused as not found, and there a lenient proxy does the same. -/
theorem apply_of_works (h : host.IsScripted) (hworks : world.proxy.failure? call = none) :
    host call world = Proxy.reply call world := by
  rcases h with rfl | rfl
  · simp only [Proxy.host, hworks]
  · simp only [lenient, Proxy.host, hworks]
    cases call with
    | foreignFunction name argument =>
      simp only [Proxy.reply]
      split <;> rfl
    | _ => rfl

/-- A call that the script lets fail leaves the proxy as it is. -/
theorem apply_of_fails (h : host.IsScripted) {status : Status}
    (hfails : world.proxy.failure? call = some status) :
    host call world = (.error status, world) ∨
      host call world = (lenient.soften call (.error status), world) := by
  rcases h with rfl | rfl
  · exact .inl (by simp only [Proxy.host, hfails])
  · exact .inr (by simp only [lenient, Proxy.host, hfails])

/-- A call that the script lets fail is refused, unless the binding takes it for nothing. -/
theorem apply_of_refused (h : host.IsScripted) {status : Status}
    (hfails : world.proxy.failure? call = some status)
    (hstrict : lenient.soften call (.error status) = .error status) :
    host call world = (.error status, world) := by
  rcases h.apply_of_fails hfails with hreply | hreply
  · exact hreply
  · rw [hreply, hstrict]

/-- A call whose reply leaves the proxy as it is does so whether it fails or not. -/
theorem keeps (h : host.IsScripted) {call : Call}
    (hkeeps : (Proxy.reply call world).2 = world) : (host call world).2 = world := by
  cases hfails : world.proxy.failure? call with
  | none =>
    rw [h.apply_of_works hfails]
    exact hkeeps
  | some status =>
    rcases h.apply_of_fails hfails with hreply | hreply <;> rw [hreply]

/-- A body that a scripted proxy does not refuse is read from its beginning. -/
theorem run_readBody (h : host.IsScripted) {buffer : Buffer} {size : Nat}
    (hread : size = 0 ∨ world.proxy.failure? (.body buffer 0 size) = none) :
    ∃ opening, (readBody buffer size).run host world =
        ⟨.ok ((world.proxy.buffered buffer).take size), world, opening⟩ ∧
      calls opening = if size = 0 then [] else [.body buffer 0 size] := by
  by_cases hsize : size = 0
  · rw [hsize]
    exact ⟨[], rfl, rfl⟩
  · have hreply : host (.body buffer 0 size) world =
        (.ok ((world.proxy.buffered buffer).window? 0 size), world) :=
      h.apply_of_works (hread.resolve_left hsize)
    rw [Dialogue.run_readBody hsize, hreply, if_neg hsize, ← Bytes.getD_window?]
    exact ⟨_, rfl, rfl⟩

/-- Where a failure is passed over, a body is what the proxy gives of it, and reading it leaves
the proxy as it is. -/
theorem getD_run_readBody (h : host.IsScripted) (buffer : Buffer) (size : Nat) (world : World) :
    let run := (readBody buffer size).run host world
    run.value.toOption.getD [] = world.proxy.fetched buffer size ∧ run.world = world := by
  intro run
  by_cases hsize : size = 0
  · refine ⟨?_, ?_⟩
    · simp only [run, hsize, Proxy.fetched, List.take_zero, ite_self]
      rfl
    · simp only [run, hsize]
      rfl
  cases hfails : world.proxy.failure? (.body buffer 0 size) with
  | none =>
    obtain ⟨opening, hrun, -⟩ := h.run_readBody (.inr hfails)
    simp only [run, hrun, Proxy.fetched, hfails, if_true, and_true]
    rfl
  | some status =>
    simp only [run, Dialogue.run_readBody hsize, Proxy.fetched, hfails]
    rcases h.apply_of_fails hfails with hreply | hreply
    · rw [hreply]
      exact ⟨rfl, rfl⟩
    · rw [hreply]
      cases status <;> exact ⟨rfl, rfl⟩

/-- A function that a scripted proxy offers, and does not refuse to call, is applied. -/
theorem run_apply (h : host.IsScripted) {name : String} {function : ForeignFunction}
    {body : Bytes} (hoffered : Proxy.lookup? world.proxy.functions name = some function)
    (hworks : world.proxy.failure? (.foreignFunction name body) = none) (id : UInt32) :
    ∃ trace, (BodyTransform.apply id name body).run host world =
        ⟨some ((function body).getD []), world, trace⟩ ∧
      calls trace = [.foreignFunction name body] := by
  have hreply : host (.foreignFunction name body) world = (.ok (function body), world) := by
    rw [h.apply_of_works hworks]
    simp only [Proxy.reply, hoffered]
  refine ⟨[.noted ⟨some id, .callingForeign name⟩,
    .asked (.foreignFunction name body) (.ok (function body))], ?_, rfl⟩
  rw [BodyTransform.apply, run_say_bind, run_call_bind, hreply]
  rfl

/-- At the end of a body that a scripted proxy does not refuse, a stream reads the body, unless it
is empty, and spends what it has read. -/
theorem run_onPhase_last (h : host.IsScripted) {stream : Stream} {phase : Phase} {buffer : Buffer}
    {size : Nat} {outcome : Outcome} {last : World} {used : List Call}
    (hopen : stream.state.gate? = none)
    (hlast : stream.behavior.buffered? phase = some (buffer, size, true))
    (hworks : ∀ call ∈ if size = 0 then [] else [Call.body buffer 0 size],
      world.proxy.failure? call = none)
    (hspent : ∃ ending, (stream.behavior.spend stream.id size
        ((world.proxy.buffered buffer).take size)).run host world = ⟨outcome, last, ending⟩ ∧
      calls ending = used) (counters : Counters) :
    ∃ trace, (stream.onPhase counters phase).run host world =
        ⟨(outcome.action, { stream with state := outcome.state }, counters), last, trace⟩ ∧
      calls trace = (if size = 0 then [] else [.body buffer 0 size]) ++ used := by
  have hread : size = 0 ∨ world.proxy.failure? (.body buffer 0 size) = none := by
    by_cases hsize : size = 0
    · exact .inl hsize
    · rw [if_neg hsize] at hworks
      exact .inr (hworks _ List.mem_cons_self)
  obtain ⟨opening, hbody, hreading⟩ := h.run_readBody hread
  obtain ⟨ending, hrun, hused⟩ := hspent
  refine ⟨opening ++ ending, Stream.run_onPhase_of_spent hopen hlast hbody hrun, ?_⟩
  rw [calls_append, hreading, hused]

end Host.IsScripted

end ProxyFilter
