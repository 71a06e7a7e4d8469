import ProxyFilter.Proofs.Behavior.Bodies
import ProxyFilter.Proofs.Binding.Refinement
import ProxyFilter.Proofs.Dialogue.Buffering
import ProxyFilter.Proofs.Session.Restarts

/-!
# Bodies that are missing

A proxy may refuse to read a body with any status. The binding passes all of them on but one:
what is not found counts as nothing, and nothing counts as an empty body. So a body of a known
size that the proxy does not find is spent as if it were empty, where a body that it refuses in
any other way is left alone.
-/

namespace ProxyFilter

open Dialogue TraceEntry

/-- Whether a call makes use of a whole body or changes one. -/
def Call.spendsBody : Call → Bool
  | .dispatch .. => true
  | .foreignFunction .. => true
  | .replaceResponseBody .. => true
  | _ => false

/-- What a behavior does with a body makes use of it. -/
theorem Behavior.spendsBody_of_use? {behavior : Behavior} {body : Bytes} {made : Call}
    (h : behavior.use? body = some made) : made.spendsBody = true := by
  unfold use? at h
  split at h <;> cases h <;> rfl

namespace Binding

section

variable {σ : Type} {sdk : Sdk σ} {host : Host σ} {buffer : Buffer} {size : Nat} {world : σ}
  {status : Status}

/-- Where the proxy refuses a body of a known size with some status, the binding reads it with one
call: as an empty one if the status is that it is not found, and with that status otherwise. -/
theorem Sdk.Wraps.run_readBody_of_error (hwraps : sdk.Wraps host) (hsize : size ≠ 0)
    (hfail : (host (.body buffer 0 size) world).1 = .error status) :
    (readBody buffer size).run sdk.proxyHost world =
      if status = .notFound then
        ⟨.ok [], (host (.body buffer 0 size) world).2, [.asked (.body buffer 0 size) (.ok none)]⟩
      else
        ⟨.error status, (host (.body buffer 0 size) world).2,
          [.asked (.body buffer 0 size) (.error status)]⟩ := by
  rw [hwraps.proxyHost_eq, run_readBody hsize]
  simp only [Host.lenient, hfail]
  cases status <;> rfl

end

namespace Session

variable {session : Session} {id : UInt32} {live : Live}

/-- A phase that arrives for a live filter is one of its stream, before the proxy that the
binding shows to it. -/
theorem commonStep_arrival {sdk : Sdk World} {arrival : Arrival}
    {run : Run World (Action × Stream × Counters)} (hlive : session.filters.get? id = some live)
    (hrun : (live.filter.stream.onPhase (session.counters live)
      (arrival.arrive live.proxy).2).run sdk.proxyHost
        ⟨(arrival.arrive live.proxy).1, session.nextToken⟩ = run) :
    session.commonStep sdk (.arrival id arrival) =
      (⟨.phase run.calls run.value.1, run.records⟩,
        session.keep id live ⟨run.value.2.1⟩ run.world run.value.2.2) := by
  subst hrun
  simp only [commonStep, withLive, hlive, run_onPhase]
  rfl

/-- What an event leaves is found under the number of the filter. -/
theorem get?_keep (session : Session) (id : UInt32) (live : Live) (filter : Filter)
    (world : World) (counters : Counters) :
    (session.keep id live filter world counters).filters.get? id =
      some ⟨filter, live.owner, world.proxy⟩ :=
  (Table.get?_insert _ _ _ _).trans (if_pos rfl)

section

variable {arrival : Arrival} {buffer : Buffer} {size : Nat} {status : Status} {host : Host World}
  {sdk : Sdk World}

/-- A body that the proxy refuses, but not as missing, is left alone: reading it is the only
call, its failure the only record, the stream goes on and is finished, and the response body is
as it was. -/
theorem commonStep_of_refused (hwraps : sdk.Wraps host)
    (hlive : session.filters.get? id = some live)
    (hopen : live.filter.stream.state.gate? = none)
    (hlast : live.filter.stream.behavior.buffered? (arrival.arrive live.proxy).2 =
      some (buffer, size, true)) (hsize : size ≠ 0) (hstatus : status ≠ .notFound)
    (hfail : (host (.body buffer 0 size) ⟨(arrival.arrive live.proxy).1, session.nextToken⟩).1 =
      .error status) :
    let stream := live.filter.stream
    let step := session.commonStep sdk (.arrival id arrival)
    step.1 = ⟨.phase [.body buffer 0 size] .proceed,
      [⟨some stream.id, .failed (readTask buffer) status⟩]⟩ ∧
    ∃ proxy, step.2.filters.get? id =
        some ⟨⟨{ stream with state := .completed }⟩, live.owner, proxy⟩ ∧
      ((host.BuffersResponse fun world => world.proxy.responseBody) →
        proxy.responseBody = (arrival.arrive live.proxy).1.responseBody) := by
  intro stream step
  let arrived : World := ⟨(arrival.arrive live.proxy).1, session.nextToken⟩
  have hread := hwraps.run_readBody_of_error hsize hfail
  rw [if_neg hstatus] at hread
  have hstep : step = _ :=
    commonStep_arrival hlive (Stream.run_onPhase_of_unread hopen hlast hread)
  have hplain : isReplacement (.asked (.body buffer 0 size)
      (host (.body buffer 0 size) arrived).1) = false := by
    rw [hfail]
    exact isReplacement_error (.body buffer 0 size) status
  refine ⟨congrArg Prod.fst hstep, (host (.body buffer 0 size) arrived).2.proxy, ?_,
    fun hbuffers => hbuffers (.body buffer 0 size) arrived hplain⟩
  rw [hstep]
  exact get?_keep session id live _ _ _

/-- A body that the proxy does not find is spent like an empty one: behind the reading all is as
the stream has it for no bytes at all, and it begins with the call that uses them. -/
theorem commonStep_of_missing (hwraps : sdk.Wraps host)
    (hlive : session.filters.get? id = some live)
    (hopen : live.filter.stream.state.gate? = none)
    (hlast : live.filter.stream.behavior.buffered? (arrival.arrive live.proxy).2 =
      some (buffer, size, true)) (hsize : size ≠ 0)
    (hmissing : (host (.body buffer 0 size)
      ⟨(arrival.arrive live.proxy).1, session.nextToken⟩).1 = .error .notFound) :
    let stream := live.filter.stream
    let spent := (stream.behavior.spend stream.id size []).run sdk.proxyHost
      (host (.body buffer 0 size) ⟨(arrival.arrive live.proxy).1, session.nextToken⟩).2
    (session.commonStep sdk (.arrival id arrival)).1 =
      ⟨.phase (.body buffer 0 size :: spent.calls) spent.value.action, spent.records⟩ ∧
    ∃ made rest, stream.behavior.use? [] = some made ∧ made.spendsBody = true ∧
      spent.calls = made :: rest := by
  intro stream spent
  have hread := hwraps.run_readBody_of_error hsize hmissing
  rw [if_pos rfl] at hread
  have hstep := commonStep_arrival hlive (Stream.run_onPhase_of_read hopen hlast hread)
  obtain ⟨made, huse⟩ := Behavior.use?_of_buffered hlast []
  obtain ⟨rest, hcalls⟩ : ∃ rest, spent.calls = made :: rest := Behavior.calls_spend huse _ _
  exact ⟨congrArg Prod.fst hstep, made, rest, huse, Behavior.spendsBody_of_use? huse, hcalls⟩

/-- Only a body that is not found is taken for an empty one. Let a stream be told of the end of a
body of a known size that it buffers, and let the proxy refuse to read it. With any other status
the binding makes no use of the body, and the stream goes on and is finished. But as not found
the body is spent like an empty one that has been read. -/
theorem missing_bodies_are_taken_for_empty (hwraps : sdk.Wraps host)
    (hlive : session.filters.get? id = some live)
    (hstate : live.filter.stream.state = .running ∨ live.filter.stream.state = .awaitingBody)
    (hlast : live.filter.stream.behavior.buffered? (arrival.arrive live.proxy).2 =
      some (buffer, size, true)) (hsize : size ≠ 0)
    (hfail : (host (.body buffer 0 size) ⟨(arrival.arrive live.proxy).1, session.nextToken⟩).1 =
      .error status) :
    let stream := live.filter.stream
    let arrived : World := ⟨(arrival.arrive live.proxy).1, session.nextToken⟩
    let read : Call := .body buffer 0 size
    let step := session.commonStep sdk (.arrival id arrival)
    (status ≠ .notFound →
      step.1 = ⟨.phase [read] .proceed,
        [⟨some stream.id, .failed (readTask buffer) status⟩]⟩ ∧
      ∃ proxy, step.2.filters.get? id =
          some ⟨⟨{ stream with state := .completed }⟩, live.owner, proxy⟩ ∧
        ((host.BuffersResponse fun world => world.proxy.responseBody) →
          proxy.responseBody = arrived.proxy.responseBody)) ∧
    (status = .notFound →
      let spent := (stream.behavior.spend stream.id size []).run sdk.proxyHost (host read arrived).2
      step.1 = ⟨.phase (read :: spent.calls) spent.value.action, spent.records⟩ ∧
      ∃ made rest, stream.behavior.use? [] = some made ∧ made.spendsBody = true ∧
        spent.calls = made :: rest) := by
  intro stream arrived read step
  have hopen : stream.state.gate? = none := StreamState.gate?_eq_none hstate
  refine ⟨fun hstatus => commonStep_of_refused hwraps hlive hopen hlast hsize hstatus hfail,
    fun hmissing => ?_⟩
  rw [hmissing] at hfail
  exact commonStep_of_missing hwraps hlive hopen hlast hsize hfail

end

/-- The filter of the sample before its response. -/
def sampleLive (status : Status) : Live :=
  ⟨⟨⟨1, .bodyTransform ⟨"reverse", .response "reverse"⟩, .running⟩⟩, 0,
    ((sampleScript status).apply ⟨.blank, 1⟩).proxy⟩

/-- The steps of the sample lead to its filter. -/
theorem get?_sample (status : Status) :
    (Session.new.run (.before Proxy.host) ((sampleSteps status).map .common)).2.filters.get? 1 =
      some (sampleLive status) := by
  simp only [sampleSteps, List.map_cons, List.map_nil, run, step, commonStep, configure,
    Root.onConfigure, Plugin.start, ProxyFilter.Session.parse_reverseText]
  rfl

/-- The proxy of the sample refuses to read the response body with the status of its script. -/
theorem host_sample (status : Status) (nextToken : UInt32) :
    (Proxy.host (.body .response 0 3)
      ⟨(sampleArrival.arrive (sampleLive status).proxy).1, nextToken⟩).1 = .error status := rfl

/-- In the sample a body that cannot be parsed is left alone, and one that is not found is
reversed as an empty one. -/
theorem sample_missing_bodies_are_taken_for_empty :
    let before (status : Status) :=
      (Session.new.run (.before Proxy.host) ((sampleSteps status).map .common)).2
    ((before .parseFailure).commonStep (.before Proxy.host) (.arrival 1 sampleArrival)).1 =
        ⟨.phase [.body .response 0 3] .proceed,
          [⟨some 1, .failed .readResponseBody .parseFailure⟩]⟩ ∧
      ∃ rest action log,
        ((before .notFound).commonStep (.before Proxy.host) (.arrival 1 sampleArrival)).1 =
        ⟨.phase (.body .response 0 3 :: .foreignFunction "reverse" [] :: rest) action, log⟩ := by
  intro before
  have hwraps : (Sdk.before Proxy.host).Wraps Proxy.host := Sdk.before_wraps Proxy.host
  have hbuffers (status : Status) : (sampleLive status).filter.stream.behavior.buffered?
      (sampleArrival.arrive (sampleLive status).proxy).2 = some (.response, 3, true) := rfl
  have hsize : 3 ≠ 0 := by decide
  have hrefused := missing_bodies_are_taken_for_empty hwraps (get?_sample .parseFailure) (.inl rfl)
    (hbuffers .parseFailure) hsize (host_sample .parseFailure (before .parseFailure).nextToken)
  have hmissing := missing_bodies_are_taken_for_empty hwraps (get?_sample .notFound) (.inl rfl)
    (hbuffers .notFound) hsize (host_sample .notFound (before .notFound).nextToken)
  have hother : Status.parseFailure ≠ .notFound := by decide
  obtain ⟨hspent, made, rest, huse, -, hcalls⟩ := hmissing.2 rfl
  obtain rfl : .foreignFunction "reverse" [] = made := Option.some.inj huse
  rw [hcalls] at hspent
  exact ⟨(hrefused.1 hother).1, rest, _, _, hspent⟩

/-- A body that the proxy does not find is not always left alone: in the sample it is reversed
as an empty one. -/
theorem missing_bodies_not_left_alone :
    ¬ ∀ (steps : List Step) (id : UInt32) (live : Live) (arrival : Arrival) (buffer : Buffer)
      (size : Nat) (status : Status),
      let session := (Session.new.run (.before Proxy.host) (steps.map .common)).2
      let arrived := (arrival.arrive live.proxy).1
      let step := session.commonStep (.before Proxy.host) (.arrival id arrival)
      session.filters.get? id = some live →
      (live.filter.stream.state = .running ∨ live.filter.stream.state = .awaitingBody) →
      live.filter.stream.behavior.buffered? (arrival.arrive live.proxy).2 =
        some (buffer, size, true) → size ≠ 0 →
      (Proxy.host (.body buffer 0 size) ⟨arrived, session.nextToken⟩).1 = .error status →
      (∃ calls log, step.1 = ⟨.phase calls .proceed, log⟩ ∧
        ∀ call ∈ calls, call.spendsBody = false) ∧
      ∀ after, step.2.filters.get? id = some after →
        after.proxy.responseBody = arrived.responseBody := by
  intro h
  have hlive := get?_sample .notFound
  have hfail := host_sample .notFound
    (Session.new.run (.before Proxy.host) ((sampleSteps .notFound).map .common)).2.nextToken
  obtain ⟨⟨calls, log, hreport, hnone⟩, -⟩ := h (sampleSteps .notFound) 1 (sampleLive .notFound)
    sampleArrival .response 3 .notFound hlive (.inl rfl) rfl (Nat.succ_ne_zero 2) hfail
  obtain ⟨hspent, made, rest, -, hspends, hcalls⟩ :=
    commonStep_of_missing (Sdk.before_wraps Proxy.host) hlive rfl rfl (Nat.succ_ne_zero 2) hfail
  have hmade : made ∈ calls := by
    have hsame := (congrArg Report.answer hreport).symm.trans (congrArg Report.answer hspent)
    rw [hcalls] at hsame
    rw [(Answer.phase.inj hsame).1]
    exact List.mem_cons_of_mem _ List.mem_cons_self
  rw [hnone made hmade] at hspends
  exact Bool.false_ne_true hspends

end Session

end Binding

end ProxyFilter
