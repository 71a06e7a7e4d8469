import ProxyFilter.Proofs.Dialogue.Scripts
import ProxyFilter.Proofs.Stream.History

/-!
# What a completion is answered with

The completion that a stream waits for is answered once, with the headers and the body that the
proxy gives for the response of the cluster. How many headers the completion reports makes no
difference: a call that has failed is answered like any other, with whatever the proxy holds.
-/

namespace ProxyFilter

open Dialogue TraceEntry

/-- The answers that a trace attempts, whether they are sent or not. -/
def TraceEntry.answers (trace : List TraceEntry) : List Call :=
  (calls trace).filter (·.kind = .respond)

/-- The answers of two traces follow each other. -/
theorem TraceEntry.answers_append (opening ending : List TraceEntry) :
    answers (opening ++ ending) = answers opening ++ answers ending := by
  simp only [answers, calls_append, List.filter_append]

namespace CallRelay

variable {σ : Type} (host : Host σ) (world : σ) (id : UInt32)

/-- The headers that are passed on, as the proxy gives those of the response. -/
def heldHeaders : Headers := relayed (host .callResponseHeaders world).1

/-- The body that is passed on, as the proxy gives that of the response behind the headers. -/
def heldBody (size : Nat) : Bytes :=
  ((readBody .callResponse size).run host (host .callResponseHeaders world).2).value.toOption.getD []

/-- The proxy by the time of the answer. -/
def answering (size : Nat) : σ :=
  ((readBody .callResponse size).run host (host .callResponseHeaders world).2).world

/-- The rest of a completion behind the headers of the response. -/
def answerWith (size : Nat) (headers : Headers) : Dialogue Unit := do
  let body ← match ← readBody .callResponse size with
    | .ok body => pure body
    | .error status => do
      sayFailed id .readResponseBody status
      pure []
  answer id headers body

/-- The end of a completion is one answer, and behind an answer that fails the release of the
request. -/
theorem calls_answer (headers : Headers) (body : Bytes) :
    calls ((answer id headers body).run host world).trace = .respond 200 headers body ::
      if (host (.respond 200 headers body) world).1.isOk then [] else [.resumeRequest] := by
  rw [answer, run_call_bind]
  generalize host (.respond 200 headers body) world = sent
  obtain ⟨reply, after⟩ := sent
  cases reply with
  | ok _ => rfl
  | error status =>
    change calls (_ :: _ :: ((call .resumeRequest >>= _).run host after).trace) = _
    rw [run_call_bind]
    generalize host .resumeRequest after = resumed
    obtain ⟨reply, last⟩ := resumed
    cases reply <;> rfl

/-- Behind the headers of the response its body is read, and the end follows with what the proxy
gives of it. -/
theorem calls_answerWith (size : Nat) (headers : Headers) :
    let read := (readBody .callResponse size).run host world
    calls ((answerWith id size headers).run host world).trace =
      (if size = 0 then [] else [.body .callResponse 0 size]) ++
        calls ((answer id headers (read.value.toOption.getD [])).run host read.world).trace := by
  rw [← calls_readBody .callResponse size host world, answerWith, run_bind]
  dsimp only
  generalize (readBody .callResponse size).run host world = read
  obtain ⟨value, after, trace⟩ := read
  rw [calls_append]
  cases value <;> rfl

/-- A completion reads the headers and the body of the response, and ends with what the proxy
gives of both. -/
theorem calls_onCompletion (self : CallRelay) (headers size : Nat) :
    let made : Call := .respond 200 (heldHeaders host world) (heldBody host world size)
    calls ((self.onCompletion id headers size).run host world).trace =
      .callResponseHeaders :: (if size = 0 then [] else [.body .callResponse 0 size]) ++ made ::
        if (host made (answering host world size)).1.isOk then [] else [.resumeRequest] := by
  intro made
  have hwarned : calls ((self.onCompletion id headers size).run host world).trace =
      calls ((self.onCompletion id 1 size).run host world).trace := by
    unfold onCompletion
    split <;> rfl
  let behind : σ := (host .callResponseHeaders world).2
  calc
    calls ((self.onCompletion id headers size).run host world).trace
    _ = .callResponseHeaders ::
        calls ((answerWith id size (heldHeaders host world)).run host behind).trace := by
      rw [hwarned, onCompletion, if_neg Nat.one_ne_zero, run_call_bind, heldHeaders]
      simp only [behind]
      generalize host .callResponseHeaders world = asked
      obtain ⟨reply, after⟩ := asked
      cases reply <;> rfl
    _ = _ := by
      rw [calls_answerWith, calls_answer]
      rfl

/-- A completion attempts one answer, with the headers and the body that the proxy gives. -/
theorem answers_onCompletion (self : CallRelay) (headers size : Nat) :
    answers ((self.onCompletion id headers size).run host world).trace =
      [.respond 200 (heldHeaders host world) (heldBody host world size)] := by
  rw [answers, calls_onCompletion]
  split <;> split <;> rfl

end CallRelay

namespace Stream

/-- The completion that a stream waits for is answered with what the proxy holds for the
response, however many headers it reports. So the answer is empty exactly if the proxy gives
neither a header to pass on nor any body. -/
theorem answers_with_what_is_held {σ : Type} {stream : Stream} {relay : CallRelay}
    {completion : Completion} (hstate : stream.state = .awaitingCall completion.token)
    (hbehavior : stream.behavior = .callRelay relay) (counters : Counters) (host : Host σ)
    (world : σ) :
    let moment := stream.meet ⟨.completion completion, counters, host, world⟩
    let headers := CallRelay.heldHeaders host world
    let body := CallRelay.heldBody host world completion.bodySize
    answers moment.trace = [.respond 200 headers body] ∧
      (answers moment.trace = [.respond 200 [] []] ↔ headers = [] ∧ body = []) := by
  intro moment headers body
  have hanswers : answers moment.trace = [.respond 200 headers body] := by
    obtain ⟨id, behavior, state⟩ := stream
    cases hbehavior
    rw [← relay.answers_onCompletion host world id completion.headers completion.bodySize]
    simp only [moment, meet, onCompletion, if_pos hstate, run_bind, answers_append]
    exact List.append_nil _
  refine ⟨hanswers, ?_⟩
  rw [hanswers]
  simp only [List.cons.injEq, Call.respond.injEq, true_and, and_true]

/-- What a stream sends to a cluster in the samples. -/
def sampleRelay : CallRelay := ⟨"web", "/call", []⟩

/-- A stream that waits for its call. -/
def sampleWaiting : Stream := ⟨1, .callRelay sampleRelay, .awaitingCall 1⟩

/-- A completion of that call without any header, as of a call that has failed. -/
def sampleFailed : Completion := ⟨1, 0, 1, 0⟩

/-- A proxy that holds one header and one byte of a response by then. -/
def sampleHeld : World := ⟨{ Proxy.blank with callHeaders := [("a", "b")], callBody := [0x78] }, 2⟩

/-- The failed call of the sample is answered with what the proxy holds. -/
theorem sample_answers_with_what_is_held :
    let moment := sampleWaiting.meet ⟨.completion sampleFailed, .zero, Proxy.host, sampleHeld⟩
    sampleWaiting.state = .awaitingCall sampleFailed.token ∧
      sampleWaiting.behavior = .callRelay sampleRelay ∧
      answers moment.trace = [.respond 200 (CallRelay.heldHeaders Proxy.host sampleHeld)
        (CallRelay.heldBody Proxy.host sampleHeld 1)] := by
  intro moment
  have hstate : sampleWaiting.state = .awaitingCall sampleFailed.token := rfl
  have hbehavior : sampleWaiting.behavior = .callRelay sampleRelay := rfl
  exact ⟨hstate, hbehavior,
    (answers_with_what_is_held hstate hbehavior .zero Proxy.host sampleHeld).1⟩

/-- A call that has failed is not always answered empty: in the sample the header and the byte
that the proxy holds are passed on. -/
theorem failed_call_not_answered_empty :
    ¬ ∀ (stream : Stream) (relay : CallRelay) (completion : Completion) (counters : Counters)
      (world : World), stream.state = .awaitingCall completion.token →
      stream.behavior = .callRelay relay → completion.headers = 0 →
      answers (stream.meet ⟨.completion completion, counters, Proxy.host, world⟩).trace =
        [.respond 200 [] []] := by
  intro h
  have hempty := h sampleWaiting sampleRelay sampleFailed .zero sampleHeld rfl rfl rfl
  revert hempty
  decide

end Stream

/-- The headers of a cluster response as a proxy passes them on: none if they cannot be read, and
none whose name begins with a colon. -/
def Proxy.passedOn (proxy : Proxy) : Headers :=
  if proxy.failure? .callResponseHeaders = none then
    proxy.callHeaders.filter fun header => ¬[':'] <+: header.1.toList
  else []

namespace Host.IsScripted

variable {host : Host World}

/-- What a scripted proxy gives for the headers of the response is what it passes on of them. -/
theorem heldHeaders_eq (h : host.IsScripted) (world : World) :
    CallRelay.heldHeaders host world = world.proxy.passedOn ∧
      (host .callResponseHeaders world).2 = world := by
  have hrelayed (header : String × String) :
      CallRelay.isRelayed header.1 = decide ¬[':'] <+: header.1.toList := by
    rw [CallRelay.isRelayed]
    cases header.1.toList with
    | nil => rfl
    | cons char rest =>
      by_cases hcolon : char = ':'
      · simp [hcolon]
      · simp [hcolon, Ne.symm hcolon]
  unfold CallRelay.heldHeaders CallRelay.relayed Proxy.passedOn
  cases hfails : world.proxy.failure? .callResponseHeaders with
  | none =>
    rw [h.apply_of_works hfails]
    simp only [hrelayed, if_true]
    exact ⟨rfl, rfl⟩
  | some status =>
    rw [h.apply_of_refused hfails rfl]
    exact ⟨rfl, rfl⟩

/-- What a scripted proxy gives for the body of the response is as much as it fetches of it, and
the proxy is the same by the time of the answer. -/
theorem heldBody_eq (h : host.IsScripted) (world : World) (size : Nat) :
    CallRelay.heldBody host world size = world.proxy.fetched .callResponse size ∧
      CallRelay.answering host world size = world := by
  unfold CallRelay.heldBody CallRelay.answering
  rw [(h.heldHeaders_eq world).2]
  exact h.getD_run_readBody .callResponse size world

/-- A scripted proxy sends an answer unless its script lets that fail. -/
theorem isOk_respond (h : host.IsScripted) (status : Nat) (headers : Headers) (body : Bytes)
    (world : World) :
    (host (.respond status headers body) world).1.isOk =
      decide (world.proxy.failure? (.respond status headers body) = none) := by
  cases hfails : world.proxy.failure? (.respond status headers body) with
  | none =>
    rw [h.apply_of_works hfails]
    rfl
  | some refused =>
    rw [h.apply_of_refused hfails rfl]
    rfl

end Host.IsScripted

namespace Stream

/-- The completion that a stream waits for is relayed. The headers of the response are read, and
the body too unless its size is zero. One answer is attempted, with status 200. Its headers are
those of the response in their order, but for names that begin with a colon, and its body is as
much of the response as the size says; what cannot be read is left out. If the answer fails, and
only then, the request is let go on, once. Whichever of these calls fail, and however many headers
are reported, the stream is finished. -/
theorem completions_are_relayed {stream : Stream} {relay : CallRelay} {completion : Completion}
    {host : Host World} (hstate : stream.state = .awaitingCall completion.token)
    (hbehavior : stream.behavior = .callRelay relay) (hscript : host.IsScripted)
    (counters : Counters) (world : World) :
    let moment := stream.meet ⟨.completion completion, counters, host, world⟩
    let size := completion.bodySize
    let made : Call := .respond 200 world.proxy.passedOn (world.proxy.fetched .callResponse size)
    moment.calls = .callResponseHeaders :: (if size = 0 then [] else [.body .callResponse 0 size]) ++
        made :: (if world.proxy.failure? made = none then [] else [.resumeRequest]) ∧
      moment.after = { stream with state := .completed } := by
  intro moment size made
  obtain ⟨id, behavior, state⟩ := stream
  cases hbehavior
  obtain ⟨hheaders, -⟩ := hscript.heldHeaders_eq world
  obtain ⟨hbody, hanswering⟩ := hscript.heldBody_eq world size
  have hcalls := relay.calls_onCompletion host world id completion.headers size
  simp only [hheaders, hbody, hanswering, hscript.isOk_respond, decide_eq_true_eq] at hcalls
  refine ⟨?_, ?_⟩
  · rw [← hcalls]
    simp only [moment, meet, onCompletion, if_pos hstate, run_bind, Moment.calls, calls_append]
    exact List.append_nil _
  · simp only [moment, meet, onCompletion, if_pos hstate, run_bind, run_pure]

/-- A proxy that holds a response with two like headers and three bytes by then, and refuses to
answer. -/
def sampleUnsendable : World :=
  ⟨{ Proxy.blank with
    callHeaders := [(":status", "200"), ("a", "b"), ("a", "b")]
    callBody := [0xFF, 0x00, 0x78]
    failures := [⟨.respond, none, .badArgument⟩] }, 2⟩

/-- In the sample, as the binding presents it, two of the three bytes are relayed with both like
headers; the answer fails, and the request goes on. -/
theorem sample_completions_are_relayed :
    let moment := sampleWaiting.meet ⟨.completion ⟨1, 3, 2, 0⟩, .zero, Proxy.host.lenient,
      sampleUnsendable⟩
    sampleWaiting.state = .awaitingCall 1 ∧ sampleWaiting.behavior = .callRelay sampleRelay ∧
      Proxy.host.lenient.IsScripted ∧
      moment.calls = [.callResponseHeaders, .body .callResponse 0 2,
        .respond 200 [("a", "b"), ("a", "b")] [0xFF, 0x00], .resumeRequest] ∧
      moment.after = { sampleWaiting with state := .completed } := by
  intro moment
  have hstate : sampleWaiting.state = .awaitingCall (Completion.mk 1 3 2 0).token := rfl
  have hbehavior : sampleWaiting.behavior = .callRelay sampleRelay := rfl
  have hscript : Proxy.host.lenient.IsScripted := .inr rfl
  have hpassed : sampleUnsendable.proxy.passedOn = [("a", "b"), ("a", "b")] := by decide
  obtain ⟨hcalls, hafter⟩ :=
    completions_are_relayed hstate hbehavior hscript .zero sampleUnsendable
  rw [hpassed] at hcalls
  exact ⟨hstate, hbehavior, hscript, hcalls, hafter⟩

end Stream

end ProxyFilter
