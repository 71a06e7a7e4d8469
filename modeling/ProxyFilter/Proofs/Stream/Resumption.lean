import ProxyFilter.Proofs.Stream.History
import ProxyFilter.Proxy

/-!
# Cluster calls are resumed once

From the start of a cluster call on, the stream waits for the first completion
with its token. Until then nothing moves it and it asks nothing of the proxy; the
completion answers the request once, or lets it go on when the answer fails; and
behind it the stream is finished for good.
-/

namespace ProxyFilter

open Dialogue TraceEntry

namespace TraceEntry

/-- Whether a trace answers the request exactly once. Before the answer only the
answer of a cluster call is read, and behind it at most one call is made, which
lets the request go on exactly when the answer has failed. -/
def AnswersOnce (trace : List TraceEntry) : Prop :=
  ∃ (opening ending : List TraceEntry) (headers : Headers) (body : Bytes)
    (reply : (Call.respond 200 headers body).Reply),
    trace = opening ++ .asked (.respond 200 headers body) reply :: ending ∧
    (∀ call ∈ calls opening, call.kind = .callResponseHeaders ∨ call.kind = .body .callResponse) ∧
    calls ending = if reply.isOk then [] else [.resumeRequest]

/-- A record before it does not change whether a trace answers exactly once. -/
theorem AnswersOnce.noted {trace : List TraceEntry} (h : AnswersOnce trace) (record : Record) :
    AnswersOnce (.noted record :: trace) := by
  obtain ⟨opening, ending, headers, body, reply, rfl, hreads, hlast⟩ := h
  exact ⟨.noted record :: opening, ending, headers, body, reply, rfl, hreads, hlast⟩

end TraceEntry

namespace Behavior

variable {id : UInt32} {self : CallRelay} {headers bodySize : Nat} {trace : List TraceEntry}

/-- Before it answers, a completion only reads. -/
theorem reads_of_parts {received : Except Status Headers} {body : Except Status Bytes}
    {opening middle : List TraceEntry} {call : Call}
    (hheaders : Attempt id .readResponseHeaders .callResponseHeaders opening received)
    (hbody : Reading id .callResponse bodySize middle body)
    (hcall : call ∈ calls (self.warning id headers ++ (opening ++ middle))) :
    call.kind = .callResponseHeaders ∨ call.kind = .body .callResponse := by
  have hparts : call ∈ calls opening ∨ call ∈ calls middle := by
    simpa only [calls_append, calls_warning, List.nil_append, List.mem_append] using hcall
  cases hparts with
  | inl hopening =>
    rw [hheaders.calls_eq, List.mem_singleton] at hopening
    rw [hopening]
    exact .inl rfl
  | inr hmiddle => exact .inr (hbody.kind_eq hmiddle)

/-- A relayed completion answers the request exactly once. -/
theorem answersOnce_of_relays (h : Relays id self headers bodySize trace) :
    AnswersOnce trace := by
  cases h with
  | answered received body opening middle ending hheaders hbody hsend =>
    cases hsend with
    | success answer =>
      refine ⟨self.warning id headers ++ (opening ++ middle), [], CallRelay.relayed received,
        body.toOption.getD [], .ok answer, ?_, fun _ => reads_of_parts hheaders hbody, rfl⟩
      simp only [List.append_assoc]
  | resumed received body status reply opening middle ending last hheaders hbody hsend hresume =>
    have hlast : calls last = [.resumeRequest] := hresume.calls_eq
    cases hsend with
    | failure status =>
      refine ⟨self.warning id headers ++ (opening ++ middle),
        .noted ⟨some id, .failed .respond status⟩ :: last, CallRelay.relayed received,
        body.toOption.getD [], .error status, ?_, fun _ => reads_of_parts hheaders hbody, hlast⟩
      simp only [List.append_assoc, List.cons_append, List.nil_append]

end Behavior

namespace Moment

variable {counters : Counters} {moment : Moment} {token : UInt32}

/-- A moment that starts a cluster call is a phase under relaying. It starts no
other call, calls nothing afterwards and leaves the stream waiting, otherwise as it
was. -/
theorem Arises.awaitingCall_of_dispatched (h : moment.Arises counters)
    (hstart : token ∈ moment.dispatched) :
    (∃ relay, moment.before.behavior = .callRelay relay) ∧ moment.dispatched = [token] ∧
      (∃ made, moment.calls.getLast? = some made ∧ made.kind = .dispatch) ∧
      moment.after = { moment.before with state := .awaitingCall token } ∧
      moment.action = some .pause := by
  cases h with
  | reacted stream phase trace reaction hopen hreacts =>
    have hdispatched : TraceEntry.dispatched trace = reaction.outcome.token?.toList :=
      Behavior.dispatched_of_reacts hreacts
    have hwait : reaction.outcome = .awaitCall token := by
      rw [Moment.dispatched, hdispatched, Option.mem_toList] at hstart
      exact Outcome.eq_awaitCall_of_token? hstart
    obtain ⟨hrelay, hsame, hlast⟩ := Behavior.relaying_of_reacts hreacts hwait
    have hafter : (⟨stream.id, reaction.behavior, reaction.outcome.state⟩ : Stream) =
        { stream with state := .awaitingCall token } := by
      rw [hsame, hwait]
      rfl
    refine ⟨hrelay, ?_, hlast, hafter, ?_⟩
    · rw [Moment.dispatched, hdispatched, hwait]
      rfl
    · rw [hwait]
      rfl
  | relayed stream completion relay trace hstate hbehavior hrelays =>
    rw [Moment.dispatched, dispatched_noted, Behavior.dispatched_of_relays hrelays] at hstart
    cases hstart
  | _ => cases hstart

/-- While a stream waits for a cluster call, only its completion does anything. -/
theorem Arises.eq_of_awaitingCall (h : moment.Arises counters)
    (hstate : moment.before.state = .awaitingCall token)
    (hother : moment.event.completes token = false) :
    moment.after = moment.before ∧ moment.calls = [] ∧
      ∀ phase, moment.event = .phase phase → moment.action = some .pause := by
  cases h with
  | suspended => exact ⟨rfl, rfl, fun _ _ => rfl⟩
  | stray => exact ⟨rfl, rfl, nofun⟩
  | _ => grind [Event.completes, StreamState.gate?]

/-- The completion that a relayed stream waits for finishes it with one answer. -/
theorem Arises.completed_of_awaitingCall {relay : CallRelay} (h : moment.Arises counters)
    (hstate : moment.before.state = .awaitingCall token)
    (hbehavior : moment.before.behavior = .callRelay relay)
    (hmatch : moment.event.completes token = true) :
    moment.after = { moment.before with state := .completed } ∧ AnswersOnce moment.trace := by
  cases h with
  | relayed stream completion relay trace hheld hself hrelays =>
    exact ⟨rfl, (Behavior.answersOnce_of_relays hrelays).noted _⟩
  | _ => grind [Event.completes, Behavior.kind]

/-- The moments before the first completion of a call. -/
def untilCompletion (token : UInt32) (moments : List Moment) : List Moment :=
  moments.takeWhile fun moment => !moment.event.completes token

/-- The moments from the first completion of a call on. -/
def fromCompletion (token : UInt32) (moments : List Moment) : List Moment :=
  moments.dropWhile fun moment => !moment.event.completes token

end Moment

namespace Stream

open Moment

variable {σ : Type} {stream : Stream} {token : UInt32}

/-- Through a whole history nothing moves a finished stream, and it calls nothing. -/
theorem history_of_completed (hstate : stream.state = .completed)
    (deliveries : List (Delivery σ)) :
    ∀ moment ∈ stream.history deliveries, moment.after = stream ∧ moment.calls = [] := by
  induction deliveries with
  | nil => exact fun _ hmem => absurd hmem List.not_mem_nil
  | cons delivery rest ih =>
    have hfirst := (stream.arises_meet delivery).eq_of_completed (by rwa [before_meet])
    rw [before_meet] at hfirst
    intro moment hmem
    rw [history, hfirst.1] at hmem
    cases List.mem_cons.mp hmem with
    | inl here =>
      rw [here]
      exact hfirst
    | inr there => exact ih moment there

/-- A stream that relays and waits for a call stays as it is until the completion of
the call, is finished by the completion with one answer, and stays finished. As it does not
change before, the induction needs no other stream than this one. -/
theorem history_of_awaitingCall {relay : CallRelay} (hstate : stream.state = .awaitingCall token)
    (hbehavior : stream.behavior = .callRelay relay) (deliveries : List (Delivery σ)) :
    (∀ moment ∈ untilCompletion token (stream.history deliveries),
      moment.after = stream ∧ moment.calls = [] ∧
        ∀ phase, moment.event = .phase phase → moment.action = some .pause) ∧
    (∀ moment ∈ (fromCompletion token (stream.history deliveries)).head?,
      moment.after = { stream with state := .completed } ∧ AnswersOnce moment.trace) ∧
    (∀ moment ∈ (fromCompletion token (stream.history deliveries)).tail,
      moment.after = { stream with state := .completed } ∧ moment.calls = []) := by
  induction deliveries with
  | nil =>
    have hnone : ∀ {P : Moment → Prop}, ∀ moment ∈ ([] : List Moment), P moment :=
      fun _ hmem => absurd hmem List.not_mem_nil
    exact ⟨hnone, fun _ hmem => absurd hmem (Option.not_mem_none _), hnone⟩
  | cons delivery rest ih =>
    have harises := stream.arises_meet delivery
    have hbefore := stream.before_meet delivery
    rw [history, untilCompletion, fromCompletion]
    cases hmatch : (stream.meet delivery).event.completes token with
    | false =>
      have hwait := harises.eq_of_awaitingCall (by rwa [hbefore]) hmatch
      rw [hbefore] at hwait
      rw [List.takeWhile_cons_of_pos (by rw [hmatch]; rfl),
        List.dropWhile_cons_of_pos (by rw [hmatch]; rfl), hwait.1]
      refine ⟨?_, ih.2⟩
      intro moment hmem
      cases List.mem_cons.mp hmem with
      | inl here =>
        rw [here]
        exact hwait
      | inr there => exact ih.1 moment there
    | true =>
      have hdone := harises.completed_of_awaitingCall (by rwa [hbefore]) (by rwa [hbefore]) hmatch
      rw [hbefore] at hdone
      rw [List.takeWhile_cons_of_neg (by rw [hmatch]; exact nofun),
        List.dropWhile_cons_of_neg (by rw [hmatch]; exact nofun), hdone.1]
      refine ⟨fun _ hmem => absurd hmem List.not_mem_nil, ?_, ?_⟩
      · intro moment hmem
        rw [← Option.some.inj hmem]
        exact hdone
      · exact history_of_completed rfl rest

/-- A cluster call is resumed exactly once. From the moment that starts it, the
relaying stream waits with its headers as they were until the first completion
with its token: every phase is told to pause, and nothing is called. That completion
answers the request once and finishes the stream, and behind it nothing is called
any more. -/
theorem resumes_exactly_once {deliveries : List (Delivery σ)} {earlier later : List Moment}
    {start : Moment} (hsplit : stream.history deliveries = earlier ++ start :: later)
    (hstart : token ∈ start.dispatched) :
    ((∃ relay, start.before.behavior = .callRelay relay) ∧ start.dispatched = [token] ∧
      (∃ made, start.calls.getLast? = some made ∧ made.kind = .dispatch) ∧
      start.after = { start.before with state := .awaitingCall token } ∧
      start.action = some .pause) ∧
    (∀ moment ∈ untilCompletion token later,
      moment.after = start.after ∧ moment.calls = [] ∧
        ∀ phase, moment.event = .phase phase → moment.action = some .pause) ∧
    (∀ moment ∈ (fromCompletion token later).head?,
      moment.after = { start.before with state := .completed } ∧ AnswersOnce moment.trace) ∧
    (∀ moment ∈ (fromCompletion token later).tail,
      moment.after = { start.before with state := .completed } ∧ moment.calls = []) := by
  obtain ⟨past, delivery, rest, -, -, hmeet, hlater⟩ := split_of_history hsplit
  have harises : start.Arises delivery.counters := hmeet ▸ arises_meet _ delivery
  have hbegin := harises.awaitingCall_of_dispatched hstart
  obtain ⟨relay, hrelay⟩ := hbegin.1
  have hafter := hbegin.2.2.2.1
  have hstate : start.after.state = .awaitingCall token := by rw [hafter]
  have hbehavior : start.after.behavior = .callRelay relay := by rw [hafter, ← hrelay]
  have hrest := history_of_awaitingCall hstate hbehavior rest
  rw [← hlater] at hrest
  have hfinal : ({ start.after with state := .completed } : Stream) =
      { start.before with state := .completed } := by
    rw [hafter]
  rw [hfinal] at hrest
  exact ⟨hbegin, hrest⟩

/-- A call without body, started under a blank proxy. -/
def sampleStart : Delivery World :=
  ⟨.phase (.requestBody 0 true), .zero, Proxy.host, ⟨.blank, 1⟩⟩

/-- A late phase, a stray completion, and twice the completion of the first call, under
a proxy that refuses to answer. -/
def sampleRest : List (Delivery World) :=
  let refusing : World := ⟨{ Proxy.blank with failures := [⟨.respond, none, .badArgument⟩] }, 2⟩
  [.phase .requestHeaders, .completion ⟨2, 1, 0, 0⟩, .completion ⟨1, 1, 0, 0⟩,
    .completion ⟨1, 1, 0, 0⟩].map fun event => ⟨event, .zero, Proxy.host, refusing⟩

/-- The sample waits through two moments, lets its request go on in the third, and
calls nothing in the fourth. -/
theorem sample_resumes_exactly_once :
    let start := (Stream.new 7 (.callRelay ⟨"cluster", "/", []⟩)).meet sampleStart
    let later := start.after.history sampleRest
    (1 ∈ start.dispatched ∧ (untilCompletion 1 later).length = 2 ∧
      (fromCompletion 1 later).length = 2) ∧
    (∀ moment ∈ untilCompletion 1 later, moment.after = start.after ∧ moment.calls = []) ∧
    (∀ moment ∈ (fromCompletion 1 later).head?, AnswersOnce moment.trace) ∧
    (∀ moment ∈ (fromCompletion 1 later).tail, moment.calls = []) := by
  intro start later
  have hstart : 1 ∈ start.dispatched := by decide
  have hall : (Stream.new 7 (.callRelay ⟨"cluster", "/", []⟩)).history (sampleStart :: sampleRest) =
      [] ++ start :: later := rfl
  have h := resumes_exactly_once hall hstart
  exact ⟨⟨hstart, by decide, by decide⟩, fun moment hmem => ⟨(h.2.1 moment hmem).1,
    (h.2.1 moment hmem).2.1⟩, fun moment hmem => (h.2.2.1 moment hmem).2,
    fun moment hmem => (h.2.2.2 moment hmem).2⟩

end Stream

end ProxyFilter
