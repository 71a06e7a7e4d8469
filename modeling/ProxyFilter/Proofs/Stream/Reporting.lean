import ProxyFilter.Proofs.Behavior.Failures
import ProxyFilter.Proofs.Stream.History

/-!
# What a stream reports of failures

A stream writes one error for each of its calls that fails, in the order of the failures, and
one more where the completion that it waits for has come without any header. It warns of a
completion that it does not wait for, and of a response that should have been numbered before,
and of nothing else.
-/

namespace ProxyFilter

open Dialogue TraceEntry

/-- The outcome that leaves a stream waiting for a cluster call. -/
theorem Outcome.eq_awaitCall_of_state {outcome : Outcome} {token : UInt32}
    (h : outcome.state = .awaitingCall token) : outcome = .awaitCall token := by
  cases outcome with
  | awaitCall held =>
    cases h
    rfl
  | _ => cases h

/-- Only a stream that relays waits for a cluster call. -/
def Stream.WaitsToRelay (stream : Stream) : Prop :=
  ∀ token, stream.state = .awaitingCall token → ∃ relay, stream.behavior = .callRelay relay

/-- Every moment leaves only a stream that relays waiting for a cluster call. -/
theorem Moment.keeps_waitsToRelay : Moment.Keeps Stream.WaitsToRelay := by
  intro counters moment harises hbefore token hstate
  cases harises with
  | suspended | ended | stray => exact hbefore token hstate
  | relayed | unrelayed => cases hstate
  | reacted stream phase trace reaction hopen hreacts =>
    have hwait : reaction.outcome = .awaitCall token := Outcome.eq_awaitCall_of_state hstate
    obtain ⟨hrelay, hsame, -⟩ := Behavior.relaying_of_reacts hreacts hwait
    rwa [hsame]

/-- No moment changes the number by which a stream is known. -/
theorem Moment.keeps_id (id : UInt32) : Moment.Keeps fun stream => stream.id = id := by
  intro counters moment harises hbefore
  cases harises <;> exact hbefore

namespace Stream

/-- Whether an event is the completion that a stream waits for, without any header. -/
def loses (stream : Stream) : Event → Bool
  | .phase _ => false
  | .completion completion =>
    stream.state == .awaitingCall completion.token && completion.headers == 0

/-- The error that a stream owes to an event, apart from failures: that its cluster call has
failed. -/
def losses (stream : Stream) (event : Event) : List Record :=
  match stream.behavior with
  | .callRelay relay =>
    if stream.loses event then [⟨some stream.id, .callFailed relay.cluster⟩] else []
  | _ => []

/-- The warnings that a stream owes to an event: that it does not wait for a completion, or
that a response it lets through should have been numbered before. -/
def warnings (stream : Stream) : Event → List Record
  | .phase phase =>
    if stream.state.gate? = none ∧ stream.behavior.isEarly phase = true then
      [⟨some stream.id, .responseBeforeRequest⟩]
    else []
  | .completion completion =>
    if stream.state = .awaitingCall completion.token then []
    else [⟨some stream.id, .strayCompletion completion.token stream.state⟩]

/-- A stream loses nothing by a phase. -/
theorem losses_phase (stream : Stream) (phase : Phase) : stream.losses (.phase phase) = [] := by
  unfold losses
  split <;> rfl

/-- A stream that waits for no such call loses nothing. -/
theorem losses_of_loses {stream : Stream} {event : Event} (h : stream.loses event = false) :
    stream.losses event = [] := by
  unfold losses
  split
  · rw [if_neg (Bool.eq_false_iff.mp h)]
  · rfl

/-- A stream that relays whenever it waits writes one record of a call that it loses. -/
theorem length_losses {stream : Stream} (h : stream.WaitsToRelay) (event : Event) :
    (stream.losses event).length = if stream.loses event then 1 else 0 := by
  cases hloses : stream.loses event with
  | false => rw [losses_of_loses hloses]; rfl
  | true =>
    cases event with
    | phase phase => cases hloses
    | completion completion =>
      have hstate : stream.state = .awaitingCall completion.token :=
        eq_of_beq (Bool.and_eq_true_iff.mp hloses).1
      obtain ⟨relay, hrelay⟩ := h completion.token hstate
      simp only [losses, hrelay, hloses, reduceIte, List.length_singleton]

/-- A stream warns under its own number. -/
theorem stream_of_warnings {stream : Stream} {event : Event} {record : Record}
    (h : record ∈ stream.warnings event) : record.stream = some stream.id := by
  unfold warnings at h
  cases event with
  | phase phase =>
    dsimp only at h
    split at h
    · rw [List.mem_singleton.mp h]
    · cases h
  | completion completion =>
    dsimp only at h
    split at h
    · cases h
    · rw [List.mem_singleton.mp h]

/-- A stream speaks of a call that it loses under its own number. -/
theorem stream_of_losses {stream : Stream} {event : Event} {record : Record}
    (h : record ∈ stream.losses event) : record.stream = some stream.id := by
  unfold losses at h
  split at h
  · split at h
    · rw [List.mem_singleton.mp h]
    · cases h
  · cases h

end Stream

/-- The record that a completion without headers begins with is the loss of its stream. -/
theorem CallRelay.warning_eq_losses {stream : Stream} {relay : CallRelay}
    {completion : Completion} (hstate : stream.state = .awaitingCall completion.token)
    (hbehavior : stream.behavior = .callRelay relay) :
    recordsAt .error (relay.warning stream.id completion.headers) =
        stream.losses (.completion completion) ∧
      recordsAt .warn (relay.warning stream.id completion.headers) = [] ∧
      reportable (relay.warning stream.id completion.headers) = [] := by
  have hloses : stream.loses (.completion completion) = (completion.headers == 0) := by
    simp only [Stream.loses, hstate, beq_self_eq_true, Bool.true_and]
  by_cases hzero : completion.headers = 0
  · simp only [warning, Stream.losses, hbehavior, hloses, hzero, beq_self_eq_true, reduceIte]
    exact ⟨rfl, rfl, rfl⟩
  · have hnone : (completion.headers == 0) = false := beq_false_of_ne hzero
    simp only [warning, Stream.losses, hbehavior, hloses, hnone, hzero, reduceIte]
    exact ⟨rfl, rfl, rfl⟩

namespace Moment

variable {counters : Counters} {moment : Moment}

/-- The errors of a moment are the loss of its stream and one for each failure, and its
warnings are those that the stream owes. -/
theorem Arises.records (h : moment.Arises counters) (hwaits : moment.before.WaitsToRelay) :
    recordsAt .error moment.trace = moment.before.losses moment.event ++
        (reportable moment.trace).map (Record.ofFailure moment.before.id) ∧
      recordsAt .warn moment.trace = moment.before.warnings moment.event := by
  cases h with
  | suspended stream phase token hstate | ended stream phase hstate =>
    refine ⟨by rw [stream.losses_phase]; rfl, ?_⟩
    simp only [Stream.warnings, hstate, StreamState.gate?, reduceCtorEq, false_and, reduceIte]
    rfl
  | reacted stream phase trace reaction hopen hreacts =>
    rw [stream.losses_phase, List.nil_append]
    cases hearly : stream.behavior.isEarly phase with
    | true =>
      rw [Behavior.trace_of_isEarly hreacts hearly]
      simp only [Stream.warnings, hopen, hearly, and_self, reduceIte]
      exact ⟨rfl, rfl⟩
    | false =>
      have htells := Behavior.tells_of_reacts hreacts hearly
      refine ⟨htells.errors, ?_⟩
      simp only [Stream.warnings, hearly, Bool.false_eq_true, and_false, reduceIte]
      exact htells.warnings
  | stray stream completion hstate =>
    have hkept : stream.loses (.completion completion) = false := by
      simp only [Stream.loses, beq_false_of_ne hstate, Bool.false_and]
    rw [Stream.losses_of_loses hkept]
    simp only [Stream.warnings, hstate, reduceIte]
    exact ⟨rfl, rfl⟩
  | relayed stream completion relay trace hstate hbehavior hrelays =>
    obtain ⟨rest, rfl, htells⟩ := Behavior.tells_of_relays hrelays
    obtain ⟨herrors, hwarnings, hreports⟩ := CallRelay.warning_eq_losses hstate hbehavior
    have hdebug : Record.level ⟨some stream.id, .callCompleted completion.token completion.headers
      completion.bodySize⟩ = .debug := rfl
    simp only [recordsAt_noted, hdebug, reportable_noted, recordsAt_append, reportable_append,
      herrors, hwarnings, hreports, htells.errors, htells.warnings, reduceCtorEq, reduceIte,
      List.nil_append, Stream.warnings, hstate, and_self]
  | unrelayed stream completion hstate hbehavior =>
    obtain ⟨relay, hrelay⟩ := hwaits completion.token hstate
    rw [hrelay] at hbehavior
    exact absurd rfl hbehavior

end Moment

namespace Stream

/-- Every failure is told once. Whatever a new stream has met, the errors of its next event are
the loss of its cluster call, if it is lost, and behind that one for each call that fails and is
not passed over in silence, in the order of the failures and under the number of the stream. The
warnings are those that the stream owes to the event. -/
theorem failures_are_told_once {σ : Type} (id : UInt32) (config : Config)
    (past : List (Delivery σ)) (delivery : Delivery σ) :
    let stream := (Stream.new id (.ofConfig config)).through past
    let moment := stream.meet delivery
    let errors := recordsAt .error moment.trace
    errors = stream.losses delivery.event ++
        (reportable moment.trace).map (Record.ofFailure id) ∧
      errors.length =
        (reportable moment.trace).length + (if stream.loses delivery.event then 1 else 0) ∧
      (∀ record ∈ errors, record.stream = some id) ∧
      recordsAt .warn moment.trace = stream.warnings delivery.event ∧
      ∀ record ∈ stream.warnings delivery.event, record.stream = some id := by
  intro stream moment errors
  have hnew : (Stream.new id (.ofConfig config)).WaitsToRelay := nofun
  have hwaits : stream.WaitsToRelay := keeps_through Moment.keeps_waitsToRelay hnew past
  have hid : stream.id = id := keeps_through (Moment.keeps_id id) rfl past
  have hevent : moment.event = delivery.event := event_meet stream delivery
  have hbefore : moment.before = stream := before_meet stream delivery
  have harises : moment.Arises delivery.counters := stream.arises_meet delivery
  have hrecords := harises.records (by rwa [hbefore])
  rw [hevent, hbefore, hid] at hrecords
  obtain ⟨htold, hwarnings⟩ := hrecords
  have herrors : errors = stream.losses delivery.event ++
      (reportable moment.trace).map (Record.ofFailure id) := htold
  refine ⟨herrors, ?_, ?_, hwarnings, ?_⟩
  · rw [herrors, List.length_append, List.length_map, length_losses hwaits, Nat.add_comm]
  · intro record hmem
    rw [herrors] at hmem
    cases List.mem_append.mp hmem with
    | inl hloss => rw [stream_of_losses hloss, hid]
    | inr hreport =>
      obtain ⟨failure, -, rfl⟩ := List.mem_map.mp hreport
      rfl
  · intro record hmem
    rw [stream_of_warnings hmem, hid]

end Stream

end ProxyFilter
