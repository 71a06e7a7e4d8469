import ProxyFilter.Proofs.Behavior.Effects

/-!
# Histories of a stream

A stream meets one event after the other. What surrounds an event is left open:
the proxy, its state and the counters may be others at every event, as other
streams and the timer change them in between. A moment is one event with all that
came of it, and a history is the row of moments of a whole run. Which moments can
arise at all is listed once, behind the gate of the stream.
-/

namespace ProxyFilter

open Dialogue

/-- What a stream receives. -/
inductive Event where
  /-- A phase of the request or the response. -/
  | phase (phase : Phase)
  /-- The end of a cluster call. -/
  | completion (completion : Completion)
  deriving DecidableEq, Repr

/-- Whether an event completes the cluster call with a token. -/
def Event.completes (token : UInt32) : Event → Bool
  | .phase _ => false
  | .completion received => received.token == token

/-- An event with all that surrounds it. -/
structure Delivery (σ : Type) where
  /-- The event. -/
  event : Event
  /-- The counters that the stream sees. -/
  counters : Counters
  /-- How the proxy replies. -/
  host : Host σ
  /-- The state of the proxy. -/
  world : σ

/-- An event with all that came of it. -/
structure Moment where
  /-- The event. -/
  event : Event
  /-- The stream before the event. -/
  before : Stream
  /-- The stream afterwards. -/
  after : Stream
  /-- The counters afterwards. -/
  counters : Counters
  /-- What the proxy is told, which it is after phases only. -/
  action : Option Action
  /-- All that happened, in order. -/
  trace : List TraceEntry

namespace Moment

/-- The calls of a moment in order, failed ones included. -/
def calls (moment : Moment) : List Call := TraceEntry.calls moment.trace

/-- The tokens of the cluster calls that a moment starts. -/
def dispatched (moment : Moment) : List UInt32 := TraceEntry.dispatched moment.trace

/-- The moments that can arise under given counters. -/
inductive Arises (counters : Counters) : Moment → Prop where
  /-- A phase meets a stream that waits for a cluster call. -/
  | suspended (stream : Stream) (phase : Phase) (token : UInt32)
      (hstate : stream.state = .awaitingCall token) :
    Arises counters ⟨.phase phase, stream, stream, counters, some .pause, []⟩
  /-- A phase meets a stream that is finished. -/
  | ended (stream : Stream) (phase : Phase) (hstate : stream.state = .completed) :
    Arises counters ⟨.phase phase, stream, stream, counters, some .proceed, []⟩
  /-- A phase is let through to the behavior. -/
  | reacted (stream : Stream) (phase : Phase) (trace : List TraceEntry) (reaction : Reaction)
      (hopen : stream.state.gate? = none)
      (hreacts : Behavior.Reacts stream.id counters stream.behavior phase trace reaction) :
    Arises counters ⟨.phase phase, stream,
      ⟨stream.id, reaction.behavior, reaction.outcome.state⟩, reaction.counters,
      some reaction.outcome.action, trace⟩
  /-- A completion meets a stream that does not wait for it. -/
  | stray (stream : Stream) (completion : Completion)
      (hstate : stream.state ≠ .awaitingCall completion.token) :
    Arises counters ⟨.completion completion, stream, stream, counters, none,
      [.noted ⟨some stream.id, .strayCompletion completion.token stream.state⟩]⟩
  /-- The completion that the stream waits for is relayed. -/
  | relayed (stream : Stream) (completion : Completion) (relay : CallRelay)
      (trace : List TraceEntry) (hstate : stream.state = .awaitingCall completion.token)
      (hbehavior : stream.behavior = .callRelay relay)
      (hrelays : Behavior.Relays stream.id relay completion.headers completion.bodySize trace) :
    Arises counters ⟨.completion completion, stream, { stream with state := .completed },
      counters, none, .noted ⟨some stream.id,
        .callCompleted completion.token completion.headers completion.bodySize⟩ :: trace⟩
  /-- The completion that the stream waits for means nothing to its behavior. -/
  | unrelayed (stream : Stream) (completion : Completion)
      (hstate : stream.state = .awaitingCall completion.token)
      (hbehavior : stream.behavior.kind ≠ .callRelay) :
    Arises counters ⟨.completion completion, stream, { stream with state := .completed },
      counters, none, [.noted ⟨some stream.id,
        .callCompleted completion.token completion.headers completion.bodySize⟩]⟩

variable {counters : Counters} {moment : Moment}

/-- Nothing moves a finished stream, and it calls nothing. -/
theorem Arises.eq_of_completed (h : moment.Arises counters)
    (hstate : moment.before.state = .completed) :
    moment.after = moment.before ∧ moment.calls = [] := by
  cases h with
  | ended | stray => exact ⟨rfl, rfl⟩
  | _ => grind [StreamState.gate?]

/-- Whether every moment keeps a property of its stream. -/
def Keeps (kept : Stream → Prop) : Prop :=
  ∀ (counters : Counters) (moment : Moment), moment.Arises counters →
    kept moment.before → kept moment.after

end Moment

namespace Stream

variable {σ : Type}

/-- Meet one event. -/
def meet (stream : Stream) (delivery : Delivery σ) : Moment :=
  match delivery.event with
  | .phase phase =>
    let run := (stream.onPhase delivery.counters phase).run delivery.host delivery.world
    ⟨.phase phase, stream, run.value.2.1, run.value.2.2, some run.value.1, run.trace⟩
  | .completion completion =>
    let run := (stream.onCompletion completion).run delivery.host delivery.world
    ⟨.completion completion, stream, run.value, delivery.counters, none, run.trace⟩

/-- The moments of a row of deliveries. -/
def history (stream : Stream) : List (Delivery σ) → List Moment
  | [] => []
  | delivery :: rest => stream.meet delivery :: (stream.meet delivery).after.history rest

/-- The stream behind a row of deliveries. -/
def through (stream : Stream) : List (Delivery σ) → Stream
  | [] => stream
  | delivery :: rest => (stream.meet delivery).after.through rest

/-- A moment begins with its stream. -/
@[simp] theorem before_meet (stream : Stream) (delivery : Delivery σ) :
    (stream.meet delivery).before = stream := by
  unfold meet
  split <;> rfl

/-- A moment is that of its event. -/
@[simp] theorem event_meet (stream : Stream) (delivery : Delivery σ) :
    (stream.meet delivery).event = delivery.event := by
  unfold meet
  split
  · next hevent => exact hevent.symm
  · next hevent => exact hevent.symm

/-- Behind some deliveries a stream meets the others as it stands by then. -/
theorem through_append (stream : Stream) (past rest : List (Delivery σ)) :
    stream.through (past ++ rest) = (stream.through past).through rest := by
  induction past generalizing stream with
  | nil => rfl
  | cons delivery past ih => exact ih _

/-- A history goes on behind its beginning. -/
theorem history_append (stream : Stream) (past rest : List (Delivery σ)) :
    stream.history (past ++ rest) = stream.history past ++ (stream.through past).history rest := by
  induction past generalizing stream with
  | nil => rfl
  | cons delivery past ih => exact congrArg (List.cons _) (ih _)

/-- A moment of a history is met by the stream as it stands by then, and the rest
of the history goes on from it. -/
theorem split_of_history {stream : Stream} {deliveries : List (Delivery σ)}
    {earlier later : List Moment} {moment : Moment}
    (h : stream.history deliveries = earlier ++ moment :: later) :
    ∃ past delivery rest, deliveries = past ++ delivery :: rest ∧
      earlier = stream.history past ∧ moment = (stream.through past).meet delivery ∧
      later = moment.after.history rest := by
  induction earlier generalizing stream deliveries with
  | nil =>
    cases deliveries with
    | nil => cases h
    | cons delivery rest =>
      obtain ⟨rfl, rfl⟩ := List.cons.inj h
      exact ⟨[], delivery, rest, rfl, rfl, rfl, rfl⟩
  | cons first earlier ih =>
    cases deliveries with
    | nil => cases h
    | cons delivery rest =>
      obtain ⟨rfl, htail⟩ := List.cons.inj h
      obtain ⟨past, here, future, rfl, rfl, hmoment, hlater⟩ := ih htail
      exact ⟨delivery :: past, here, future, rfl, rfl, hmoment, hlater⟩

/-- Every course of a phase is a moment that can arise. -/
theorem arises_of_phase {stream after : Stream} {counters left : Counters} {phase : Phase}
    {trace : List TraceEntry} {action : Action}
    (h : (stream.onPhase counters phase).Course trace (action, after, left)) :
    Moment.Arises counters ⟨.phase phase, stream, after, left, some action, trace⟩ := by
  obtain ⟨id, behavior, state⟩ := stream
  unfold Stream.onPhase at h
  cases state with
  | awaitingCall token =>
    obtain ⟨rfl, hvalue⟩ := course_pure h
    cases hvalue
    exact .suspended _ phase token rfl
  | completed =>
    obtain ⟨rfl, hvalue⟩ := course_pure h
    cases hvalue
    exact .ended _ phase rfl
  | running | awaitingBody =>
    obtain ⟨reaction, opening, ending, rfl, hreaction, hrest⟩ := course_bind h
    obtain ⟨rfl, hvalue⟩ := course_pure hrest
    cases hvalue
    rw [List.append_nil]
    exact .reacted _ phase opening reaction rfl (Behavior.reacts_of_course hreaction)

/-- Every course of a completion is a moment that can arise. -/
theorem arises_of_completion {stream after : Stream} {counters : Counters}
    {completion : Completion} {trace : List TraceEntry}
    (h : (stream.onCompletion completion).Course trace after) :
    Moment.Arises counters ⟨.completion completion, stream, after, counters, none, trace⟩ := by
  obtain ⟨id, behavior, state⟩ := stream
  unfold Stream.onCompletion at h
  split at h
  · next hstate =>
    obtain ⟨tail, rfl, htail⟩ := course_say_bind h
    obtain ⟨_, opening, ending, rfl, hbehavior, hrest⟩ := course_bind htail
    obtain ⟨rfl, rfl⟩ := course_pure hrest
    rw [List.append_nil]
    cases behavior with
    | callRelay relay =>
      exact .relayed _ completion relay opening hstate rfl (Behavior.relays_of_course hbehavior)
    | _ =>
      obtain ⟨rfl, -⟩ := course_pure hbehavior
      exact .unrelayed _ completion hstate nofun
  · next hstate =>
    obtain ⟨tail, rfl, htail⟩ := course_say_bind h
    obtain ⟨rfl, rfl⟩ := course_pure htail
    exact .stray _ completion hstate

/-- Every moment that is met is one that can arise. -/
theorem arises_meet (stream : Stream) (delivery : Delivery σ) :
    (stream.meet delivery).Arises delivery.counters := by
  unfold meet
  split
  · exact arises_of_phase (course_run delivery.host _ delivery.world)
  · exact arises_of_completion (course_run delivery.host _ delivery.world)

/-- What every moment keeps, a stream keeps behind any row of deliveries. -/
theorem keeps_through {kept : Stream → Prop} (hkept : Moment.Keeps kept) {stream : Stream}
    (hstream : kept stream) (past : List (Delivery σ)) : kept (stream.through past) := by
  induction past generalizing stream with
  | nil => exact hstream
  | cons delivery rest ih =>
    have harises := stream.arises_meet delivery
    have hbefore : kept (stream.meet delivery).before := by rwa [before_meet]
    exact ih (hkept _ _ harises hbefore)

end Stream

end ProxyFilter
