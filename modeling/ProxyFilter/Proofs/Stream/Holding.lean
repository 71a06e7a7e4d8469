import ProxyFilter.Proofs.Stream.History
import ProxyFilter.Proxy

/-!
# Streams are held for a reason

A phase is told to pause only while something is on its way that ends the pause: a
cluster call without its completion, more of a buffered body, or an answer that was
just sent. Whether a cluster call is on its way is read off the history of the
stream, and the state of the stream agrees with it after every event.
-/

namespace ProxyFilter

open Dialogue

/-- An outcome pauses its phase when it waits for a call or a body, or has answered. -/
theorem Outcome.action_eq_pause_iff (outcome : Outcome) :
    outcome.action = .pause ↔
      outcome.token?.toList ≠ [] ∨ outcome = .awaitBody ∨ outcome = .responded := by
  cases outcome <;> simp [Outcome.action, Outcome.token?]

/-- An outcome leaves a stream waiting for the call whose token it has. -/
theorem Outcome.state_eq_awaitingCall_iff (outcome : Outcome) (token : UInt32) :
    outcome.state = .awaitingCall token ↔ token ∈ outcome.token?.toList := by
  cases outcome <;> simp [Outcome.state, Outcome.token?, eq_comm]

namespace Moment

variable {counters : Counters} {moment : Moment} {token : UInt32} {phase : Phase}

/-- Whether a moment sends an answer. -/
def answered (moment : Moment) : Bool := TraceEntry.answered moment.trace

/-- Whether a vital call of a moment fails. -/
def setBack (moment : Moment) : Bool := TraceEntry.setBack moment.trace

/-- Whether a history has started a cluster call that it has not completed since. -/
def Outstanding (token : UInt32) (history : List Moment) : Prop :=
  ∃ earlier start later, history = earlier ++ start :: later ∧ token ∈ start.dispatched ∧
    ∀ moment ∈ later, moment.event.completes token = false

/-- Nothing is outstanding before the first moment. -/
theorem not_outstanding_nil : ¬Outstanding token [] := by
  rintro ⟨earlier, start, later, hsplit, -, -⟩
  exact absurd hsplit (List.append_ne_nil_of_right_ne_nil _ (List.cons_ne_nil _ _)).symm

/-- A call is outstanding from the first moment on or from a later one. -/
theorem outstanding_cons (history : List Moment) :
    Outstanding token (moment :: history) ↔
      (token ∈ moment.dispatched ∧ ∀ later ∈ history, later.event.completes token = false) ∨
        Outstanding token history := by
  constructor
  · rintro ⟨earlier, start, later, hsplit, hstart, hlater⟩
    cases earlier with
    | nil =>
      obtain ⟨rfl, rfl⟩ := List.cons.inj hsplit
      exact .inl ⟨hstart, hlater⟩
    | cons first earlier =>
      obtain ⟨rfl, rfl⟩ := List.cons.inj hsplit
      exact .inr ⟨earlier, start, later, rfl, hstart, hlater⟩
  · rintro (⟨hstart, hlater⟩ | ⟨earlier, start, later, rfl, hstart, hlater⟩)
    · exact ⟨[], moment, history, rfl, hstart, hlater⟩
    · exact ⟨moment :: earlier, start, later, rfl, hstart, hlater⟩

/-- A stream waits for a call when this moment starts it, or when it has waited before
and this moment does not complete the call. -/
theorem Arises.awaitingCall_iff (h : moment.Arises counters) (token : UInt32) :
    moment.after.state = .awaitingCall token ↔
      token ∈ moment.dispatched ∨
        (moment.before.state = .awaitingCall token ∧ moment.event.completes token = false) := by
  cases h with
  | reacted stream phase trace reaction hopen hreacts =>
    have hclosed : stream.state ≠ .awaitingCall token := by
      intro hstate
      rw [hstate] at hopen
      cases hopen
    rw [Moment.dispatched, Behavior.dispatched_of_reacts hreacts,
      Outcome.state_eq_awaitingCall_iff]
    simp only [hclosed, false_and, or_false]
  | relayed stream completion relay trace hstate hbehavior hrelays =>
    rw [Moment.dispatched, TraceEntry.dispatched_noted, Behavior.dispatched_of_relays hrelays]
    grind [Event.completes]
  | suspended => simp [Moment.dispatched, Event.completes]
  | ended => simp [Moment.dispatched, Event.completes]
  | stray => grind [Event.completes, Moment.dispatched]
  | unrelayed => grind [Event.completes, Moment.dispatched]

/-- A phase is told to pause exactly when the stream waits for a call before or behind
it, when the behavior waits for more of a body, or when the phase sends an answer. -/
theorem Arises.pause_iff (h : moment.Arises counters) (hphase : moment.event = .phase phase) :
    moment.action = some .pause ↔
      ((∃ token, moment.before.state = .awaitingCall token) ∨ moment.dispatched ≠ []) ∨
      (moment.before.state ≠ .completed ∧
        ∃ buffer size, moment.before.behavior.buffered? phase = some (buffer, size, false)) ∨
      moment.answered = true := by
  cases h with
  | suspended stream _ token hstate => exact ⟨fun _ => .inl (.inl ⟨token, hstate⟩), fun _ => rfl⟩
  | ended stream _ hstate => simp [hstate, Moment.dispatched, Moment.answered]
  | reacted stream _ trace reaction hopen hreacts =>
    cases hphase
    have hwaiting : ¬∃ token, stream.state = .awaitingCall token := by
      rintro ⟨token, hstate⟩
      rw [hstate] at hopen
      cases hopen
    have hgoing : stream.state ≠ .completed := by
      intro hstate
      rw [hstate] at hopen
      cases hopen
    rw [Option.some.injEq, Outcome.action_eq_pause_iff, Moment.dispatched, Moment.answered,
      Behavior.dispatched_of_reacts hreacts, Behavior.answered_of_reacts hreacts,
      Behavior.awaitBody_of_reacts hreacts]
    simp only [hwaiting, hgoing, false_or, ne_eq, not_false_eq_true, true_and]
  | _ => cases hphase

/-- After a setback a phase is told to go on. -/
theorem Arises.proceed_of_setBack (h : moment.Arises counters)
    (hphase : moment.event = .phase phase) (hback : moment.setBack = true) :
    moment.action = some .proceed := by
  cases h with
  | suspended => cases hback
  | ended => rfl
  | reacted stream _ trace reaction hopen hreacts =>
    exact congrArg some (Behavior.action_of_setBack hreacts hback)
  | _ => cases hphase

end Moment

namespace Stream

open Moment

variable {σ : Type}

/-- Behind a row of deliveries a stream waits for a call when the call is outstanding,
or when the stream has waited for it from the beginning. -/
theorem awaitingCall_through_iff (stream : Stream) (past : List (Delivery σ)) (token : UInt32) :
    (stream.through past).state = .awaitingCall token ↔
      Outstanding token (stream.history past) ∨
        (stream.state = .awaitingCall token ∧
          ∀ moment ∈ stream.history past, moment.event.completes token = false) := by
  induction past generalizing stream with
  | nil => simp [through, history, not_outstanding_nil]
  | cons delivery rest ih =>
    have hstep := (stream.arises_meet delivery).awaitingCall_iff token
    rw [before_meet] at hstep
    rw [through, history, ih, outstanding_cons, hstep, List.forall_mem_cons]
    grind

/-- No stream is held without reason. Whatever a new stream has met, a phase is told to
pause if and only if a cluster call of the stream is outstanding or is started by this
phase, or the stream is not finished and its behavior buffers a body whose end this is
not, or this phase sends an answer. So a phase in which a vital call fails goes on. -/
theorem pauses_iff (id : UInt32) (config : Config) (past : List (Delivery σ))
    (counters : Counters) (host : Host σ) (world : σ) (phase : Phase) :
    let stream := (Stream.new id (.ofConfig config)).through past
    let history := (Stream.new id (.ofConfig config)).history past
    let moment := stream.meet ⟨.phase phase, counters, host, world⟩
    (moment.action = some .pause ↔
      ((∃ token, Outstanding token history) ∨ moment.dispatched ≠ []) ∨
      (stream.state ≠ .completed ∧
        ∃ buffer size, stream.behavior.buffered? phase = some (buffer, size, false)) ∨
      moment.answered = true) ∧
    (moment.setBack = true → moment.action = some .proceed) := by
  intro stream history moment
  have harises : moment.Arises counters :=
    stream.arises_meet ⟨.phase phase, counters, host, world⟩
  have hphase : moment.event = .phase phase := rfl
  have hbefore : moment.before = stream := rfl
  have houtstanding : ∀ token, stream.state = .awaitingCall token ↔ Outstanding token history := by
    intro token
    rw [awaitingCall_through_iff]
    simp [Stream.new, history]
  have hpause := harises.pause_iff hphase
  rw [hbefore] at hpause
  simp only [houtstanding] at hpause
  exact ⟨hpause, harises.proceed_of_setBack hphase⟩

/-- A cluster call that is refused is a setback, and its phase goes on. -/
theorem refused_call_proceeds :
    let refusing : World := ⟨{ Proxy.blank with failures := [⟨.dispatch, none, .badArgument⟩] }, 1⟩
    let moment := (Stream.new 7 (.ofConfig ⟨.callRelay, "", "/", "cluster"⟩)).meet
      ⟨.phase (.requestBody 0 true), .zero, Proxy.host, refusing⟩
    moment.setBack = true ∧ moment.action = some .proceed := by
  intro refusing moment
  have hback : moment.setBack = true := by decide
  exact ⟨hback, (pauses_iff 7 ⟨.callRelay, "", "/", "cluster"⟩ ([] : List (Delivery World)) .zero
    Proxy.host refusing (.requestBody 0 true)).2 hback⟩

end Stream

end ProxyFilter
