import ProxyFilter.Proofs.Behavior.Counting
import ProxyFilter.Proofs.Session.Numbering

/-!
# How events are received in a session

Phases and completions are received alike, with a gate or without one: something arrives at
the proxy, what is live meets the event, and what is left of both is kept. What an event
looks at in a session, and what it leaves alone, follows from that once for all events.
-/

namespace ProxyFilter

open Dialogue TraceEntry

/-- What arrives for something live. -/
inductive Input where
  /-- A phase. -/
  | arrival (arrival : Arrival)
  /-- The answer to a cluster call. -/
  | response (response : CallResponse)
  deriving DecidableEq, Repr

namespace Input

/-- The proxy after an input has arrived, and the event that it delivers. -/
def arrive (proxy : Proxy) : Input → Proxy × Event
  | .arrival part => ((part.arrive proxy).1, .phase (part.arrive proxy).2)
  | .response answer => ((answer.arrive proxy).1, .completion (answer.arrive proxy).2)

/-- The step that lets an input arrive. -/
def step (id : UInt32) : Input → Step
  | .arrival part => .arrival id part
  | .response answer => .callResponse id answer

end Input

/-- What an event comes to for what is live. -/
structure Reception where
  /-- The answer, given the calls of the event. -/
  answer : List Call → Answer
  /-- What is live afterwards. -/
  actor : Actor
  /-- The counters afterwards. -/
  counters : Counters

namespace Actor

/-- The behavior of what is live. -/
def behavior : Actor → Behavior
  | .stream self => self.behavior
  | .bare _ self => self

/-- Meet an event. -/
def meet (actor : Actor) (counters : Counters) (event : Event) : Dialogue Reception :=
  match actor, event with
  | .stream self, .phase phase => do
    let left ← self.onPhase counters phase
    return ⟨fun calls => .phase calls left.1 left.2.1.state, .stream left.2.1, left.2.2⟩
  | .stream self, .completion completion => do
    let left ← self.onCompletion completion
    return ⟨fun calls => .completion calls (some left.state), .stream left, counters⟩
  | .bare speaker self, .phase phase => do
    let left ← self.onPhase speaker counters phase
    return ⟨fun calls => .outcome calls left.outcome, .bare speaker left.behavior, left.counters⟩
  | .bare speaker self, .completion completion => do
    let _ ← self.onCompletion speaker completion
    return ⟨fun calls => .completion calls none, .bare speaker self, counters⟩

/-- Whether an event takes a number from the counters. -/
def takesNumber (actor : Actor) : Event → Bool
  | .phase phase => actor.behavior.takesNumber phase
  | .completion _ => false

/-- Whether an event looks at the number of firings. -/
def readsTicks (actor : Actor) : Event → Bool
  | .phase phase => actor.behavior.readsTicks phase
  | .completion _ => false

end Actor

section

variable {σ : Type} {actor : Actor} {event : Event} {counters other : Counters}

/-- Under counters that agree on what a phase looks at, a stream meets it the same way. -/
theorem Stream.run_onPhase_counters {stream : Stream} {phase : Phase}
    (hrequests : stream.behavior.takesNumber phase = true → other.requests = counters.requests)
    (hticks : stream.behavior.readsTicks phase = true → other.ticks = counters.ticks)
    (host : Host σ) (world : σ) :
    let run := (stream.onPhase counters phase).run host world
    (stream.onPhase other phase).run host world =
      { run with value := (run.value.1, run.value.2.1,
        other.withRequests run.value.2.2 (stream.behavior.takesNumber phase)) } := by
  unfold Stream.onPhase
  cases stream.state.gate? with
  | some action =>
    have hkept : other = other.withRequests counters (stream.behavior.takesNumber phase) := by
      unfold Counters.withRequests
      split
      · next htakes => rw [← hrequests htakes]
      · rfl
    exact congrArg (fun left => Run.mk (action, stream, left) world []) hkept
  | none =>
    simp only [run_bind_pure, Behavior.run_onPhase_counters hrequests hticks]

/-- Under counters that agree on what an event looks at, it is met the same way. -/
theorem Actor.run_meet_counters
    (hrequests : actor.takesNumber event = true → other.requests = counters.requests)
    (hticks : actor.readsTicks event = true → other.ticks = counters.ticks)
    (host : Host σ) (world : σ) :
    let run := (actor.meet counters event).run host world
    (actor.meet other event).run host world =
      { run with value := { run.value with
        counters := other.withRequests run.value.counters (actor.takesNumber event) } } := by
  cases event with
  | phase phase =>
    cases actor with
    | stream stream =>
      have hsame := stream.run_onPhase_counters hrequests hticks host world
      simp only [meet, run_bind_pure, hsame]
      rfl
    | bare speaker behavior =>
      have hsame := behavior.run_onPhase_counters hrequests hticks host speaker world
      simp only [meet, run_bind_pure, hsame]
      rfl
  | completion completion =>
    cases actor with
    | stream | bare =>
      simp only [meet, run_bind_pure]
      rfl

/-- A phase starts one cluster call at most. -/
theorem Behavior.length_dispatched_of_reacts {id : UInt32} {behavior : Behavior} {phase : Phase}
    {trace : List TraceEntry} {reaction : Reaction}
    (h : Reacts id counters behavior phase trace reaction) : (dispatched trace).length ≤ 1 := by
  rw [dispatched_of_reacts h]
  cases reaction.outcome.token? with
  | none => exact Nat.zero_le 1
  | some token => exact Nat.le_refl 1

/-- A moment starts one cluster call at most. -/
theorem Moment.Arises.length_dispatched {moment : Moment} (h : moment.Arises counters) :
    moment.dispatched.length ≤ 1 := by
  cases h with
  | reacted stream phase trace reaction hopen hreacts =>
    exact Behavior.length_dispatched_of_reacts hreacts
  | relayed stream completion relay trace hstate hbehavior hrelays =>
    rw [Moment.dispatched, dispatched_noted, Behavior.dispatched_of_relays hrelays]
    exact Nat.zero_le 1
  | _ => exact Nat.zero_le 1

/-- An event starts one cluster call at most. -/
theorem Actor.length_dispatched (actor : Actor) (counters : Counters) (event : Event)
    (host : Host σ) (world : σ) :
    (dispatched ((actor.meet counters event).run host world).trace).length ≤ 1 := by
  cases actor with
  | stream stream =>
    have hmoment := (stream.arises_meet ⟨event, counters, host, world⟩).length_dispatched
    cases event with
    | phase | completion =>
      simp only [meet, run_bind_pure]
      exact hmoment
  | bare speaker behavior =>
    cases event with
    | phase phase =>
      have hreacts := Behavior.reacts_of_course
        (course_run host (behavior.onPhase speaker counters phase) world)
      simp only [meet, run_bind_pure]
      exact Behavior.length_dispatched_of_reacts hreacts
    | completion completion =>
      simp only [meet, run_bind_pure]
      cases behavior with
      | callRelay relay =>
        have hrelays := Behavior.relays_of_course (course_run host
          (relay.onCompletion speaker completion.headers completion.bodySize) world)
        rw [Behavior.onCompletion, Behavior.dispatched_of_relays hrelays]
        exact Nat.zero_le 1
      | _ => exact Nat.zero_le 1

end

namespace Session

variable (session : Session) (host : Host World) (id : UInt32) (live : Live)

/-- Let an input arrive for what is live, and keep what it comes to. -/
def receive (input : Input) : Report × Session :=
  let (proxy, event) := input.arrive live.proxy
  let run := (live.actor.meet (session.counters live.owner) event).run host (session.world proxy)
  (⟨run.value.answer run.calls, run.records⟩,
    session.keep id live run.value.actor run.world run.value.counters)

/-- A phase is delivered as it is received. -/
theorem deliver_eq_receive (part : Arrival) :
    session.deliver host id live part = session.receive host id live (.arrival part) := by
  unfold deliver receive
  cases live.actor with
  | stream | bare =>
    simp only [Input.arrive, Actor.meet, run_bind_pure]
    rfl

/-- A completion is delivered as it is received. -/
theorem complete_eq_receive (answer : CallResponse) :
    session.complete host id live answer = session.receive host id live (.response answer) := by
  unfold complete receive
  cases live.actor with
  | stream | bare =>
    simp only [Input.arrive, Actor.meet, run_bind_pure]
    rfl

/-- A step that lets something arrive is received by what is live. -/
theorem commonStep_input (input : Input) :
    session.commonStep host (input.step id) =
      session.withLive id fun live => session.receive host id live input := by
  cases input with
  | arrival part => simp only [Input.step, commonStep, deliver_eq_receive]
  | response answer => simp only [Input.step, commonStep, complete_eq_receive]

/-- What arrives for a stream is met by it, and what is left of it is kept. -/
theorem commonStep_arrival {session : Session} {id : UInt32} {stream : Stream} {owner : Owner}
    {proxy : Proxy} (hlive : session.streams.get? id = some ⟨.stream stream, owner, proxy⟩)
    (host : Host World) (part : Arrival) :
    let run := (stream.onPhase (session.counters owner) (part.arrive proxy).2).run host
      (session.world (part.arrive proxy).1)
    session.commonStep host (.arrival id part) =
      (⟨.phase run.calls run.value.1 run.value.2.1.state, run.records⟩,
        session.keep id ⟨.stream stream, owner, proxy⟩ (.stream run.value.2.1) run.world
          run.value.2.2) :=
  withLive_of_some hlive _

variable (actor : Actor) (world : World) (counters : Counters)

/-- After an event its number finds what is kept, and every other number what it found. -/
@[simp] theorem get?_streams_keep (other : UInt32) :
    (session.keep id live actor world counters).streams.get? other =
      if other = id then some ⟨actor, live.owner, world.proxy⟩ else session.streams.get? other := by
  obtain ⟨_, owner, _⟩ := live
  cases owner <;> exact Table.get?_insert _ _ _ _

/-- After an event its owner is found with the counters that are kept, and every other
plugin as it was. -/
@[simp] theorem get?_plugins_keep (number : UInt32) :
    (session.keep id live actor world counters).plugins.get? number =
      if live.owner = .plugin number then some { session.plugin number with counters }
      else session.plugins.get? number := by
  obtain ⟨_, held, _⟩ := live
  cases held with
  | shared => rfl
  | plugin other =>
    let kept := session.setStream id ⟨actor, .plugin other, world.proxy⟩
    change (kept.setPlugin other { kept.plugin other with counters }).plugins.get? number = _
    rw [setPlugin, Table.get?_insert]
    by_cases hself : number = other
    · rw [if_pos hself, if_pos (congrArg Owner.plugin hself.symm), hself]
      rfl
    · rw [if_neg hself, if_neg fun hsame => hself (Owner.plugin.inj hsame).symm]
      rfl

/-- After an event its owner has the counters that are kept, and every other plugin is as
it was. -/
@[simp] theorem plugin_keep (number : UInt32) :
    (session.keep id live actor world counters).plugin number =
      if live.owner = .plugin number then { session.plugin number with counters }
      else session.plugin number := by
  rw [Session.plugin, get?_plugins_keep]
  split <;> rfl

/-- After an event the streams without plugin have the counters that are kept, if it is one
of theirs. -/
@[simp] theorem shared_keep :
    (session.keep id live actor world counters).shared =
      if live.owner = .shared then counters else session.shared := by
  obtain ⟨_, held, _⟩ := live
  cases held <;> rfl

/-- After an event its owner has the counters that are kept, and every other owner those it
had. -/
@[simp] theorem counters_keep (owner : Owner) :
    (session.keep id live actor world counters).counters owner =
      if owner = live.owner then counters else session.counters owner := by
  cases owner with
  | shared => simp only [Session.counters, shared_keep, eq_comm]
  | plugin number =>
    simp only [Session.counters, plugin_keep, eq_comm]
    split <;> rfl

/-- How an input for something live is met in a session. -/
def meeting (session : Session) (live : Live) (input : Input) : Run World Reception :=
  let (proxy, event) := input.arrive live.proxy
  (live.actor.meet (session.counters live.owner) event).run Proxy.host (session.world proxy)

/-- A session after an input for something live. -/
def met (session : Session) (id : UInt32) (live : Live) (input : Input) : Session :=
  let run := session.meeting live input
  session.keep id live run.value.actor run.world run.value.counters

/-- The step of an input gives the report of its meeting, and keeps what the meeting left. -/
theorem commonStep_of_live {session : Session} {id : UInt32} {live : Live}
    (hlive : session.streams.get? id = some live) (input : Input) :
    let run := session.meeting live input
    session.commonStep Proxy.host (input.step id) =
      (⟨run.value.answer run.calls, run.records⟩, session.met id live input) := by
  rw [commonStep_input, withLive_of_some hlive]
  rfl

end Session

end ProxyFilter
