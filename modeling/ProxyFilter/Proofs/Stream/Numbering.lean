import ProxyFilter.Proofs.Stream.History

/-!
# Numbers of single streams

What one event can do to the number of a stream, to the counters and to the headers
with numbers. A stream that numbers requests takes a number, or stamps its response
and is finished, or leaves everything as it is; any other stream never touches the
counters and adds no header at all.
-/

namespace ProxyFilter

open Dialogue TraceEntry

namespace Call

/-- The number that a call adds to the request, as text. -/
def requestStamp? : Call → Option String
  | .addRequestHeader name value =>
    if name = "x-request-counter" then some value else none
  | _ => none

/-- The number that a call adds to the response, as text. -/
def responseStamp? : Call → Option String
  | .addResponseHeader name value =>
    if name = "x-response-counter" then some value else none
  | _ => none

/-- Whether a call adds a header to the request or the response. -/
def addsHeader (call : Call) : Bool :=
  call.kind == .addRequestHeader || call.kind == .addResponseHeader

/-- A call that adds no header stamps nothing. -/
theorem stamps_of_addsHeader {call : Call} (h : call.addsHeader = false) :
    call.requestStamp? = none ∧ call.responseStamp? = none := by
  cases call with
  | addRequestHeader name value => cases h
  | addResponseHeader name value => cases h
  | _ => exact ⟨rfl, rfl⟩

end Call

/-- The number of a stream is the one it has, or else the next one of the counters. -/
theorem RequestNumbering.take_number (self : RequestNumbering) (counters : Counters) :
    (self.take counters).1 = self.number.getD (counters.requests + 1) := by
  obtain ⟨_ | number⟩ := self <;> rfl

/-- Only a stream without a number takes one from the counters. -/
theorem RequestNumbering.take_requests (self : RequestNumbering) (counters : Counters) :
    (self.take counters).2.requests =
      if self.number.isSome then counters.requests else counters.requests + 1 := by
  obtain ⟨_ | number⟩ := self <;> rfl

/-- The number of a behavior, if it has one. -/
def Behavior.number? : Behavior → Option Nat
  | .requestNumbering self => self.number
  | _ => none

/-- A new behavior has no number. -/
theorem Behavior.number?_make (factory : Factory) (config : Config) :
    (factory.make config).number? = none := by
  unfold Factory.make
  split <;> rfl

/-- A behavior that does not number requests has no number. -/
theorem Behavior.number?_of_kind {behavior : Behavior} (h : behavior.kind ≠ .requestNumbering) :
    behavior.number? = none := by
  cases behavior with
  | requestNumbering => exact absurd rfl h
  | _ => rfl

namespace Behavior

variable {id : UInt32} {counters : Counters} {behavior : Behavior} {phase : Phase}
  {trace : List TraceEntry} {reaction : Reaction}

/-- A behavior keeps its kind. -/
theorem kind_of_reacts (h : Reacts id counters behavior phase trace reaction) :
    reaction.behavior.kind = behavior.kind := by
  cases h <;> rfl

/-- A behavior that does not number requests leaves the counters alone. -/
theorem counters_of_reacts (h : Reacts id counters behavior phase trace reaction)
    (hkind : behavior.kind ≠ .requestNumbering) : reaction.counters = counters := by
  cases h with
  | stampedRequest => exact absurd rfl hkind
  | _ => rfl

/-- A behavior that does not number requests adds no header. -/
theorem addsHeader_of_reacts (h : Reacts id counters behavior phase trace reaction)
    (hkind : behavior.kind ≠ .requestNumbering) :
    ∀ call ∈ calls trace, call.addsHeader = false := by
  cases h with
  | stampedRequest => exact absurd rfl hkind
  | early => exact absurd rfl hkind
  | stampedResponse => exact absurd rfl hkind
  | _ => grind [Call.addsHeader, Call.kind, → Reading.kind_eq, → Routing.kind_eq]

/-- A behavior that buffers no body leaves nothing to wait for. -/
theorem unheld_of_reacts (h : Reacts id counters behavior phase trace reaction)
    (hkind : behavior.kind = .requestNumbering ∨ behavior.kind = .timerControl) :
    reaction.outcome.state = .running ∨ reaction.outcome.state = .completed := by
  cases h with
  | held _ _ buffer size hbuffer =>
    cases behavior with
    | requestNumbering | timerControl => cases hbuffer
    | _ => rcases hkind with hkind | hkind <;> cases hkind
  | reported _ reply | switched _ _ _ _ reply => cases reply <;> exact .inr rfl
  | passed | stampedRequest | unrouted | uncontrolled | unswitched => exact .inl rfl
  | unread | early | stampedResponse => exact .inr rfl
  | _ => rcases hkind with hkind | hkind <;> cases hkind

/-- A completion adds no header. -/
theorem addsHeader_of_relays {self : CallRelay} {headers bodySize : Nat}
    (h : Relays id self headers bodySize trace) :
    ∀ call ∈ calls trace, call.addsHeader = false := by
  cases h with
  | _ => grind [Call.addsHeader, Call.kind, → Reading.kind_eq]

end Behavior

/-- Whether a stream asks for a number when it receives an event, which it does on
request headers until it is finished. -/
def Stream.asks (stream : Stream) (event : Event) : Bool :=
  event == .phase .requestHeaders && stream.behavior.kind == .requestNumbering &&
    stream.state != .completed

namespace Moment

variable {counters : Counters} {moment : Moment}

/-- What a moment is to a stream that numbers requests and is not held. -/
inductive Numbers (counters : Counters) : Moment → Prop where
  /-- Request headers are stamped, with a new number if there is none yet. -/
  | request (stream : Stream) (self : RequestNumbering) (action : Option Action)
      (trace : List TraceEntry) (hstate : stream.state = .running)
      (hbehavior : stream.behavior = .requestNumbering self)
      (hcalls : TraceEntry.calls trace = [.addRequestHeader RequestNumbering.requestHeader
        (toString (self.take counters).1)]) :
    Numbers counters ⟨.phase .requestHeaders, stream,
      ⟨stream.id, .requestNumbering ⟨some (self.take counters).1⟩, .running⟩,
      (self.take counters).2, action, trace⟩
  /-- Response headers are stamped, and the stream is finished. -/
  | response (stream : Stream) (number : Nat) (action : Option Action)
      (trace : List TraceEntry) (hstate : stream.state = .running)
      (hbehavior : stream.behavior = .requestNumbering ⟨some number⟩)
      (hcalls : TraceEntry.calls trace = [.addResponseHeader RequestNumbering.responseHeader
        (toString number)]) :
    Numbers counters ⟨.phase .responseHeaders, stream, { stream with state := .completed },
      counters, action, trace⟩
  /-- Nothing is stamped, and at most the stream is finished. -/
  | quiet (event : Event) (stream after : Stream) (action : Option Action)
      (trace : List TraceEntry) (hkind : stream.behavior.kind = .requestNumbering)
      (hevent : event = .phase .requestHeaders → stream.state = .completed)
      (hafter : after = stream ∨ after = { stream with state := .completed })
      (hcalls : TraceEntry.calls trace = []) :
    Numbers counters ⟨event, stream, after, counters, action, trace⟩

/-- A moment keeps the kind of the behavior. -/
theorem Arises.kind_eq (h : moment.Arises counters) :
    moment.after.behavior.kind = moment.before.behavior.kind := by
  cases h with
  | reacted stream phase trace reaction hopen hreacts => exact Behavior.kind_of_reacts hreacts
  | _ => rfl

/-- A stream keeps the kind of its behavior. -/
theorem keeps_kind (kind : BehaviorKind) : Keeps fun stream => stream.behavior.kind = kind :=
  fun _ _ harises hbefore => harises.kind_eq.trans hbefore

/-- A stream whose behavior buffers no body is running until it is finished. -/
theorem keeps_unheld :
    Keeps fun stream =>
      stream.behavior.kind = .requestNumbering ∨ stream.behavior.kind = .timerControl →
        stream.state = .running ∨ stream.state = .completed := by
  intro counters moment harises hbefore
  cases harises with
  | reacted stream phase trace reaction hopen hreacts =>
    intro hkind
    rw [Behavior.kind_of_reacts hreacts] at hkind
    exact Behavior.unheld_of_reacts hreacts hkind
  | relayed | unrelayed => exact fun _ => .inr rfl
  | suspended | ended | stray => exact hbefore

/-- A stream that does not number requests leaves the counters alone and adds no
header. -/
theorem Arises.quiet_of_kind (h : moment.Arises counters)
    (hkind : moment.before.behavior.kind ≠ .requestNumbering) :
    moment.counters = counters ∧ ∀ call ∈ moment.calls, call.addsHeader = false := by
  cases h with
  | reacted stream phase trace reaction hopen hreacts =>
    exact ⟨Behavior.counters_of_reacts hreacts hkind,
      Behavior.addsHeader_of_reacts hreacts hkind⟩
  | relayed stream completion relay trace hstate hbehavior hrelays =>
    refine ⟨rfl, ?_⟩
    rw [Moment.calls, calls_noted]
    exact Behavior.addsHeader_of_relays hrelays
  | _ => exact ⟨rfl, fun _ hmem => absurd hmem List.not_mem_nil⟩

/-- A stream that numbers requests and is not held is stamped or left alone. -/
theorem Arises.numbers (h : moment.Arises counters)
    (hkind : moment.before.behavior.kind = .requestNumbering)
    (hunheld : moment.before.state = .running ∨ moment.before.state = .completed) :
    moment.Numbers counters := by
  cases h with
  | suspended stream phase token hstate =>
    rw [hstate] at hunheld
    cases hunheld <;> contradiction
  | ended stream phase hstate =>
    exact .quiet _ stream stream _ [] hkind (fun _ => hstate) (.inl rfl) rfl
  | reacted stream phase trace reaction hopen hreacts =>
    have hstate : stream.state = .running := by
      cases hunheld with
      | inl hrunning => exact hrunning
      | inr hcompleted =>
        rw [hcompleted] at hopen
        cases hopen
    obtain ⟨id, behavior, state⟩ := stream
    cases behavior with
    | requestNumbering self =>
      cases hreacts with
      | passed _ _ hheaders _ =>
        refine .quiet _ _ _ _ [] hkind ?_ (.inl ?_) rfl
        · rintro ⟨⟩
          cases hheaders
        · cases hstate
          rfl
      | held _ _ _ _ hbuffer => cases hbuffer
      | unread _ _ _ _ _ _ hbuffer => cases hbuffer
      | stampedRequest _ reply _ hstamp => exact .request _ self _ _ hstate rfl hstamp.calls_eq
      | early _ hnumber => exact .quiet _ _ _ _ _ hkind nofun (.inr rfl) rfl
      | stampedResponse _ number reply _ hnumber hstamp =>
        obtain ⟨_⟩ := self
        cases hnumber
        exact .response _ number _ _ hstate rfl hstamp.calls_eq
    | _ => cases hkind
  | stray stream completion hstate => exact .quiet _ stream stream _ _ hkind nofun (.inl rfl) rfl
  | relayed stream completion relay trace hstate hbehavior =>
    rw [hbehavior] at hkind
    cases hkind
  | unrelayed stream completion hstate =>
    rw [hstate] at hunheld
    cases hunheld <;> contradiction

/-- What a moment adds to the numbers of its stream and of the counters. -/
structure Entry (counters : Counters) (moment : Moment) : Prop where
  /-- Request headers leave the stream with its number, or else with the next one. -/
  number : moment.after.behavior.number? =
    if moment.before.asks moment.event then
      some (moment.before.behavior.number?.getD (counters.requests + 1))
    else moment.before.behavior.number?
  /-- Only a stream without a number takes one from the counters. -/
  requests : moment.counters.requests =
    if moment.before.asks moment.event ∧ moment.before.behavior.number? = none then
      counters.requests + 1
    else counters.requests
  /-- Only request headers are stamped as such, and with this number. -/
  requestStamps : moment.calls.filterMap Call.requestStamp? =
    if moment.before.asks moment.event then
      [toString (moment.before.behavior.number?.getD (counters.requests + 1))]
    else []
  /-- A response is stamped with the number of its stream, which is finished by that. -/
  responseStamps : moment.calls.filterMap Call.responseStamp? = [] ∨
    ∃ number, moment.before.behavior.number? = some number ∧
      moment.calls.filterMap Call.responseStamp? = [toString number] ∧
      moment.before.state = .running ∧ moment.after.state = .completed
  /-- A stream that numbers requests is not held afterwards. -/
  unheld : moment.after.behavior.kind = .requestNumbering →
    moment.after.state = .running ∨ moment.after.state = .completed
  /-- A finished stream stays finished. -/
  finished : moment.before.state = .completed → moment.after.state = .completed

/-- What stamps a stream or leaves it alone makes its entry. -/
theorem Numbers.entry (h : moment.Numbers counters)
    (hunheld : moment.before.state = .running ∨ moment.before.state = .completed) :
    moment.Entry counters := by
  cases h with
  | request stream self action trace hstate hbehavior hcalls =>
    obtain ⟨id, behavior, state⟩ := stream
    cases hstate
    cases hbehavior
    have hasks : (⟨id, .requestNumbering self, .running⟩ : Stream).asks
        (.phase .requestHeaders) = true := rfl
    have htaken := self.take_requests counters
    rw [self.take_number] at hcalls
    refine ⟨?_, ?_, ?_, .inl ?_, fun _ => .inl rfl, nofun⟩
    · rw [if_pos hasks]
      exact congrArg some (self.take_number counters)
    · rw [htaken, ← ite_not, Behavior.number?]
      simp only [hasks, true_and, Option.not_isSome_iff_eq_none]
    · rw [if_pos hasks, Moment.calls, hcalls]
      rfl
    · rw [Moment.calls, hcalls]
      rfl
  | response stream number action trace hstate hbehavior hcalls =>
    have hasks : stream.asks (.phase .responseHeaders) = false := rfl
    refine ⟨by rw [hasks]; rfl, by simp [hasks], ?_, .inr ⟨number, ?_, ?_, hstate, rfl⟩,
      fun _ => .inr rfl, fun _ => rfl⟩
    · rw [hasks, Moment.calls, hcalls]
      rfl
    · rw [hbehavior]
      rfl
    · rw [Moment.calls, hcalls]
      rfl
  | quiet event stream after action trace hkind hevent hafter hcalls =>
    have hasks : stream.asks event = false := by
      by_cases hheaders : event = .phase .requestHeaders
      · simp [Stream.asks, hevent hheaders]
      · simp [Stream.asks, hheaders]
    have hnone : Moment.calls ⟨event, stream, after, counters, action, trace⟩ = [] := hcalls
    refine ⟨?_, by simp [hasks], by rw [hnone, hasks]; rfl, .inl (by rw [hnone]; rfl), ?_, ?_⟩
    · rw [hasks]
      cases hafter with
      | inl hsame => rw [hsame]; rfl
      | inr hdone => rw [hdone]; rfl
    · intro _
      cases hafter with
      | inl hsame => exact hsame ▸ hunheld
      | inr hdone => exact .inr (by rw [hdone])
    · intro hstate
      cases hafter with
      | inl hsame => exact hsame ▸ hstate
      | inr hdone => rw [hdone]

/-- A moment of a stream that does not number requests has nothing to enter. -/
theorem Arises.entry_of_kind (h : moment.Arises counters)
    (hkind : moment.before.behavior.kind ≠ .requestNumbering) : moment.Entry counters := by
  obtain ⟨hcounters, hcalls⟩ := h.quiet_of_kind hkind
  have hasks : moment.before.asks moment.event = false := by simp [Stream.asks, hkind]
  have hafter : moment.after.behavior.kind ≠ .requestNumbering := by rwa [h.kind_eq]
  have hstamps := fun call hmem => Call.stamps_of_addsHeader (hcalls call hmem)
  refine ⟨?_, ?_, ?_, .inl ?_, fun hnumbers => absurd hnumbers hafter, ?_⟩
  · rw [hasks, Behavior.number?_of_kind hkind, Behavior.number?_of_kind hafter]
    rfl
  · simp only [hasks, hcounters, Bool.false_eq_true, false_and, if_false]
  · rw [hasks, List.filterMap_eq_nil_iff.mpr fun call hmem => (hstamps call hmem).1]
    rfl
  · exact List.filterMap_eq_nil_iff.mpr fun call hmem => (hstamps call hmem).2
  · intro hstate
    rw [(h.eq_of_completed hstate).1, hstate]

/-- Every moment makes its entry, if no stream that numbers requests is held. -/
theorem Arises.entry (h : moment.Arises counters)
    (hunheld : moment.before.behavior.kind = .requestNumbering →
      moment.before.state = .running ∨ moment.before.state = .completed) :
    moment.Entry counters := by
  by_cases hkind : moment.before.behavior.kind = .requestNumbering
  · exact (h.numbers hkind (hunheld hkind)).entry (hunheld hkind)
  · exact h.entry_of_kind hkind

end Moment

end ProxyFilter
