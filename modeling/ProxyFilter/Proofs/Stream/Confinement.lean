import ProxyFilter.Proofs.Stream.Control
import ProxyFilter.Proofs.Stream.Reporting
import ProxyFilter.Proofs.Stream.Rewriting

/-!
# What a behavior keeps to

A behavior makes few kinds of calls, and each of them at few events. They are listed once, and
no course of an event makes a call that is not on the list. So a behavior never does what only
another one does, however its stream has come to where it stands and whatever the proxy replies.
-/

namespace ProxyFilter

open Dialogue TraceEntry

/-- Whether an event is a part of the response. -/
def Event.ofResponse : Event → Bool
  | .phase .responseHeaders | .phase (.responseBody ..) => true
  | _ => false

/-- Whether an event brings a body of which more is to come. -/
def Event.isPartial : Event → Bool
  | .phase (.requestBody _ false) | .phase (.responseBody _ false) => true
  | _ => false

/-- The only kind of behavior that makes calls of a kind, if there is but one. -/
def CallKind.owner? : CallKind → Option BehaviorKind
  | .addRequestHeader | .addResponseHeader => some .requestNumbering
  | .setTickPeriod => some .timerControl
  | .requestHeaders | .dispatch | .callResponseHeaders | .body .callResponse | .resumeRequest =>
    some .callRelay
  | .body .response | .foreignFunction | .replaceResponseBody => some .bodyTransform
  | .requestHeader | .property | .body .request | .respond => none

namespace Behavior

/-- The kinds of calls that a behavior may make when it meets an event. -/
def permitted : Behavior → Event → List CallKind
  | .requestNumbering _, .phase .requestHeaders => [.addRequestHeader]
  | .requestNumbering _, .phase .responseHeaders => [.addResponseHeader]
  | .timerControl, .phase .requestHeaders =>
    [.property, .requestHeader, .setTickPeriod, .respond]
  | .callRelay _, .phase .requestHeaders => [.requestHeaders, .property]
  | .callRelay _, .phase (.requestBody _ true) => [.body .request, .dispatch]
  | .callRelay _, .completion _ =>
    [.callResponseHeaders, .body .callResponse, .respond, .resumeRequest]
  | .bodyTransform _, .phase .requestHeaders => [.property, .requestHeader]
  | .bodyTransform ⟨_, .request _⟩, .phase (.requestBody _ true) =>
    [.body .request, .foreignFunction, .respond]
  | .bodyTransform ⟨_, .response _⟩, .phase (.responseBody _ true) =>
    [.body .response, .foreignFunction, .replaceResponseBody]
  | _, _ => []

variable {behavior : Behavior} {event : Event} {kind : CallKind}

/-- What only one kind of behavior calls is permitted to that kind only. -/
theorem kind_of_permitted {owner : BehaviorKind} (h : kind ∈ behavior.permitted event)
    (howner : kind.owner? = some owner) : behavior.kind = owner := by
  unfold permitted at h
  split at h <;> grind [CallKind.owner?, Behavior.kind]

/-- The response body is replaced by a behavior that is set to do so. -/
theorem eq_of_permitted_replace (h : .replaceResponseBody ∈ behavior.permitted event) :
    ∃ function name, behavior = .bodyTransform ⟨function, .response name⟩ := by
  unfold permitted at h
  split at h
  case h_9 function name size => exact ⟨function, name, rfl⟩
  all_goals simp at h

/-- Numbering does nothing but to add headers. -/
theorem adds_of_permitted (h : kind ∈ behavior.permitted event)
    (hkind : behavior.kind = .requestNumbering) :
    kind = .addRequestHeader ∨ kind = .addResponseHeader := by
  cases behavior with
  | requestNumbering self =>
    unfold permitted at h
    split at h
    all_goals simp_all
  | _ => cases hkind

/-- Timer control looks at the headers of the request only. -/
theorem permitted_control (hevent : event ≠ .phase .requestHeaders) :
    timerControl.permitted event = [] := by
  unfold permitted
  split <;> first | rfl | contradiction

/-- Relaying has nothing to do with the response. -/
theorem permitted_relay_response (hkind : behavior.kind = .callRelay)
    (hevent : event.ofResponse = true) : behavior.permitted event = [] := by
  cases behavior with
  | callRelay relay =>
    unfold Event.ofResponse at hevent
    split at hevent
    · rfl
    · rfl
    · cases hevent
  | _ => cases hkind

/-- Nothing is to be done with a part of a body. -/
theorem permitted_partial (behavior : Behavior) (hevent : event.isPartial = true) :
    behavior.permitted event = [] := by
  unfold Event.isPartial at hevent
  split at hevent
  · cases behavior <;> rfl
  · cases behavior <;> rfl
  · cases hevent

variable {id : UInt32} {counters : Counters} {phase : Phase} {trace : List TraceEntry}
  {reaction : Reaction}

/-- A body that is buffered may be read at its end. -/
theorem permitted_of_buffered {buffer : Buffer} {size : Nat}
    (hbuffer : behavior.buffered? phase = some (buffer, size, true)) :
    .body buffer ∈ behavior.permitted (.phase phase) := by
  unfold buffered? at hbuffer
  split at hbuffer <;> cases hbuffer <;> exact List.mem_cons_self

/-- A function may be applied to a body at its end. -/
theorem permitted_of_applies {self : BodyTransform} {name : String} {buffer : Buffer} {size : Nat}
    (happlies : self.applies? phase = some (name, buffer, size)) :
    .foreignFunction ∈ (bodyTransform self).permitted (.phase phase) := by
  unfold BodyTransform.applies? at happlies
  split at happlies <;> cases happlies <;> exact List.mem_cons_of_mem _ List.mem_cons_self

/-- A phase leads to no call that is not permitted. -/
theorem permitted_of_reacts (h : Reacts id counters behavior phase trace reaction) :
    ∀ call ∈ calls trace, call.kind ∈ behavior.permitted (.phase phase) := by
  cases h with
  | unapplied self _ name buffer size body status opening ending happlies =>
    have hbody := permitted_of_buffered (buffered?_of_applies? happlies)
    have hcall := permitted_of_applies happlies
    grind [Call.kind, → Reading.kind_eq]
  | answered self =>
    obtain ⟨function, mode⟩ := self
    grind [Call.kind, permitted, → Reading.kind_eq]
  | replaced self =>
    obtain ⟨function, mode⟩ := self
    grind [Call.kind, permitted, → Reading.kind_eq]
  | _ =>
    grind [Call.kind, permitted, permitted_of_buffered, → Reading.kind_eq, → Routing.kind_eq]

/-- A completion leads to no call that is not permitted. -/
theorem permitted_of_relays {self : CallRelay} {headers bodySize : Nat}
    (h : Relays id self headers bodySize trace) (completion : Completion) :
    ∀ call ∈ calls trace, call.kind ∈ (callRelay self).permitted (.completion completion) := by
  intro call hcall
  cases h with
  | answered received body opening middle ending hheaders hbody hsend =>
    simp only [calls_append, calls_warning, hheaders.calls_eq, hsend.calls_eq, List.nil_append,
      List.mem_append, List.mem_singleton] at hcall
    obtain rfl | hread | rfl := hcall
    · simp [permitted, Call.kind]
    · simp [permitted, hbody.kind_eq hread]
    · simp [permitted, Call.kind]
  | resumed received body status reply opening middle ending last hheaders hbody hsend hresume =>
    simp only [calls_append, calls_warning, hheaders.calls_eq, hsend.calls_eq, hresume.calls_eq,
      List.nil_append, List.mem_append, List.mem_singleton] at hcall
    obtain rfl | hread | rfl | rfl := hcall
    · simp [permitted, Call.kind]
    · simp [permitted, hbody.kind_eq hread]
    · simp [permitted, Call.kind]
    · simp [permitted, Call.kind]

/-- Numbering lets every phase go on. -/
theorem proceeds_of_reacts (h : Reacts id counters behavior phase trace reaction)
    (hkind : behavior.kind = .requestNumbering) : reaction.outcome.action = .proceed := by
  cases h with
  | held _ _ buffer size hbuffer =>
    cases behavior with
    | requestNumbering self => cases hbuffer
    | _ => cases hkind
  | passed | unread | stampedRequest | early | stampedResponse => rfl
  | _ => cases hkind

/-- No phase counts a firing of the timer. -/
theorem ticks_of_reacts (h : Reacts id counters behavior phase trace reaction) :
    reaction.counters.ticks = counters.ticks := by
  cases h with
  | stampedRequest self =>
    obtain ⟨_ | number⟩ := self <;> rfl
  | _ => rfl

end Behavior

namespace Moment

variable {counters : Counters} {moment : Moment}

/-- A moment makes no call that is not permitted to the behavior of its stream. -/
theorem Arises.permitted (h : moment.Arises counters) :
    ∀ call ∈ moment.calls, call.kind ∈ moment.before.behavior.permitted moment.event := by
  cases h with
  | reacted stream phase trace reaction hopen hreacts =>
    exact Behavior.permitted_of_reacts hreacts
  | relayed stream completion relay trace hstate hbehavior hrelays =>
    rw [Moment.calls, calls_noted]
    dsimp only
    rw [hbehavior]
    exact Behavior.permitted_of_relays hrelays completion
  | _ => exact fun _ hmem => absurd hmem List.not_mem_nil

/-- Where nothing is permitted, a moment calls nothing. -/
theorem Arises.calls_eq_nil (h : moment.Arises counters)
    (hnone : moment.before.behavior.permitted moment.event = []) : moment.calls = [] := by
  refine List.eq_nil_iff_forall_not_mem.mpr fun call hcall => ?_
  have hpermitted := h.permitted call hcall
  rw [hnone] at hpermitted
  exact List.not_mem_nil hpermitted

/-- The number of requests changes where a stream without a number asks for one. -/
theorem Entry.requests_ne_iff (h : moment.Entry counters) :
    moment.counters.requests ≠ counters.requests ↔
      moment.before.asks moment.event = true ∧ moment.before.behavior.number? = none := by
  rw [h.requests]
  split
  · next hasks => exact iff_of_true (Nat.succ_ne_self _) hasks
  · next hasks => exact iff_of_false (fun hsame => hsame rfl) hasks

/-- No moment counts a firing of the timer. -/
theorem Arises.ticks_eq (h : moment.Arises counters) : moment.counters.ticks = counters.ticks := by
  cases h with
  | reacted stream phase trace reaction hopen hreacts => exact Behavior.ticks_of_reacts hreacts
  | _ => rfl

/-- A stream that numbers requests, and is not held, is never told to pause. -/
theorem Arises.goes_on (h : moment.Arises counters)
    (hkind : moment.before.behavior.kind = .requestNumbering)
    (hunheld : moment.before.state = .running ∨ moment.before.state = .completed) :
    moment.action ≠ some .pause := by
  cases h with
  | suspended stream phase token hstate =>
    rw [hstate] at hunheld
    cases hunheld <;> contradiction
  | reacted stream phase trace reaction hopen hreacts =>
    intro hpause
    cases (Behavior.proceeds_of_reacts hreacts hkind).symm.trans (Option.some.inj hpause)
  | _ => exact nofun

end Moment

namespace Stream

variable {σ : Type}

/-- A stream calls only what is permitted to its behavior. -/
theorem permitted_meet (stream : Stream) (delivery : Delivery σ) :
    ∀ call ∈ (stream.meet delivery).calls,
      call.kind ∈ stream.behavior.permitted delivery.event := by
  have hpermitted := (stream.arises_meet delivery).permitted
  rwa [before_meet, event_meet] at hpermitted

/-- Where nothing is permitted, a stream calls nothing. -/
theorem calls_meet_eq_nil {stream : Stream} {delivery : Delivery σ}
    (hnone : stream.behavior.permitted delivery.event = []) : (stream.meet delivery).calls = [] :=
  (stream.arises_meet delivery).calls_eq_nil (by rwa [before_meet, event_meet])

/-- A stream that is not held asks for a number on request headers that are let through. -/
theorem asks_iff {stream : Stream} {event : Event}
    (hunheld : stream.behavior.kind = .requestNumbering →
      stream.state = .running ∨ stream.state = .completed) :
    stream.asks event = true ↔ stream.behavior.kind = .requestNumbering ∧
      event = .phase .requestHeaders ∧ stream.state.gate? = none := by
  have hgate : stream.behavior.kind = .requestNumbering →
      (stream.state ≠ .completed ↔ stream.state.gate? = none) := by
    intro hkind
    rcases hunheld hkind with hstate | hstate <;> rw [hstate] <;> decide
  simp only [asks, Bool.and_eq_true, beq_iff_eq, bne_iff_ne]
  grind

/-- The number of requests changes exactly where a stream takes a number. -/
theorem requests_meet_ne_iff {stream : Stream} (delivery : Delivery σ)
    (hunheld : stream.behavior.kind = .requestNumbering →
      stream.state = .running ∨ stream.state = .completed) :
    (stream.meet delivery).counters.requests ≠ delivery.counters.requests ↔
      stream.behavior.kind = .requestNumbering ∧ delivery.event = .phase .requestHeaders ∧
        stream.state.gate? = none ∧ stream.behavior.number? = none := by
  have hentry := (stream.arises_meet delivery).entry (by rwa [before_meet])
  rw [hentry.requests_ne_iff, before_meet, event_meet, asks_iff hunheld, and_assoc, and_assoc]

/-- A stream that numbers requests, and is not held, is never told to pause. -/
theorem action_meet_ne {stream : Stream} (delivery : Delivery σ)
    (hkind : stream.behavior.kind = .requestNumbering)
    (hunheld : stream.state = .running ∨ stream.state = .completed) :
    (stream.meet delivery).action ≠ some .pause :=
  (stream.arises_meet delivery).goes_on (by rwa [before_meet]) (by rwa [before_meet])

/-- Every behavior keeps to its own effects. Let a new stream with any behavior have met whatever
there is to meet, and let it meet one event more, under any proxy. It has the kind of behavior
that it began with. If it numbers requests, it is running or completed, is never told to pause,
and only adds headers. If it is one of timer control, it is running or completed, and calls the
proxy on request headers only. Only a stream that relays waits for a cluster call, starts one or
releases its request, and it has nothing to do with the response. Only a stream that transforms
calls a foreign function or replaces the response body, and the latter only in the mode for it.
Only timer control sets the period of the timer. The number of requests changes exactly if request
headers are let through to a stream that numbers requests and has no number yet, and the number of
firings never does. A body of which more is to come leads to no call at all. -/
theorem keeps_to_its_effects (id : UInt32) (behavior : Behavior) (past : List (Delivery σ))
    (delivery : Delivery σ) :
    let stream := (new id behavior).through past
    let event := delivery.event
    let moment := stream.meet delivery
    let calls (kind : CallKind) : Prop := ∃ call ∈ moment.calls, call.kind = kind
    stream.behavior.kind = behavior.kind ∧
    (behavior.kind = .requestNumbering →
      (stream.state = .running ∨ stream.state = .completed) ∧ moment.action ≠ some .pause ∧
        ∀ kind, calls kind → kind = .addRequestHeader ∨ kind = .addResponseHeader) ∧
    (behavior.kind = .timerControl →
      (stream.state = .running ∨ stream.state = .completed) ∧
        (event ≠ .phase .requestHeaders → moment.calls = [])) ∧
    ((∃ token, stream.state = .awaitingCall token) ∨ calls .dispatch ∨ calls .resumeRequest →
      behavior.kind = .callRelay) ∧
    (behavior.kind = .callRelay → event.ofResponse = true → moment.calls = []) ∧
    (calls .foreignFunction ∨ calls .replaceResponseBody → behavior.kind = .bodyTransform) ∧
    (calls .replaceResponseBody →
      ∃ function name, stream.behavior = .bodyTransform ⟨function, .response name⟩) ∧
    (calls .setTickPeriod → behavior.kind = .timerControl) ∧
    (moment.counters.requests ≠ delivery.counters.requests ↔
      behavior.kind = .requestNumbering ∧ event = .phase .requestHeaders ∧
        stream.state.gate? = none ∧ stream.behavior.number? = none) ∧
    moment.counters.ticks = delivery.counters.ticks ∧
    (event.isPartial = true → moment.calls = []) := by
  intro stream event moment calls
  have hkind : stream.behavior.kind = behavior.kind :=
    keeps_through (Moment.keeps_kind behavior.kind) rfl past
  have hunheld : stream.behavior.kind = .requestNumbering ∨ stream.behavior.kind = .timerControl →
      stream.state = .running ∨ stream.state = .completed :=
    keeps_through Moment.keeps_unheld (fun _ => .inl rfl) past
  have hwaits : stream.WaitsToRelay :=
    keeps_through Moment.keeps_waitsToRelay (fun _ hstate => by cases hstate) past
  have hpermitted {kind : CallKind} (hcalls : calls kind) :
      kind ∈ stream.behavior.permitted event := by
    obtain ⟨call, hcall, rfl⟩ := hcalls
    exact permitted_meet stream delivery call hcall
  have howner {kind : CallKind} {owner : BehaviorKind} (hcalls : calls kind)
      (honly : kind.owner? = some owner) : stream.behavior.kind = owner :=
    Behavior.kind_of_permitted (hpermitted hcalls) honly
  rw [← hkind]
  refine ⟨rfl, fun hnumbering => ⟨hunheld (.inl hnumbering), ?_, fun kind hcalls => ?_⟩,
    fun hcontrol => ⟨hunheld (.inr hcontrol), fun hother => calls_meet_eq_nil ?_⟩, ?_,
    fun hrelaying hresponse => calls_meet_eq_nil ?_, ?_, fun hcalls => ?_,
    fun hcalls => howner hcalls rfl, ?_, ?_, fun hpartial => calls_meet_eq_nil ?_⟩
  · exact action_meet_ne delivery hnumbering (hunheld (.inl hnumbering))
  · exact Behavior.adds_of_permitted (hpermitted hcalls) hnumbering
  · rw [Behavior.eq_timerControl hcontrol]
    exact Behavior.permitted_control hother
  · rintro (⟨token, hstate⟩ | hcalls | hcalls)
    · obtain ⟨relay, hrelay⟩ := hwaits token hstate
      rw [hrelay]
      rfl
    · exact howner hcalls rfl
    · exact howner hcalls rfl
  · exact Behavior.permitted_relay_response hrelaying hresponse
  · rintro (hcalls | hcalls) <;> exact howner hcalls rfl
  · exact Behavior.eq_of_permitted_replace (hpermitted hcalls)
  · exact requests_meet_ne_iff delivery fun hnumbering => hunheld (.inl hnumbering)
  · exact (stream.arises_meet delivery).ticks_eq
  · exact Behavior.permitted_partial _ hpartial

/-- An event in the sample, where the proxy holds a response body and a function that doubles it. -/
def sampleMet (event : Event) : Delivery World := ⟨event, .zero, Proxy.host, sampleDoubling⟩

/-- In the sample a numbered stream takes the first number, one of timer control leaves the response
alone, one that relays waits for the call that it has started and leaves the response alone, and one
that transforms replaces the body of the response. -/
theorem sample_keeps_to_its_effects :
    let requested := sampleMet (.phase .requestHeaders)
    let ended := sampleMet (.phase (.requestBody 0 true))
    let responded := sampleMet (.phase .responseHeaders)
    let replied := sampleMet (.phase (.responseBody 3 true))
    let numbering : Behavior := .requestNumbering .new
    let relay : Behavior := .callRelay ⟨"web", "/call", []⟩
    let transform : Behavior := .bodyTransform ⟨"double", .pending⟩
    let waiting := (new 1 relay).through [requested, ended]
    let replacing := (new 1 transform).through [requested]
    ((new 1 numbering).meet requested).counters.requests ≠ 0 ∧
      ((new 1 .timerControl).meet responded).calls = [] ∧
      waiting.state = .awaitingCall 1 ∧ relay.kind = .callRelay ∧
      (waiting.meet responded).calls = [] ∧
      .replaceResponseBody 0 3 [0x61, 0xFF, 0x63, 0x61, 0xFF, 0x63] ∈
        (replacing.meet replied).calls ∧
      (∃ function name, replacing.behavior = .bodyTransform ⟨function, .response name⟩) ∧
      (replacing.meet (sampleMet (.phase (.responseBody 3 false)))).calls = [] := by
  intro requested ended responded replied numbering relay transform waiting replacing
  have hother : responded.event ≠ .phase .requestHeaders := by decide
  have hwaits : waiting.state = .awaitingCall 1 := by decide
  have hreplaces : .replaceResponseBody 0 3 [0x61, 0xFF, 0x63, 0x61, 0xFF, 0x63] ∈
      (replacing.meet replied).calls := by
    decide
  obtain ⟨-, -, -, -, -, -, -, -, hcounts, -⟩ := keeps_to_its_effects 1 numbering [] requested
  obtain ⟨-, -, hcontrol, -⟩ := keeps_to_its_effects 1 .timerControl [] responded
  obtain ⟨-, -, -, hrelays, hresponse, -⟩ :=
    keeps_to_its_effects 1 relay [requested, ended] responded
  obtain ⟨-, -, -, -, -, -, hmode, -⟩ := keeps_to_its_effects 1 transform [requested] replied
  obtain ⟨-, -, -, -, -, -, -, -, -, -, hpartial⟩ :=
    keeps_to_its_effects 1 transform [requested] (sampleMet (.phase (.responseBody 3 false)))
  exact ⟨hcounts.mpr ⟨rfl, rfl, rfl, rfl⟩, (hcontrol rfl).2 hother, hwaits,
    hrelays (.inl ⟨1, hwaits⟩), hresponse rfl rfl, hreplaces, hmode ⟨_, hreplaces, rfl⟩,
    hpartial rfl⟩

end Stream

end ProxyFilter
