import ProxyFilter.Proofs.Dialogue.Scripts
import ProxyFilter.Proofs.Stream.Finality

/-!
# What a cluster call carries

A stream that relays takes the headers of its call when a request is let through, and sends them
when the body of the request has ended. Whatever it meets in between leaves them as they are, so
the call carries what the proxy held for the latest request, together with the body that the
proxy holds at the end.
-/

namespace ProxyFilter

open Dialogue TraceEntry

namespace CallRelay

variable {σ : Type} (self : CallRelay) (id : UInt32) (host : Host σ) (world : σ)

/-- The headers of the call, as a proxy replies to the questions about them. -/
def heard : Headers :=
  let inbound := host .requestHeaders world
  let method := host (.property ["request", "method"]) inbound.2
  let authority := host (.property ["request", "host"]) method.2
  self.outbound inbound.1 method.1 authority.1

/-- A property is asked for once, and is empty if it cannot be read. -/
theorem run_property (path : List String) :
    let reply := host (.property path) world
    ((property id path).run host world).value = propertyText reply.1 ∧
      ((property id path).run host world).world = reply.2 := by
  rw [property, Property.text, bind_assoc, run_call_bind]
  generalize host (.property path) world = asked
  obtain ⟨answer, after⟩ := asked
  cases answer <;> exact ⟨rfl, rfl⟩

/-- The rest of a request behind its headers. -/
def takeHeaders (inbound : Headers) : Dialogue CallRelay := do
  let kept := inbound.filter fun header => !pseudoHeaders.contains header.1
  let method ← property id ["request", "method"]
  let authority ← property id ["request", "host"]
  let headers :=
    kept ++ [(":method", method), (":authority", authority), (":path", self.path)]
  return { self with headers }

/-- Behind the headers of the request the method and the authority are asked for. -/
theorem value_takeHeaders (inbound : Headers) :
    let method := host (.property ["request", "method"]) world
    let authority := host (.property ["request", "host"]) method.2
    ((self.takeHeaders id inbound).run host world).value =
      { self with headers := self.outbound (.ok inbound) method.1 authority.1 } := by
  intro method authority
  obtain ⟨hmethod, hafter⟩ := run_property id host world ["request", "method"]
  obtain ⟨hauthority, -⟩ := run_property id host method.2 ["request", "host"]
  simp only [takeHeaders, run_bind, hmethod, hafter, run_pure]
  rw [hauthority]
  rfl

/-- A request leaves the headers of its call. -/
theorem value_onRequestHeaders :
    ((self.onRequestHeaders id).run host world).value =
      { self with headers := self.heard host world } := by
  rw [onRequestHeaders, run_call_bind, heard]
  generalize host .requestHeaders world = asked
  obtain ⟨answer, after⟩ := asked
  cases answer with
  | ok inbound => exact self.value_takeHeaders id host after inbound
  | error status => exact self.value_takeHeaders id host after []

/-- A body is sent with one call. -/
theorem calls_send (body : Bytes) :
    calls ((self.send id body).run host world).trace =
      [.dispatch self.cluster self.headers body [] timeout] := by
  change calls (_ :: ((call (.dispatch self.cluster self.headers body [] timeout) >>= _).run
    host world).trace) = _
  rw [run_call_bind]
  generalize host _ world = asked
  obtain ⟨answer, after⟩ := asked
  cases answer <;> rfl

end CallRelay

namespace Behavior

variable {id : UInt32} {counters : Counters} {phase : Phase} {trace : List TraceEntry}
  {reaction : Reaction} {relay : CallRelay}

/-- A phase leaves a behavior that relays its cluster and its path, and but for a request its
headers as well. -/
theorem relay_of_reacts (h : Reacts id counters (.callRelay relay) phase trace reaction) :
    ∃ headers, reaction.behavior = .callRelay { relay with headers } ∧
      (phase ≠ .requestHeaders → headers = relay.headers) := by
  cases h with
  | captured => exact ⟨_, rfl, fun h => absurd rfl h⟩
  | _ => exact ⟨relay.headers, rfl, fun _ => rfl⟩

end Behavior

namespace Moment

variable {counters : Counters} {moment : Moment} {relay : CallRelay}

/-- Whether a request is let through in a moment. -/
def Hears (moment : Moment) : Prop :=
  moment.event = .phase .requestHeaders ∧ moment.before.state.gate? = none

instance (moment : Moment) : Decidable moment.Hears :=
  inferInstanceAs (Decidable (_ ∧ _))

/-- A moment leaves a stream that relays its cluster and its path, and unless a request is let
through its headers as well. -/
theorem Arises.relay_eq (h : moment.Arises counters)
    (hrelay : moment.before.behavior = .callRelay relay) :
    ∃ headers, moment.after.behavior = .callRelay { relay with headers } ∧
      (¬ moment.Hears → headers = relay.headers) := by
  cases h with
  | reacted stream phase trace reaction hopen hreacts =>
    rw [show stream.behavior = .callRelay relay from hrelay] at hreacts
    obtain ⟨headers, hafter, hkept⟩ := Behavior.relay_of_reacts hreacts
    refine ⟨headers, hafter, fun hdeaf => hkept ?_⟩
    rintro rfl
    exact hdeaf ⟨rfl, hopen⟩
  | _ => exact ⟨relay.headers, hrelay, fun _ => rfl⟩

end Moment

namespace Stream

variable {σ : Type} {stream : Stream} {relay : CallRelay}

/-- A stream that relays does so for the same cluster and path behind whatever it meets. -/
theorem relay_through (hrelay : stream.behavior = .callRelay relay) (past : List (Delivery σ)) :
    ∃ headers, (stream.through past).behavior = .callRelay { relay with headers } := by
  have hkeeps : Moment.Keeps fun stream =>
      ∃ headers, stream.behavior = .callRelay { relay with headers } := by
    rintro counters moment harises ⟨headers, hbefore⟩
    obtain ⟨next, hafter, -⟩ := harises.relay_eq hbefore
    exact ⟨next, hafter⟩
  exact keeps_through hkeeps ⟨relay.headers, hrelay⟩ past

/-- A stream that relays keeps the headers of its call as long as no request is let through. -/
theorem relay_through_of_deaf (hrelay : stream.behavior = .callRelay relay)
    (past : List (Delivery σ)) (hdeaf : ∀ moment ∈ stream.history past, ¬ moment.Hears) :
    (stream.through past).behavior = .callRelay relay := by
  induction past generalizing stream with
  | nil => exact hrelay
  | cons delivery rest ih =>
    obtain ⟨hfirst, hrest⟩ := List.forall_mem_cons.mp hdeaf
    obtain ⟨headers, hafter, hkept⟩ :=
      (stream.arises_meet delivery).relay_eq (by rwa [before_meet])
    rw [hkept hfirst] at hafter
    exact ih hafter hrest

/-- A request that is let through leaves a stream with the headers that the proxy gives. -/
theorem relay_meet_request (hopen : stream.state.gate? = none)
    (hrelay : stream.behavior = .callRelay relay) {delivery : Delivery σ}
    (hevent : delivery.event = .phase .requestHeaders) :
    (stream.meet delivery).after.behavior =
      .callRelay { relay with headers := relay.heard delivery.host delivery.world } := by
  simp only [meet, hevent, run_onPhase_of_open hopen, hrelay, Behavior.onPhase, run_bind_pure,
    relay.value_onRequestHeaders]

/-- The end of a body that has been read leads to the cluster call. -/
theorem calls_meet_last (hopen : stream.state.gate? = none)
    (hrelay : stream.behavior = .callRelay relay) {delivery : Delivery σ} {size : Nat}
    (hevent : delivery.event = .phase (.requestBody size true)) {body : Bytes} {after : σ}
    {opening : List TraceEntry}
    (hread : (readBody .request size).run delivery.host delivery.world =
      ⟨.ok body, after, opening⟩) :
    (stream.meet delivery).calls = calls opening ++
      [.dispatch relay.cluster relay.headers body [] CallRelay.timeout] := by
  have hlast : stream.behavior.buffered? (.requestBody size true) = some (.request, size, true) := by
    rw [hrelay]
    rfl
  simp only [meet, hevent, Moment.calls, run_onPhase_of_read hopen hlast hread, calls_append]
  rw [hrelay]
  exact congrArg _ (relay.calls_send stream.id delivery.host after body)

end Stream

namespace Proxy

variable (proxy : Proxy)

/-- The headers of the request as a proxy gives them, none if they cannot be read. -/
def inbound : Headers :=
  if proxy.failure? .requestHeaders = none then proxy.requestHeaders else []

/-- A property as text, empty if it is missing or cannot be read. -/
def propertyText (path : List String) : String :=
  if proxy.failure? (.property path) = none then
    ((lookup? proxy.properties (Call.propertyKey path)).map Property.decode).getD ""
  else ""

/-- The headers of a cluster call for a path, as a proxy holds them for the request: its headers
but for those of the call itself, and behind them these. -/
def outbound (path : String) : Headers :=
  proxy.inbound.filter (fun header => header.1 ∉ [":method", ":authority", ":path"]) ++
    [(":method", proxy.propertyText ["request", "method"]),
      (":authority", proxy.propertyText ["request", "host"]), (":path", path)]

end Proxy

namespace Host.IsScripted

variable {host : Host World}

/-- A scripted proxy replies to the question about the headers with what it holds. -/
theorem requestHeaders (h : host.IsScripted) (world : World) :
    let reply : Except Status Headers × World := host .requestHeaders world
    reply.1.toOption.getD [] = world.proxy.inbound ∧ reply.2 = world := by
  unfold Proxy.inbound
  cases hfails : world.proxy.failure? .requestHeaders with
  | none =>
    rw [h.apply_of_works hfails]
    exact ⟨rfl, rfl⟩
  | some status =>
    rw [h.apply_of_refused hfails rfl]
    exact ⟨rfl, rfl⟩

/-- A scripted proxy replies to the question about a property with what it holds. A failure to read
it is taken for an empty text, and so is that it is missing. -/
theorem property (h : host.IsScripted) (path : List String) (world : World) :
    CallRelay.propertyText (host (.property path) world).1 = world.proxy.propertyText path ∧
      (host (.property path) world).2 = world := by
  unfold Proxy.propertyText
  cases hfails : world.proxy.failure? (.property path) with
  | none =>
    rw [h.apply_of_works hfails]
    refine ⟨?_, rfl⟩
    simp only [Proxy.reply, CallRelay.propertyText, Except.toOption, Option.join_some, reduceIte]
  | some status =>
    rcases h.apply_of_fails hfails with hreply | hreply
    · rw [hreply]
      exact ⟨rfl, rfl⟩
    · rw [hreply]
      cases status <;> exact ⟨rfl, rfl⟩

/-- What is taken from a scripted proxy is what it holds. -/
theorem heard_eq (h : host.IsScripted) (relay : CallRelay) (world : World) :
    relay.heard host world = world.proxy.outbound relay.path := by
  obtain ⟨hinbound, hfirst⟩ := h.requestHeaders world
  obtain ⟨hmethod, hsecond⟩ := h.property ["request", "method"] world
  obtain ⟨hauthority, -⟩ := h.property ["request", "host"] world
  have hpseudo (header : String × String) : (!CallRelay.pseudoHeaders.contains header.1) =
      decide (header.1 ∉ [":method", ":authority", ":path"]) := by
    rw [List.contains_eq_mem, decide_not]
    rfl
  simp only [CallRelay.heard, CallRelay.outbound, hfirst, hsecond, hinbound, hmethod, hauthority,
    hpseudo]
  rfl

end Host.IsScripted

namespace TraceEntry

/-- The cluster calls that a trace attempts, in order. -/
def dispatches (trace : List TraceEntry) : List Call :=
  (calls trace).filter (·.kind = .dispatch)

/-- The cluster calls of two traces follow each other. -/
theorem dispatches_append (opening ending : List TraceEntry) :
    dispatches (opening ++ ending) = dispatches opening ++ dispatches ending := by
  simp only [dispatches, calls_append, List.filter_append]

/-- There are as many cluster calls as are attempted. -/
theorem length_dispatches (trace : List TraceEntry) :
    (dispatches trace).length = attempts .dispatch trace := by
  rw [dispatches, attempts, List.count, List.countP_map, List.countP_eq_length_filter]
  rfl

end TraceEntry

namespace Stream

open Moment

variable {σ : Type}

/-- The one cluster call of a whole history is that of a moment which attempts one, for one attempt
in all is the most. -/
theorem dispatches_history {stream : Stream} {past later : List (Delivery σ)} {last : Delivery σ}
    {made : Call} (hmade : dispatches ((stream.through past).meet last).trace = [made]) :
    dispatches (traces (stream.history (past ++ last :: later))) = [made] := by
  have hsplit : dispatches (traces (stream.history (past ++ last :: later))) =
      dispatches (traces (stream.history past)) ++ ([made] ++
        dispatches (traces (((stream.through past).meet last).after.history later))) := by
    rw [history_append, history, traces, List.flatMap_append, List.flatMap_cons,
      dispatches_append, dispatches_append, hmade]
    rfl
  have honce : attempts .dispatch (traces (stream.history (past ++ last :: later))) ≤ 1 :=
    stream.attempts_history_le_one (past ++ last :: later) rfl
  rw [← length_dispatches, hsplit, List.length_append, List.length_append,
    List.length_singleton] at honce
  have hbefore : (dispatches (traces (stream.history past))).length = 0 := by omega
  have hbehind : (dispatches (traces
      (((stream.through past).meet last).after.history later))).length = 0 := by omega
  rw [hsplit, List.length_eq_zero_iff.mp hbefore, List.length_eq_zero_iff.mp hbehind]
  rfl

/-- A new stream that relays does so for what its configuration says. -/
theorem behavior_new {config : Config} (hkind : config.kind = .callRelay) (id : UInt32) :
    (Stream.new id (.ofConfig config)).behavior = .callRelay (.new config) := by
  simp only [new, Behavior.ofConfig, BehaviorKind.factory, Factory.make, hkind]

/-- The cluster call carries what was heard last. Let a new stream of a configuration that relays
meet a request that is let through, then anything but another such request, and then the end of
the body of the request, which is let through and can be read. Then the stream reads the body,
unless its size is zero, and calls the cluster of the configuration. The call carries the headers
that the proxy held for the request, but for those of the call itself, and behind them the method
and the authority that the proxy held and the path of the configuration; its body is as much of
the request body as the size says; it has no trailers and a limit of five seconds. Whatever the
stream has met before and meets later, it makes no other cluster call. -/
theorem dispatches_what_was_heard {id : UInt32} {config : Config} {stream : Stream}
    {before between : List (Delivery World)} {request last : Delivery World} {size : Nat}
    (hkind : config.kind = .callRelay) (hnew : stream = .new id (.ofConfig config))
    (hrequest : request.event = .phase .requestHeaders ∧ request.host.IsScripted)
    (hlast : last.event = .phase (.requestBody size true) ∧ last.host.IsScripted)
    (hheard : (stream.through before).state.gate? = none)
    (hdeaf : ∀ moment ∈ (stream.through (before ++ [request])).history between, ¬ moment.Hears)
    (hopen : (stream.through (before ++ request :: between)).state.gate? = none)
    (hread : size = 0 ∨ last.world.proxy.failure? (.body .request 0 size) = none)
    (later : List (Delivery World)) :
    let past := before ++ request :: between
    let moment := (stream.through past).meet last
    let made : Call := .dispatch config.cluster (request.world.proxy.outbound config.path)
      (last.world.proxy.requestBody.take size) [] 5000
    moment.calls = (if size = 0 then [] else [.body .request 0 size]) ++ [made] ∧
      dispatches (traces (stream.history (past ++ last :: later))) = [made] := by
  intro past moment made
  obtain ⟨headers, hbefore⟩ : ∃ headers, (stream.through before).behavior =
      .callRelay { CallRelay.new config with headers } := by
    rw [hnew]
    exact relay_through (behavior_new hkind id) before
  let called := ((stream.through before).meet request).after
  have hcalled : stream.through (before ++ [request]) = called := through_append stream before _
  have hpast : stream.through past = called.through between :=
    through_append stream before (request :: between)
  have hheaders : called.behavior = .callRelay
      { CallRelay.new config with headers := request.world.proxy.outbound config.path } := by
    have hmet := relay_meet_request hheard hbefore hrequest.1
    rwa [hrequest.2.heard_eq] at hmet
  rw [hcalled] at hdeaf
  have hkept := relay_through_of_deaf hheaders between hdeaf
  rw [← hpast] at hkept
  obtain ⟨opening, hbody, hreading⟩ := hlast.2.run_readBody hread
  have hcalls : moment.calls = calls opening ++ [made] :=
    calls_meet_last hopen hkept hlast.1 hbody
  rw [hreading] at hcalls
  have hmade : dispatches moment.trace = [made] := by
    rw [dispatches, show calls moment.trace = _ from hcalls]
    split <;> rfl
  exact ⟨hcalls, dispatches_history hmade⟩

/-- A request of two like headers and a path, under a proxy that knows its method. -/
def sampleRequest : Delivery World :=
  ⟨.phase .requestHeaders, .zero, Proxy.host, ⟨{ Proxy.blank with
    requestHeaders := [("a", "b"), (":path", "/"), ("a", "b")]
    properties := [("request.method", [0x47, 0x45, 0x54])] }, 1⟩⟩

/-- The end of the body of that request. -/
def sampleLast : Delivery World :=
  ⟨.phase (.requestBody 2 true), .zero, Proxy.host,
    ⟨{ Proxy.blank with requestBody := [0x78, 0x79, 0x7A] }, 1⟩⟩

/-- The first chunk of the body, and the response before the request has ended. -/
def sampleBetween : List (Delivery World) :=
  [.phase (.requestBody 1 false), .phase .responseHeaders].map fun event =>
    { sampleRequest with event }

/-- A request of another proxy before it. -/
def sampleEarlier : Delivery World := { sampleRequest with world := sampleLast.world }

/-- In the sample the second request is heard last, and both of its like headers are sent. -/
theorem sample_dispatches_what_was_heard :
    let stream := Stream.new 1 (.ofConfig ⟨.callRelay, "", "/call", "web"⟩)
    let past := [sampleEarlier] ++ sampleRequest :: sampleBetween
    let made : Call := .dispatch "web" [("a", "b"), ("a", "b"), (":method", "GET"),
      (":authority", ""), (":path", "/call")] [0x78, 0x79] [] 5000
    ((stream.through past).state.gate? = none ∧
      ∀ moment ∈ (stream.through ([sampleEarlier] ++ [sampleRequest])).history sampleBetween,
        ¬ moment.Hears) ∧
      ((stream.through past).meet sampleLast).calls = [.body .request 0 2, made] ∧
      dispatches (traces (stream.history (past ++ sampleLast :: [sampleRequest]))) = [made] := by
  intro stream past made
  have hrequest : sampleRequest.event = .phase .requestHeaders ∧ sampleRequest.host.IsScripted :=
    ⟨rfl, .inl rfl⟩
  have hlast : sampleLast.event = .phase (.requestBody 2 true) ∧ sampleLast.host.IsScripted :=
    ⟨rfl, .inl rfl⟩
  have hheard : (stream.through [sampleEarlier]).state.gate? = none := by decide
  have hdeaf : ∀ moment ∈ (stream.through ([sampleEarlier] ++ [sampleRequest])).history
      sampleBetween, ¬ moment.Hears := by decide
  have hopen : (stream.through past).state.gate? = none := by decide
  have hread : 2 = 0 ∨ sampleLast.world.proxy.failure? (.body .request 0 2) = none := .inr rfl
  have hcalls := dispatches_what_was_heard rfl rfl hrequest hlast hheard hdeaf hopen hread
    [sampleRequest]
  exact ⟨⟨hopen, hdeaf⟩, hcalls⟩

end Stream

end ProxyFilter
