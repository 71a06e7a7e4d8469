import ProxyFilter.Behavior
import ProxyFilter.Proofs.Dialogue.Course

/-!
# What a behavior can do

All courses of a phase are listed once, for the four behaviors together, with
the whole trace and the reaction of each. The courses of a completion follow.
Every later fact about calls, records, outcomes and counters is read off these
two lists, so a change to a callback is a change to its lines here.
-/

namespace ProxyFilter

open Dialogue

/-- The period of the timer that an action sets, and the notice of it. -/
def TimerAction.switch? : TimerAction → Option (Nat × Notice)
  | .enable => some (TimerControl.period, .enablingTimer TimerControl.period)
  | .disable => some (0, .disablingTimer)
  | .get => none

namespace TimerControl

variable {id : UInt32} {counters : Counters} {trace : List TraceEntry} {outcome : Outcome}

/-- What can follow the path of a request, by the action that it asks for. -/
inductive Follows (id : UInt32) (counters : Counters) :
    Option TimerAction → List TraceEntry → Outcome → Prop where
  /-- No action is asked for. -/
  | nothing : Follows id counters none [] .proceed
  /-- The number of firings is reported. -/
  | report (reply : Except Status Unit) (trace : List TraceEntry)
      (hsend : Attempt id .respond (.respond 200 [] (Bytes.ofNat counters.ticks)) trace reply) :
    Follows id counters (some .get) trace (if reply.isOk then .responded else .finished)
  /-- The timer is to be started or stopped, and the period is refused. -/
  | refusal (action : TimerAction) (period : Nat) (notice : Notice) (status : Status)
      (trace : List TraceEntry) (hswitch : action.switch? = some (period, notice))
      (hset : Attempt id (.setTickPeriod period) (.setTickPeriod period) trace (.error status)) :
    Follows id counters (some action) (.noted ⟨some id, notice⟩ :: trace) .proceed
  /-- The timer is started or stopped. -/
  | switch (action : TimerAction) (period : Nat) (notice : Notice) (reply : Except Status Unit)
      (middle ending : List TraceEntry) (hswitch : action.switch? = some (period, notice))
      (hset : Attempt id (.setTickPeriod period) (.setTickPeriod period) middle (.ok ()))
      (hsend : Attempt id .respond (.respond 200 [] (Text.Utf8.encode ['o', 'k'])) ending reply) :
    Follows id counters (some action) (.noted ⟨some id, notice⟩ :: (middle ++ ending))
      (if reply.isOk then .responded else .finished)

/-- An answer with the number of firings comes to a report. -/
theorem follows_report (h : (respond id (Bytes.ofNat counters.ticks)).Course trace outcome) :
    Follows id counters (some .get) trace outcome := by
  obtain ⟨sent, hsend, rfl⟩ := course_respond h
  exact .report sent trace hsend

/-- Starting or stopping the timer comes to one of two ends. -/
theorem follows_switch {action : TimerAction} {period : Nat} {notice : Notice}
    (hswitch : action.switch? = some (period, notice))
    (h : (say id notice >>= fun _ => setPeriod id period).Course trace outcome) :
    Follows id counters (some action) trace outcome := by
  obtain ⟨rest, rfl, hperiod⟩ := course_say_bind h
  obtain ⟨reply, middle, last, rfl, hset, hlast⟩ :=
    attempt_of_course (.setTickPeriod period) hperiod fun _ => rfl
  cases reply with
  | error status =>
    obtain ⟨rfl, rfl⟩ := course_pure hlast
    rw [List.append_nil]
    exact .refusal action period notice status middle hswitch hset
  | ok _ =>
    obtain ⟨sent, hsend, rfl⟩ := course_respond hlast
    exact .switch action period notice sent middle last hswitch hset hsend

end TimerControl

namespace CallRelay

/-- The text of a property that was asked for, empty without a value. -/
def propertyText (reply : Except Status (Option Bytes)) : String :=
  (reply.toOption.join.map Property.decode).getD ""

/-- The headers of the call, made from what the proxy has replied. -/
def outbound (self : CallRelay) (inbound : Except Status Headers)
    (method authority : Except Status (Option Bytes)) : Headers :=
  ((inbound.toOption.getD []).filter fun header => !pseudoHeaders.contains header.1) ++
    [(":method", propertyText method), (":authority", propertyText authority),
      (":path", self.path)]

/-- The headers that are passed on, made from what the proxy has replied. -/
def relayed (received : Except Status Headers) : Headers :=
  (received.toOption.getD []).filter fun header => isRelayed header.1

/-- The end of a completion: the answer, and behind an answer that fails the release of
the request. -/
def answer (id : UInt32) (headers : Headers) (body : Bytes) : Dialogue Unit := do
  let reply : Except Status Unit ← call (.respond 200 headers body)
  if let .error status := reply then
    sayFailed id .respond status
    let reply : Except Status Unit ← call .resumeRequest
    if let .error status := reply then sayFailed id .resumeRequest status

/-- The record of a completion without any header. -/
def warning (id : UInt32) (self : CallRelay) (headers : Nat) : List TraceEntry :=
  if headers = 0 then [.noted ⟨some id, .callFailed self.cluster⟩] else []

end CallRelay

/-- The function that is applied to a whole body in a phase, with the body and its
size. -/
def BodyTransform.applies? : BodyTransform → Phase → Option (String × Buffer × Nat)
  | ⟨_, .request name⟩, .requestBody size true => some (name, .request, size)
  | ⟨_, .response name⟩, .responseBody size true => some (name, .response, size)
  | _, _ => none

namespace Behavior

/-- The body that a behavior buffers in a phase, with the size so far and whether
it is the end. -/
def buffered? : Behavior → Phase → Option (Buffer × Nat × Bool)
  | .callRelay _, .requestBody size isLast => some (.request, size, isLast)
  | .bodyTransform ⟨_, .request _⟩, .requestBody size isLast => some (.request, size, isLast)
  | .bodyTransform ⟨_, .response _⟩, .responseBody size isLast => some (.response, size, isLast)
  | _, _ => none

/-- Whether a behavior does something when a phase brings headers. -/
def headed : Behavior → Phase → Bool
  | _, .requestHeaders => true
  | .requestNumbering _, .responseHeaders => true
  | _, _ => false

/-- The courses of a phase: a behavior under given counters, the phase, the trace
and the reaction. -/
inductive Reacts (id : UInt32) (counters : Counters) :
    Behavior → Phase → List TraceEntry → Reaction → Prop where
  /-- The phase passes through. -/
  | passed (behavior : Behavior) (phase : Phase) (hheaders : behavior.headed phase = false)
      (hbody : behavior.buffered? phase = none) :
    Reacts id counters behavior phase [] ⟨.proceed, behavior, counters⟩
  /-- More of a buffered body is to come. -/
  | held (behavior : Behavior) (phase : Phase) (buffer : Buffer) (size : Nat)
      (hbuffer : behavior.buffered? phase = some (buffer, size, false)) :
    Reacts id counters behavior phase [] ⟨.awaitBody, behavior, counters⟩
  /-- A buffered body is complete and cannot be read. -/
  | unread (behavior : Behavior) (phase : Phase) (buffer : Buffer) (size : Nat)
      (status : Status) (trace : List TraceEntry)
      (hbuffer : behavior.buffered? phase = some (buffer, size, true))
      (hread : Reading id buffer size trace (.error status)) :
    Reacts id counters behavior phase trace ⟨.finished, behavior, counters⟩
  /-- The request is numbered. -/
  | stampedRequest (self : RequestNumbering) (reply : Except Status Unit)
      (trace : List TraceEntry)
      (hstamp : Attempt id .stampRequest (.addRequestHeader RequestNumbering.requestHeader
        (toString (self.take counters).1)) trace reply) :
    Reacts id counters (.requestNumbering self) .requestHeaders trace
      ⟨.proceed, .requestNumbering ⟨some (self.take counters).1⟩, (self.take counters).2⟩
  /-- A response without number stays as it is. -/
  | early (self : RequestNumbering) (hnumber : self.number = none) :
    Reacts id counters (.requestNumbering self) .responseHeaders
      [.noted ⟨some id, .responseBeforeRequest⟩] ⟨.finished, .requestNumbering self, counters⟩
  /-- The response is numbered. -/
  | stampedResponse (self : RequestNumbering) (number : Nat) (reply : Except Status Unit)
      (trace : List TraceEntry) (hnumber : self.number = some number)
      (hstamp : Attempt id .stampResponse (.addResponseHeader RequestNumbering.responseHeader
        (toString number)) trace reply) :
    Reacts id counters (.requestNumbering self) .responseHeaders trace
      ⟨.finished, .requestNumbering self, counters⟩
  /-- The path of a request to the timer cannot be read. -/
  | unrouted (status : Status) (trace : List TraceEntry)
      (hroute : Routing id trace (.error status)) :
    Reacts id counters .timerControl .requestHeaders trace ⟨.proceed, .timerControl, counters⟩
  /-- The path asks nothing of the timer. -/
  | uncontrolled (path : String) (trace : List TraceEntry)
      (hroute : Routing id trace (.ok path)) (haction : TimerAction.ofPath? path = none) :
    Reacts id counters .timerControl .requestHeaders trace ⟨.proceed, .timerControl, counters⟩
  /-- The path asks for the number of firings. -/
  | reported (path : String) (reply : Except Status Unit) (opening ending : List TraceEntry)
      (hroute : Routing id opening (.ok path)) (haction : TimerAction.ofPath? path = some .get)
      (hsend : Attempt id .respond (.respond 200 [] (Bytes.ofNat counters.ticks)) ending reply) :
    Reacts id counters .timerControl .requestHeaders (opening ++ ending)
      ⟨if reply.isOk then .responded else .finished, .timerControl, counters⟩
  /-- The path starts or stops the timer, and the period is refused. -/
  | unswitched (path : String) (action : TimerAction) (period : Nat) (notice : Notice)
      (status : Status) (opening ending : List TraceEntry)
      (hroute : Routing id opening (.ok path)) (haction : TimerAction.ofPath? path = some action)
      (hswitch : action.switch? = some (period, notice))
      (hset : Attempt id (.setTickPeriod period) (.setTickPeriod period) ending (.error status)) :
    Reacts id counters .timerControl .requestHeaders
      (opening ++ .noted ⟨some id, notice⟩ :: ending) ⟨.proceed, .timerControl, counters⟩
  /-- The path starts or stops the timer. -/
  | switched (path : String) (action : TimerAction) (period : Nat) (notice : Notice)
      (reply : Except Status Unit) (opening middle ending : List TraceEntry)
      (hroute : Routing id opening (.ok path)) (haction : TimerAction.ofPath? path = some action)
      (hswitch : action.switch? = some (period, notice))
      (hset : Attempt id (.setTickPeriod period) (.setTickPeriod period) middle (.ok ()))
      (hsend : Attempt id .respond (.respond 200 [] (Text.Utf8.encode ['o', 'k'])) ending reply) :
    Reacts id counters .timerControl .requestHeaders
      (opening ++ .noted ⟨some id, notice⟩ :: (middle ++ ending))
      ⟨if reply.isOk then .responded else .finished, .timerControl, counters⟩
  /-- The headers of the cluster call are taken. -/
  | captured (self : CallRelay) (inbound : Except Status Headers)
      (method authority : Except Status (Option Bytes)) (opening middle ending : List TraceEntry)
      (hinbound : Attempt id .readRequestHeaders .requestHeaders opening inbound)
      (hmethod : Attempt id (.readProperty ["request", "method"])
        (.property ["request", "method"]) middle method)
      (hauthority : Attempt id (.readProperty ["request", "host"])
        (.property ["request", "host"]) ending authority) :
    Reacts id counters (.callRelay self) .requestHeaders (opening ++ (middle ++ ending))
      ⟨.proceed, .callRelay { self with headers := self.outbound inbound method authority },
        counters⟩
  /-- The cluster call is on its way. -/
  | dispatched (self : CallRelay) (size : Nat) (body : Bytes) (token : UInt32)
      (opening ending : List TraceEntry)
      (hread : Reading id .request size opening (.ok body))
      (hcall : Attempt id .dispatch
        (.dispatch self.cluster self.headers body [] CallRelay.timeout) ending (.ok token)) :
    Reacts id counters (.callRelay self) (.requestBody size true)
      (opening ++ .noted ⟨some id, .dispatching self.cluster body.length⟩ :: ending)
      ⟨.awaitCall token, .callRelay self, counters⟩
  /-- The cluster call is refused. -/
  | undispatched (self : CallRelay) (size : Nat) (body : Bytes) (status : Status)
      (opening ending : List TraceEntry)
      (hread : Reading id .request size opening (.ok body))
      (hcall : Attempt id .dispatch
        (.dispatch self.cluster self.headers body [] CallRelay.timeout) ending (.error status)) :
    Reacts id counters (.callRelay self) (.requestBody size true)
      (opening ++ .noted ⟨some id, .dispatching self.cluster body.length⟩ :: ending)
      ⟨.finished, .callRelay self, counters⟩
  /-- The mode of a transformed stream is decided. -/
  | decided (self : BodyTransform) (route : Except Status String) (trace : List TraceEntry)
      (hroute : Routing id trace route) :
    Reacts id counters (.bodyTransform self) .requestHeaders trace
      ⟨.proceed, .bodyTransform { self with
        mode := BodyTransform.modeOf (route.toOption.getD "") self.function }, counters⟩
  /-- The foreign function fails. -/
  | unapplied (self : BodyTransform) (phase : Phase) (name : String) (buffer : Buffer)
      (size : Nat) (body : Bytes) (status : Status) (opening ending : List TraceEntry)
      (happlies : self.applies? phase = some (name, buffer, size))
      (hread : Reading id buffer size opening (.ok body))
      (hcall : Attempt id (.callForeign name) (.foreignFunction name body) ending
        (.error status)) :
    Reacts id counters (.bodyTransform self) phase
      (opening ++ .noted ⟨some id, .callingForeign name⟩ :: ending)
      ⟨.finished, .bodyTransform self, counters⟩
  /-- The request is answered with the function of its body. -/
  | answered (self : BodyTransform) (name : String) (size : Nat) (body : Bytes)
      (result : Option Bytes) (reply : Except Status Unit)
      (opening middle ending : List TraceEntry) (hmode : self.mode = .request name)
      (hread : Reading id .request size opening (.ok body))
      (hcall : Attempt id (.callForeign name) (.foreignFunction name body) middle (.ok result))
      (hsend : Attempt id .respond (.respond 200 [] (result.getD [])) ending reply) :
    Reacts id counters (.bodyTransform self) (.requestBody size true)
      (opening ++ .noted ⟨some id, .callingForeign name⟩ :: (middle ++ ending))
      ⟨if reply.isOk then .responded else .finished, .bodyTransform self, counters⟩
  /-- The response body is replaced by the function of it. -/
  | replaced (self : BodyTransform) (name : String) (size : Nat) (body : Bytes)
      (result : Option Bytes) (reply : Except Status Unit)
      (opening middle ending : List TraceEntry) (hmode : self.mode = .response name)
      (hread : Reading id .response size opening (.ok body))
      (hcall : Attempt id (.callForeign name) (.foreignFunction name body) middle (.ok result))
      (hset : Attempt id .replaceResponse (.replaceResponseBody 0 size (result.getD []))
        ending reply) :
    Reacts id counters (.bodyTransform self) (.responseBody size true)
      (opening ++ .noted ⟨some id, .callingForeign name⟩ :: (middle ++ ending))
      ⟨.finished, .bodyTransform self, counters⟩

/-- The courses of a completion under relaying: the trace for given counts. -/
inductive Relays (id : UInt32) (self : CallRelay) (headers bodySize : Nat) :
    List TraceEntry → Prop where
  /-- The request is answered. -/
  | answered (received : Except Status Headers) (body : Except Status Bytes)
      (opening middle ending : List TraceEntry)
      (hheaders : Attempt id .readResponseHeaders .callResponseHeaders opening received)
      (hbody : Reading id .callResponse bodySize middle body)
      (hsend : Attempt id .respond
        (.respond 200 (CallRelay.relayed received) (body.toOption.getD [])) ending (.ok ())) :
    Relays id self headers bodySize
      (CallRelay.warning id self headers ++ (opening ++ (middle ++ ending)))
  /-- The request cannot be answered and goes on. -/
  | resumed (received : Except Status Headers) (body : Except Status Bytes) (status : Status)
      (reply : Except Status Unit) (opening middle ending last : List TraceEntry)
      (hheaders : Attempt id .readResponseHeaders .callResponseHeaders opening received)
      (hbody : Reading id .callResponse bodySize middle body)
      (hsend : Attempt id .respond
        (.respond 200 (CallRelay.relayed received) (body.toOption.getD [])) ending
        (.error status))
      (hresume : Attempt id .resumeRequest .resumeRequest last reply) :
    Relays id self headers bodySize
      (CallRelay.warning id self headers ++ (opening ++ (middle ++ (ending ++ last))))

section

variable {id : UInt32} {counters : Counters} {trace : List TraceEntry} {reaction : Reaction}

/-- Request headers under request numbering. -/
theorem reacts_stampRequest {self : RequestNumbering}
    (h : (onPhase id (.requestNumbering self) counters .requestHeaders).Course trace reaction) :
    Reacts id counters (.requestNumbering self) .requestHeaders trace reaction := by
  unfold onPhase at h
  simp only [RequestNumbering.onRequestHeaders] at h
  obtain ⟨⟨outcome, next, after⟩, opening, ending, rfl, hstamp, hrest⟩ := course_bind h
  obtain ⟨rfl, rfl⟩ := course_pure hrest
  obtain ⟨reply, first, last, rfl, hattempt, hlast⟩ :=
    attempt_of_course .stampRequest hstamp fun _ => rfl
  have hdone : last = [] ∧ (outcome, next, after) = (Outcome.proceed,
      (⟨some (self.take counters).1⟩ : RequestNumbering), (self.take counters).2) := by
    cases reply <;> exact course_pure hlast
  obtain ⟨rfl, heq⟩ := hdone
  cases heq
  rw [List.append_nil, List.append_nil]
  exact .stampedRequest self reply first hattempt

/-- Response headers under request numbering. -/
theorem reacts_stampResponse {self : RequestNumbering}
    (h : (onPhase id (.requestNumbering self) counters .responseHeaders).Course trace reaction) :
    Reacts id counters (.requestNumbering self) .responseHeaders trace reaction := by
  unfold onPhase at h
  simp only [RequestNumbering.onResponseHeaders] at h
  obtain ⟨outcome, opening, ending, rfl, hstamp, hrest⟩ := course_bind h
  obtain ⟨rfl, rfl⟩ := course_pure hrest
  rw [List.append_nil]
  cases hnumber : self.number with
  | none =>
    rw [hnumber] at hstamp
    obtain ⟨last, rfl, hlast⟩ := course_say_bind hstamp
    obtain ⟨rfl, rfl⟩ := course_pure hlast
    exact .early self hnumber
  | some number =>
    rw [hnumber] at hstamp
    obtain ⟨reply, first, last, rfl, hattempt, hlast⟩ :=
      attempt_of_course .stampResponse hstamp fun _ => rfl
    have hdone : last = [] ∧ outcome = .finished := by
      cases reply <;> exact course_pure hlast
    obtain ⟨rfl, rfl⟩ := hdone
    rw [List.append_nil]
    exact .stampedResponse self number reply first hnumber hattempt

/-- What follows the path under timer control is a reaction behind it. -/
theorem reacts_of_follows {path : String} {opening ending : List TraceEntry} {outcome : Outcome}
    (hroute : Routing id opening (.ok path))
    (h : TimerControl.Follows id counters (TimerAction.ofPath? path) ending outcome) :
    Reacts id counters .timerControl .requestHeaders (opening ++ ending)
      ⟨outcome, .timerControl, counters⟩ := by
  generalize haction : TimerAction.ofPath? path = control at h
  cases h with
  | nothing =>
    rw [List.append_nil]
    exact .uncontrolled path opening hroute haction
  | report reply _ hsend => exact .reported path reply opening ending hroute haction hsend
  | refusal action period notice status trace hswitch hset =>
    exact .unswitched path action period notice status opening trace hroute haction hswitch hset
  | switch action period notice reply middle ending hswitch hset hsend =>
    exact .switched path action period notice reply opening middle ending hroute haction hswitch
      hset hsend

/-- Request headers under timer control. -/
theorem reacts_control
    (h : (onPhase id .timerControl counters .requestHeaders).Course trace reaction) :
    Reacts id counters .timerControl .requestHeaders trace reaction := by
  unfold onPhase at h
  simp only [TimerControl.onRequestHeaders] at h
  obtain ⟨outcome, body, ending, rfl, hcontrol, hrest⟩ := course_bind h
  obtain ⟨rfl, rfl⟩ := course_pure hrest
  obtain ⟨route, opening, last, rfl, hroute, hlast⟩ :=
    routing_of_course id hcontrol fun _ => rfl
  rw [List.append_nil]
  cases route with
  | error status =>
    obtain ⟨rfl, rfl⟩ := course_pure hlast
    rw [List.append_nil]
    exact .unrouted status opening hroute
  | ok path =>
    refine reacts_of_follows hroute ?_
    cases haction : TimerAction.ofPath? path with
    | none =>
      simp only [haction] at hlast
      obtain ⟨rfl, rfl⟩ := course_pure hlast
      exact .nothing
    | some action =>
      cases action with
      | enable =>
        simp only [haction] at hlast
        exact TimerControl.follows_switch rfl hlast
      | disable =>
        simp only [haction] at hlast
        exact TimerControl.follows_switch rfl hlast
      | get =>
        simp only [haction] at hlast
        exact TimerControl.follows_report hlast

/-- The part of relaying that reads one property. -/
theorem attempt_property {path : List String} {text : String}
    (h : (CallRelay.property id path).Course trace text) :
    ∃ reply, Attempt id (.readProperty path) (.property path) trace reply ∧
      text = CallRelay.propertyText reply := by
  unfold CallRelay.property at h
  obtain ⟨found, opening, ending, rfl, hfound, hrest⟩ := course_bind h
  unfold Property.text at hfound
  obtain ⟨reply, last, rfl, hlast⟩ := course_call_bind hfound
  obtain ⟨rfl, rfl⟩ := course_pure hlast
  refine ⟨reply, ?_⟩
  cases reply with
  | ok value =>
    obtain ⟨rfl, rfl⟩ := course_pure hrest
    exact ⟨.success value, rfl⟩
  | error status =>
    obtain ⟨last, rfl, hlast⟩ := course_say_bind hrest
    obtain ⟨rfl, rfl⟩ := course_pure hlast
    exact ⟨.failure status, rfl⟩

/-- Request headers under relaying. -/
theorem reacts_capture {self : CallRelay}
    (h : (onPhase id (.callRelay self) counters .requestHeaders).Course trace reaction) :
    Reacts id counters (.callRelay self) .requestHeaders trace reaction := by
  unfold onPhase at h
  simp only [CallRelay.onRequestHeaders] at h
  obtain ⟨next, body, ending, rfl, hcapture, hrest⟩ := course_bind h
  obtain ⟨rfl, rfl⟩ := course_pure hrest
  obtain ⟨inbound, opening, rest, rfl, hinbound, hprops⟩ :=
    attempt_of_course .readRequestHeaders hcapture fun _ => rfl
  have hread : (CallRelay.property id ["request", "method"] >>= fun method =>
      CallRelay.property id ["request", "host"] >>= fun authority =>
      pure { self with headers := ((inbound.toOption.getD []).filter fun header =>
        !CallRelay.pseudoHeaders.contains header.1) ++ [(":method", method),
          (":authority", authority), (":path", self.path)] }).Course rest next := by
    cases inbound <;> exact hprops
  obtain ⟨_, middle, tail, rfl, hfirst, htail⟩ := course_bind hread
  obtain ⟨_, last, done, rfl, hsecond, hdone⟩ := course_bind htail
  obtain ⟨rfl, rfl⟩ := course_pure hdone
  obtain ⟨method, hmethod, rfl⟩ := attempt_property hfirst
  obtain ⟨authority, hauthority, rfl⟩ := attempt_property hsecond
  rw [List.append_nil, List.append_nil]
  exact .captured self inbound method authority opening middle last hinbound hmethod hauthority

/-- The request body under relaying. -/
theorem reacts_dispatch {self : CallRelay} {size : Nat} {isLast : Bool}
    (h : (onPhase id (.callRelay self) counters (.requestBody size isLast)).Course trace
      reaction) :
    Reacts id counters (.callRelay self) (.requestBody size isLast) trace reaction := by
  unfold onPhase at h
  simp only [CallRelay.onRequestBody] at h
  obtain ⟨outcome, body, ending, rfl, hbody, hrest⟩ := course_bind h
  obtain ⟨rfl, rfl⟩ := course_pure hrest
  rw [List.append_nil]
  cases isLast with
  | false =>
    obtain ⟨rfl, rfl⟩ := course_pure hbody
    exact .held _ _ .request size rfl
  | true =>
    obtain ⟨read, opening, rest, rfl, hread, hcall⟩ :=
      reading_of_course id hbody fun _ => rfl
    cases read with
    | error status =>
      obtain ⟨rfl, rfl⟩ := course_pure hcall
      rw [List.append_nil]
      exact .unread _ _ .request size status opening rfl hread
    | ok bytes =>
      obtain ⟨call, rfl, hdispatch⟩ := course_say_bind hcall
      obtain ⟨reply, middle, last, rfl, hattempt, hlast⟩ :=
        attempt_of_course .dispatch hdispatch fun _ => rfl
      cases reply with
      | ok token =>
        obtain ⟨rfl, rfl⟩ := course_pure hlast
        rw [List.append_nil]
        exact .dispatched self size bytes token opening middle hread hattempt
      | error status =>
        obtain ⟨rfl, rfl⟩ := course_pure hlast
        rw [List.append_nil]
        exact .undispatched self size bytes status opening middle hread hattempt

/-- Request headers under a body transform. -/
theorem reacts_decide {self : BodyTransform}
    (h : (onPhase id (.bodyTransform self) counters .requestHeaders).Course trace reaction) :
    Reacts id counters (.bodyTransform self) .requestHeaders trace reaction := by
  unfold onPhase at h
  simp only [BodyTransform.onRequestHeaders] at h
  obtain ⟨next, body, ending, rfl, hdecide, hrest⟩ := course_bind h
  obtain ⟨rfl, rfl⟩ := course_pure hrest
  obtain ⟨route, opening, last, rfl, hroute, hlast⟩ :=
    routing_of_course id hdecide fun _ => rfl
  have hdone : last = [] ∧ next = { self with
      mode := BodyTransform.modeOf (route.toOption.getD "") self.function } := by
    cases route <;> exact course_pure hlast
  obtain ⟨rfl, rfl⟩ := hdone
  rw [List.append_nil, List.append_nil]
  exact .decided self route opening hroute

/-- The part of a body transform that applies its function. -/
theorem attempt_apply {name : String} {body : Bytes} {result : Option Bytes}
    (h : (BodyTransform.apply id name body).Course trace result) :
    ∃ reply ending, trace = .noted ⟨some id, .callingForeign name⟩ :: ending ∧
      Attempt id (.callForeign name) (.foreignFunction name body) ending reply ∧
      result = reply.toOption.map (·.getD []) := by
  unfold BodyTransform.apply at h
  obtain ⟨ending, rfl, hcall⟩ := course_say_bind h
  obtain ⟨reply, first, last, rfl, hattempt, hlast⟩ :=
    attempt_of_course (.callForeign name) hcall fun _ => rfl
  refine ⟨reply, first, ?_⟩
  cases reply with
  | ok data =>
    obtain ⟨rfl, rfl⟩ := course_pure hlast
    rw [List.append_nil]
    exact ⟨rfl, hattempt, rfl⟩
  | error status =>
    obtain ⟨rfl, rfl⟩ := course_pure hlast
    rw [List.append_nil]
    exact ⟨rfl, hattempt, rfl⟩

/-- The request body under a body transform. -/
theorem reacts_answer {self : BodyTransform} {size : Nat} {isLast : Bool}
    (h : (onPhase id (.bodyTransform self) counters (.requestBody size isLast)).Course trace
      reaction) :
    Reacts id counters (.bodyTransform self) (.requestBody size isLast) trace reaction := by
  unfold onPhase at h
  dsimp only at h
  obtain ⟨outcome, body, ending, rfl, hbody, hrest⟩ := course_bind h
  obtain ⟨rfl, rfl⟩ := course_pure hrest
  rw [List.append_nil]
  obtain ⟨function, mode⟩ := self
  cases mode with
  | request name =>
    cases isLast with
    | false =>
      obtain ⟨rfl, rfl⟩ := course_pure hbody
      exact .held _ _ .request size rfl
    | true =>
      obtain ⟨read, opening, rest, rfl, hread, hcall⟩ :=
        reading_of_course id hbody fun _ => rfl
      cases read with
      | error status =>
        obtain ⟨rfl, rfl⟩ := course_pure hcall
        rw [List.append_nil]
        exact .unread _ _ .request size status opening rfl hread
      | ok bytes =>
        obtain ⟨result, applied, last, rfl, happly, hanswer⟩ := course_bind hcall
        obtain ⟨reply, middle, rfl, hattempt, rfl⟩ := attempt_apply happly
        cases reply with
        | error status =>
          obtain ⟨rfl, rfl⟩ := course_pure hanswer
          rw [List.append_nil]
          exact .unapplied _ _ name .request size bytes status opening middle rfl hread hattempt
        | ok data =>
          obtain ⟨sent, hsend, rfl⟩ := course_respond hanswer
          exact .answered _ name size bytes data sent opening middle last rfl hread hattempt hsend
  | _ =>
    obtain ⟨rfl, rfl⟩ := course_pure hbody
    exact .passed _ _ rfl rfl

/-- The response body under a body transform. -/
theorem reacts_replace {self : BodyTransform} {size : Nat} {isLast : Bool}
    (h : (onPhase id (.bodyTransform self) counters (.responseBody size isLast)).Course trace
      reaction) :
    Reacts id counters (.bodyTransform self) (.responseBody size isLast) trace reaction := by
  unfold onPhase at h
  dsimp only at h
  obtain ⟨outcome, body, ending, rfl, hbody, hrest⟩ := course_bind h
  obtain ⟨rfl, rfl⟩ := course_pure hrest
  rw [List.append_nil]
  obtain ⟨function, mode⟩ := self
  cases mode with
  | response name =>
    cases isLast with
    | false =>
      obtain ⟨rfl, rfl⟩ := course_pure hbody
      exact .held _ _ .response size rfl
    | true =>
      obtain ⟨read, opening, rest, rfl, hread, hcall⟩ :=
        reading_of_course id hbody fun _ => rfl
      cases read with
      | error status =>
        obtain ⟨rfl, rfl⟩ := course_pure hcall
        rw [List.append_nil]
        exact .unread _ _ .response size status opening rfl hread
      | ok bytes =>
        obtain ⟨result, applied, last, rfl, happly, hset⟩ := course_bind hcall
        obtain ⟨reply, middle, rfl, hattempt, rfl⟩ := attempt_apply happly
        cases reply with
        | error status =>
          obtain ⟨rfl, rfl⟩ := course_pure hset
          rw [List.append_nil]
          exact .unapplied _ _ name .response size bytes status opening middle rfl hread hattempt
        | ok data =>
          obtain ⟨set, first, done, rfl, hattempt', hdone⟩ :=
            attempt_of_course .replaceResponse hset fun _ => rfl
          have hend : done = [] ∧ outcome = .finished := by
            cases set <;> exact course_pure hdone
          obtain ⟨rfl, rfl⟩ := hend
          rw [List.append_nil]
          exact .replaced _ name size bytes data set opening middle first rfl hread hattempt
            hattempt'
  | _ =>
    obtain ⟨rfl, rfl⟩ := course_pure hbody
    exact .passed _ _ rfl rfl

/-- Every course of a phase is listed. -/
theorem reacts_of_course {behavior : Behavior} {phase : Phase}
    (h : (onPhase id behavior counters phase).Course trace reaction) :
    Reacts id counters behavior phase trace reaction := by
  cases behavior with
  | requestNumbering self =>
    cases phase with
    | requestHeaders => exact reacts_stampRequest h
    | responseHeaders => exact reacts_stampResponse h
    | _ =>
      obtain ⟨rfl, rfl⟩ := course_pure h
      exact .passed _ _ rfl rfl
  | timerControl =>
    cases phase with
    | requestHeaders => exact reacts_control h
    | _ =>
      obtain ⟨rfl, rfl⟩ := course_pure h
      exact .passed _ _ rfl rfl
  | callRelay self =>
    cases phase with
    | requestHeaders => exact reacts_capture h
    | requestBody size isLast => exact reacts_dispatch h
    | _ =>
      obtain ⟨rfl, rfl⟩ := course_pure h
      exact .passed _ _ rfl rfl
  | bodyTransform self =>
    cases phase with
    | requestHeaders => exact reacts_decide h
    | requestBody size isLast => exact reacts_answer h
    | responseBody size isLast => exact reacts_replace h
    | responseHeaders =>
      obtain ⟨rfl, rfl⟩ := course_pure h
      exact .passed _ _ rfl (by simp only [buffered?])

/-- Behind its warning a completion without headers goes on like any other. -/
theorem course_warning {self : CallRelay} {headers bodySize : Nat} {result : Unit}
    (h : (self.onCompletion id headers bodySize).Course trace result) :
    ∃ rest, trace = self.warning id headers ++ rest ∧
      (self.onCompletion id 1 bodySize).Course rest result := by
  by_cases hzero : headers = 0
  · subst hzero
    exact course_say_bind h
  · have hsame : self.onCompletion id headers bodySize = self.onCompletion id 1 bodySize := by
      unfold CallRelay.onCompletion
      rw [if_neg hzero, if_neg Nat.one_ne_zero]
    refine ⟨trace, ?_, hsame ▸ h⟩
    rw [CallRelay.warning, if_neg hzero, List.nil_append]

/-- Every course of a completion under relaying is listed. -/
theorem relays_of_course {self : CallRelay} {headers bodySize : Nat} {result : Unit}
    (h : (self.onCompletion id headers bodySize).Course trace result) :
    Relays id self headers bodySize trace := by
  obtain ⟨rest, rfl, hrest⟩ := course_warning h
  obtain ⟨received, opening, tail, rfl, hheaders, htail⟩ :=
    attempt_of_course .readResponseHeaders hrest fun _ => rfl
  have hbody : ∃ (body : Except Status Bytes) (middle ending : List TraceEntry),
      tail = middle ++ ending ∧ Reading id .callResponse bodySize middle body ∧
      (CallRelay.answer id (CallRelay.relayed received) (body.toOption.getD [])).Course
        ending result := by
    cases received
    all_goals
      obtain ⟨body, middle, ending, rfl, hread, hsend⟩ := reading_of_course id htail fun _ => rfl
      cases body <;> exact ⟨_, middle, ending, rfl, hread, hsend⟩
  obtain ⟨body, middle, ending, rfl, hread, hanswer⟩ := hbody
  obtain ⟨reply, sent, last, rfl, hsend, hlast⟩ := attempt_of_course .respond hanswer fun _ => rfl
  cases reply with
  | ok _ =>
    obtain ⟨rfl, _⟩ := course_pure hlast
    rw [List.append_nil]
    exact .answered received body opening middle sent hheaders hread hsend
  | error status =>
    obtain ⟨again, resumed, done, rfl, hresume, hdone⟩ :=
      attempt_of_course .resumeRequest hlast fun _ => rfl
    have hend : done = [] := by
      cases again <;> exact (course_pure hdone).1
    rw [hend, List.append_nil]
    exact .resumed received body status again opening middle sent resumed hheaders hread hsend
      hresume

end

end Behavior

end ProxyFilter
