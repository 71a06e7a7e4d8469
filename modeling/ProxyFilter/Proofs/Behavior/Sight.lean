import ProxyFilter.Proofs.Dialogue.Agreement
import ProxyFilter.Session.Step

/-!
# What a run sees of the buffered bodies

Every call looks at one buffered body at most. A phase never looks at the answer to a
cluster call, and a completion looks at nothing else. So what a scripted proxy holds
otherwise may differ from one proxy to another without any trace of it in the run.
-/

namespace ProxyFilter

open Dialogue TraceEntry

/-- The buffered body that calls of a kind look at. -/
def CallKind.buffer? : CallKind → Option Buffer
  | .body buffer => some buffer
  | .replaceResponseBody => some .response
  | .callResponseHeaders => some .callResponse
  | _ => none

namespace Proxy

/-- Two proxies hold the same, but for the bodies that are hidden. The headers that answered
a cluster call are hidden with the body that did. -/
structure SameBut (hidden : Buffer → Bool) (proxy away : Proxy) : Prop where
  /-- The headers of the request are the same. -/
  requestHeaders : away.requestHeaders = proxy.requestHeaders
  /-- The properties are the same. -/
  properties : away.properties = proxy.properties
  /-- The functions are the same. -/
  functions : away.functions = proxy.functions
  /-- The calls that fail are the same. -/
  failures : away.failures = proxy.failures
  /-- The bodies in sight are the same. -/
  buffered : ∀ buffer, hidden buffer = false → away.buffered buffer = proxy.buffered buffer
  /-- The headers that answered a cluster call are the same, if they are in sight. -/
  callHeaders : hidden .callResponse = false → away.callHeaders = proxy.callHeaders

namespace SameBut

variable {hidden more : Buffer → Bool} {proxy away : Proxy}

/-- A proxy holds the same as itself. -/
theorem refl (hidden : Buffer → Bool) (proxy : Proxy) : SameBut hidden proxy proxy :=
  ⟨rfl, rfl, rfl, rfl, fun _ _ => rfl, fun _ => rfl⟩

/-- Where more is hidden, less has to be the same. -/
theorem hide (h : SameBut hidden proxy away) (hmore : ∀ buffer, more buffer = false →
    hidden buffer = false) : SameBut more proxy away :=
  { h with
    buffered := fun buffer hbuffer => h.buffered buffer (hmore buffer hbuffer)
    callHeaders := fun hbuffer => h.callHeaders (hmore .callResponse hbuffer) }

/-- A call fails in both proxies or in none. -/
theorem failure? (h : SameBut hidden proxy away) (call : Call) :
    away.failure? call = proxy.failure? call := by
  simp only [Proxy.failure?, failureAbout?, h.failures]

/-- Contents that a script gives are given to both. -/
theorem script (h : SameBut hidden proxy away) (script : Script) (token : UInt32) :
    SameBut hidden (script.apply ⟨proxy, token⟩).proxy (script.apply ⟨away, token⟩).proxy := by
  constructor
  case requestHeaders => exact congrArg script.requestHeaders.getD h.requestHeaders
  case properties => exact congrArg script.properties.getD h.properties
  case functions => exact congrArg script.functions.getD h.functions
  case failures => exact congrArg script.failures.getD h.failures
  case callHeaders => exact h.callHeaders
  case buffered =>
    intro buffer hbuffer
    have hsame := h.buffered buffer hbuffer
    cases buffer with
    | request => exact congrArg script.requestBody.getD hsame
    | response => exact congrArg script.responseBody.getD hsame
    | callResponse => exact hsame

/-- A phase arrives alike where both bodies are in sight, and is the same. -/
theorem arrival (h : SameBut hidden proxy away) (part : Arrival)
    (hrequest : hidden .request = false) (hresponse : hidden .response = false) :
    SameBut hidden (part.arrive proxy).1 (part.arrive away).1 ∧
      (part.arrive away).2 = (part.arrive proxy).2 := by
  have hrequestBody : away.requestBody = proxy.requestBody := h.buffered .request hrequest
  have hresponseBody : away.responseBody = proxy.responseBody := h.buffered .response hresponse
  cases part with
  | requestHeaders | responseHeaders => exact ⟨h, rfl⟩
  | requestBody chunk isLast size =>
    simp only [Arrival.arrive, hrequestBody, and_true]
    refine { h with buffered := fun buffer hbuffer => ?_ }
    have hsame := h.buffered buffer hbuffer
    cases buffer with
    | request => rfl
    | response | callResponse => exact hsame
  | responseBody chunk isLast size =>
    simp only [Arrival.arrive, hresponseBody, and_true]
    refine { h with buffered := fun buffer hbuffer => ?_ }
    have hsame := h.buffered buffer hbuffer
    cases buffer with
    | response => rfl
    | request | callResponse => exact hsame

/-- A phase that arrives at one proxy only makes no difference where both bodies are
hidden. -/
theorem arrival_hidden (h : SameBut hidden proxy away) (part : Arrival)
    (hrequest : hidden .request = true) (hresponse : hidden .response = true) :
    SameBut hidden (part.arrive proxy).1 away := by
  have hbuffered : ∀ buffer, hidden buffer = false →
      away.buffered buffer = (part.arrive proxy).1.buffered buffer := by
    intro buffer hbuffer
    have hsame := h.buffered buffer hbuffer
    cases buffer with
    | request => cases hrequest.symm.trans hbuffer
    | response => cases hresponse.symm.trans hbuffer
    | callResponse => cases part <;> exact hsame
  cases part <;> exact { h with buffered := hbuffered }

/-- What answers a cluster call arrives alike, and is all that comes in sight by it. -/
theorem response (h : SameBut hidden proxy away) (answer : CallResponse)
    (hmore : ∀ buffer, more buffer = false → hidden buffer = false ∨ buffer = .callResponse) :
    SameBut more (answer.arrive proxy).1 (answer.arrive away).1 :=
  { h with
    callHeaders := fun _ => rfl
    buffered := fun buffer hbuffer => by
      cases buffer with
      | callResponse => rfl
      | request => exact h.buffered .request ((hmore _ hbuffer).resolve_right nofun)
      | response => exact h.buffered .response ((hmore _ hbuffer).resolve_right nofun) }

/-- What answers a cluster call and arrives at one proxy only makes no difference where it
is hidden. -/
theorem response_hidden (h : SameBut hidden proxy away) (answer : CallResponse)
    (hcall : hidden .callResponse = true) : SameBut hidden (answer.arrive proxy).1 away :=
  { h with
    callHeaders := fun hseen => absurd (hcall.symm.trans hseen) nofun
    buffered := fun buffer hbuffer => by
      cases buffer with
      | callResponse => cases hcall.symm.trans hbuffer
      | request => exact h.buffered .request hbuffer
      | response => exact h.buffered .response hbuffer }

end SameBut

variable {hidden : Buffer → Bool} {proxy away : Proxy} {token : UInt32}

/-- A call that looks at nothing hidden is replied the same, and what is in sight stays the
same. -/
theorem host_sameBut (h : SameBut hidden proxy away) {call : Call}
    (hsight : ∀ buffer, call.kind.buffer? = some buffer → hidden buffer = false) :
    (host call ⟨away, token⟩).1 = (host call ⟨proxy, token⟩).1 ∧
      SameBut hidden (host call ⟨proxy, token⟩).2.proxy (host call ⟨away, token⟩).2.proxy ∧
      (host call ⟨away, token⟩).2.nextToken = (host call ⟨proxy, token⟩).2.nextToken := by
  unfold host
  simp only [h.failure? call]
  cases proxy.failure? call with
  | some status => exact ⟨rfl, h, rfl⟩
  | none =>
    cases call with
    | requestHeaders => exact ⟨congrArg Except.ok h.requestHeaders, h, rfl⟩
    | requestHeader name =>
      exact ⟨congrArg (fun headers => Except.ok (lookup? headers name)) h.requestHeaders, h, rfl⟩
    | property path =>
      exact ⟨congrArg (fun held => Except.ok (lookup? held _)) h.properties, h, rfl⟩
    | callResponseHeaders =>
      exact ⟨congrArg Except.ok (h.callHeaders (hsight _ rfl)), h, rfl⟩
    | body buffer start size =>
      have hsame := h.buffered buffer (hsight _ rfl)
      exact ⟨congrArg (fun body => Except.ok (Bytes.window? body start size)) hsame, h, rfl⟩
    | replaceResponseBody start size value =>
      have hsame := h.buffered .response (hsight _ rfl)
      refine ⟨rfl, { h with buffered := fun buffer hbuffer => ?_ }, rfl⟩
      cases buffer with
      | request => exact h.buffered .request hbuffer
      | response => exact congrArg (Bytes.splice · start size value) hsame
      | callResponse => exact h.buffered .callResponse hbuffer
    | foreignFunction name argument =>
      simp only [reply, h.functions]
      split <;> exact ⟨rfl, h, rfl⟩
    | _ => exact ⟨rfl, h, rfl⟩

variable {α : Type}

/-- A run that looks at nothing hidden is the same for two proxies that hold the same
otherwise, and they hold the same afterwards. -/
theorem run_sameBut (h : SameBut hidden proxy away) (dialogue : Dialogue α)
    (hsight : ∀ call ∈ calls (dialogue.run host ⟨proxy, token⟩).trace,
      ∀ buffer, call.kind.buffer? = some buffer → hidden buffer = false) :
    let run := dialogue.run host ⟨proxy, token⟩
    let other := dialogue.run host ⟨away, token⟩
    other.value = run.value ∧ other.trace = run.trace ∧
      SameBut hidden run.world.proxy other.world.proxy ∧
      other.world.nextToken = run.world.nextToken := by
  let Related (world other : World) : Prop :=
    SameBut hidden world.proxy other.proxy ∧ other.nextToken = world.nextToken
  let InSight (entry : TraceEntry) : Prop := ∀ call, call? entry = some call →
    ∀ buffer, call.kind.buffer? = some buffer → hidden buffer = false
  have hstep : ∀ (call : Call) (world other : World), Related world other →
      InSight (.asked call (host call world).1) →
        (host call other).1 = (host call world).1 ∧
          Related (host call world).2 (host call other).2 := by
    rintro call ⟨_, _⟩ ⟨_, _⟩ ⟨hsame, rfl⟩ hplain
    exact host_sameBut hsame (hplain call rfl)
  exact Dialogue.run_agree hstep dialogue ⟨proxy, token⟩ ⟨away, token⟩ ⟨h, rfl⟩
    fun entry hentry call hcall => hsight call (List.mem_filterMap.mpr ⟨entry, hentry, hcall⟩)

end Proxy

namespace Behavior

variable {id : UInt32} {counters : Counters} {trace : List TraceEntry}

/-- What answered a cluster call is buffered in no phase. -/
theorem ne_of_buffered? {behavior : Behavior} {phase : Phase} {buffer : Buffer} {size : Nat}
    {isLast : Bool} (h : behavior.buffered? phase = some (buffer, size, isLast)) :
    buffer ≠ .callResponse := by
  rintro rfl
  unfold buffered? at h
  split at h <;> cases h

/-- A phase looks at nothing that answered a cluster call. -/
theorem sight_of_reacts {behavior : Behavior} {phase : Phase} {reaction : Reaction}
    (h : Reacts id counters behavior phase trace reaction) :
    ∀ call ∈ calls trace, call.kind.buffer? ≠ some .callResponse := by
  cases h with
  | unapplied self phase name buffer size body status opening ending happlies =>
    have hbuffer := ne_of_buffered? (buffered?_of_applies? happlies)
    grind [CallKind.buffer?, Call.kind, → Reading.kind_eq]
  | _ => grind [CallKind.buffer?, Call.kind, → ne_of_buffered?, → Reading.kind_eq,
      → Routing.kind_eq]

/-- A completion looks at nothing but what answered a cluster call. -/
theorem sight_of_relays {self : CallRelay} {headers bodySize : Nat}
    (h : Relays id self headers bodySize trace) :
    ∀ call ∈ calls trace, ∀ buffer, call.kind.buffer? = some buffer → buffer = .callResponse := by
  cases h with
  | _ => grind [CallKind.buffer?, Call.kind, → Reading.kind_eq]

variable {hidden : Buffer → Bool} {proxy away : Proxy}

/-- A phase runs the same for two proxies that hold the same, but for what answered a cluster
call. -/
theorem run_onPhase_sameBut (h : Proxy.SameBut hidden proxy away)
    (hrequest : hidden .request = false) (hresponse : hidden .response = false)
    (id : UInt32) (behavior : Behavior) (counters : Counters) (phase : Phase) (token : UInt32) :
    let run := (behavior.onPhase id counters phase).run Proxy.host ⟨proxy, token⟩
    let other := (behavior.onPhase id counters phase).run Proxy.host ⟨away, token⟩
    other.value = run.value ∧ other.trace = run.trace ∧
      Proxy.SameBut hidden run.world.proxy other.world.proxy ∧
      other.world.nextToken = run.world.nextToken := by
  refine Proxy.run_sameBut h _ fun call hcall buffer hbuffer => ?_
  have hreacts := reacts_of_course
    (course_run Proxy.host (behavior.onPhase id counters phase) ⟨proxy, token⟩)
  cases buffer with
  | request => exact hrequest
  | response => exact hresponse
  | callResponse => exact absurd hbuffer (sight_of_reacts hreacts call hcall)

/-- A completion runs the same for two proxies that hold the same answer to the cluster call. -/
theorem run_onCompletion_sameBut (h : Proxy.SameBut hidden proxy away)
    (hcall : hidden .callResponse = false) (id : UInt32) (behavior : Behavior)
    (completion : Completion) (token : UInt32) :
    let run := (behavior.onCompletion id completion).run Proxy.host ⟨proxy, token⟩
    let other := (behavior.onCompletion id completion).run Proxy.host ⟨away, token⟩
    other.trace = run.trace ∧ Proxy.SameBut hidden run.world.proxy other.world.proxy ∧
      other.world.nextToken = run.world.nextToken := by
  cases behavior with
  | callRelay self =>
    refine (Proxy.run_sameBut h _ fun call hmade buffer hbuffer => ?_).2
    have hrelays := relays_of_course (course_run Proxy.host
      (self.onCompletion id completion.headers completion.bodySize) ⟨proxy, token⟩)
    rw [sight_of_relays hrelays call hmade buffer hbuffer]
    exact hcall
  | _ => exact ⟨rfl, h, rfl⟩

end Behavior

end ProxyFilter
