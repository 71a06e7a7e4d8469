import ProxyFilter.Proofs.Stream.Resumption

/-!
# Effects that happen once

A stream starts at most one cluster call, applies at most one foreign function, replaces
at most one body, answers at most once and releases its request at most once, attempts
that fail included. Every such effect but a cluster call that is under way finishes the
stream, and a cluster call leaves nothing to do but to answer.
-/

namespace ProxyFilter

open Dialogue

/-- The kinds of calls that a stream makes at most once. -/
def CallKind.isEffect : CallKind → Bool
  | .dispatch | .foreignFunction | .replaceResponseBody | .respond | .resumeRequest => true
  | _ => false

namespace TraceEntry

/-- How many calls of a kind a trace makes, failed ones included. -/
def attempts (kind : CallKind) (trace : List TraceEntry) : Nat :=
  ((calls trace).map Call.kind).count kind

/-- Whether an entry leaves its stream with nothing more to do: an effect of any reply,
or a cluster call that fails. -/
def isLast : TraceEntry → Bool
  | .asked (.dispatch ..) (.ok _) => false
  | .asked call _ => call.kind.isEffect
  | .noted _ => false

/-- Whether a trace leaves its stream with nothing more to do. -/
def ends (trace : List TraceEntry) : Bool := trace.any isLast

section

variable (opening ending trace : List TraceEntry) (record : Record) (kind : CallKind)

@[simp, grind =] theorem attempts_nil : attempts kind [] = 0 := rfl

@[simp, grind =] theorem attempts_append :
    attempts kind (opening ++ ending) = attempts kind opening + attempts kind ending := by
  simp [attempts]

@[simp, grind =] theorem attempts_noted :
    attempts kind (.noted record :: trace) = attempts kind trace := rfl

@[simp, grind =] theorem ends_append : ends (opening ++ ending) = (ends opening || ends ending) :=
  List.any_append

@[simp, grind =] theorem ends_noted : ends (.noted record :: trace) = ends trace := rfl

end

variable {trace : List TraceEntry} {kind : CallKind}

/-- A trace without calls attempts nothing. -/
theorem attempts_of_calls (h : calls trace = []) : attempts kind trace = 0 := by
  rw [attempts, h]
  rfl

/-- An effect leaves nothing more to do, unless it is a cluster call that is under way. -/
theorem isLast_or_dispatched {call : Call} (hkind : call.kind.isEffect = true)
    (reply : call.Reply) :
    isLast (.asked call reply) = true ∨
      (call.kind = .dispatch ∧ ∃ token, dispatched? (.asked call reply) = some token) := by
  cases call with
  | dispatch cluster headers body trailers timeout =>
    cases reply with
    | ok token => exact .inr ⟨rfl, token, rfl⟩
    | error status => exact .inl rfl
  | foreignFunction | replaceResponseBody | respond | resumeRequest => exact .inl rfl
  | _ => cases hkind

/-- A trace that attempts an effect has nothing more to do or starts a cluster call. -/
theorem ends_of_attempts (hkind : kind.isEffect = true) (h : attempts kind trace ≠ 0) :
    ends trace = true ∨ (kind = .dispatch ∧ ∃ token, token ∈ dispatched trace) := by
  have hmem : kind ∈ (calls trace).map Call.kind := List.count_pos_iff.mp (Nat.pos_of_ne_zero h)
  obtain ⟨call, hcall, rfl⟩ := List.mem_map.mp hmem
  obtain ⟨entry, hentry, hmade⟩ := List.mem_filterMap.mp hcall
  cases entry with
  | noted record => cases hmade
  | asked made reply =>
    cases hmade
    rcases isLast_or_dispatched hkind reply with hlast | ⟨hdispatch, token, htoken⟩
    · exact .inl (List.any_eq_true.mpr ⟨_, hentry, hlast⟩)
    · exact .inr ⟨hdispatch, token, List.mem_filterMap.mpr ⟨_, hentry, htoken⟩⟩

/-- Whether a trace releases its request directly behind an answer that failed: only
records stand between the two calls. -/
def ReleasesRefused (trace : List TraceEntry) : Prop :=
  ∃ (opening between ending : List TraceEntry) (headers : Headers) (body : Bytes)
    (status : Status) (reply : Call.resumeRequest.Reply),
    trace = opening ++ .asked (.respond 200 headers body) (.error status) :: (between ++
      .asked .resumeRequest reply :: ending) ∧ calls between = []

end TraceEntry

open TraceEntry

section

variable {id : UInt32} {task : Task} {made : Call} {trace : List TraceEntry} {kind : CallKind}

/-- An attempt makes its one call. -/
theorem Dialogue.Attempt.attempts_eq {reply : made.Reply}
    (h : Attempt id task made trace reply) :
    attempts kind trace = if made.kind = kind then 1 else 0 := by
  rw [attempts, h.calls_eq]
  simp [List.count_singleton]

/-- Of two attempts to do different things at most one attempts an effect. -/
theorem Dialogue.Attempt.attempts_add_le_one {next : Task} {other : Call}
    {ending : List TraceEntry} {reply : made.Reply} {answer : other.Reply}
    (h : Attempt id task made trace reply) (hother : Attempt id next other ending answer)
    (hne : made.kind ≠ other.kind) : attempts kind trace + attempts kind ending ≤ 1 := by
  rw [h.attempts_eq, hother.attempts_eq]
  split
  · next hsame =>
    have hnone : other.kind ≠ kind := fun hagain => hne (hsame.trans hagain.symm)
    exact Nat.le_of_eq (congrArg (1 + ·) (if_neg hnone))
  · rw [Nat.zero_add]
    split <;> decide

/-- An attempt begins with its call. -/
theorem Dialogue.Attempt.asked_eq {reply : made.Reply} (h : Attempt id task made trace reply) :
    ∃ rest, trace = .asked made reply :: rest := by
  cases h <;> exact ⟨_, rfl⟩

/-- An attempt leaves nothing more to do if its call does, whatever the reply to any call
but the start of a cluster call. -/
theorem Dialogue.Attempt.ends_eq {reply : made.Reply}
    (h : Attempt id task made trace reply) :
    ends trace = (made.kind.isEffect && !(made.kind == .dispatch && reply.isOk)) := by
  cases h with
  | success answer => cases made <;> rfl
  | failure status => cases made <;> rfl

variable {buffer : Buffer} {size : Nat} {read : Except Status Bytes}

/-- A reading attempts nothing but to read its body. -/
theorem Dialogue.Reading.attempts_eq (h : Reading id buffer size trace read)
    (hkind : kind.isEffect = true) : attempts kind trace = 0 := by
  refine List.count_eq_zero.mpr fun hmem => ?_
  obtain ⟨call, hcall, rfl⟩ := List.mem_map.mp hmem
  rw [h.kind_eq hcall] at hkind
  cases hkind

/-- Behind a reading there is more to do. -/
theorem Dialogue.Reading.ends_eq (h : Reading id buffer size trace read) :
    ends trace = false := by
  cases h <;> rfl

variable {route : Except Status String}

/-- A routing has no effect. -/
theorem Dialogue.Routing.attempts_eq (h : Routing id trace route)
    (hkind : kind.isEffect = true) : attempts kind trace = 0 := by
  refine List.count_eq_zero.mpr fun hmem => ?_
  obtain ⟨call, hcall, rfl⟩ := List.mem_map.mp hmem
  rcases h.kind_eq hcall with hproperty | hheader
  · rw [hproperty] at hkind
    cases hkind
  · rw [hheader] at hkind
    cases hkind

/-- Behind a routing there is more to do. -/
theorem Dialogue.Routing.ends_eq (h : Routing id trace route) : ends trace = false := by
  cases h <;> rfl

end

namespace Behavior

variable {id : UInt32} {counters : Counters} {behavior : Behavior} {phase : Phase}
  {trace : List TraceEntry} {reaction : Reaction} {kind : CallKind}

/-- A phase attempts each effect at most once. -/
theorem attempts_le_one_of_reacts (h : Reacts id counters behavior phase trace reaction)
    (hkind : kind.isEffect = true) : attempts kind trace ≤ 1 := by
  cases h with
  | switched path action period notice reply opening middle ending hroute haction hswitch hset
      hsend =>
    rw [attempts_append, hroute.attempts_eq hkind, attempts_noted, attempts_append, Nat.zero_add]
    exact hset.attempts_add_le_one hsend nofun
  | answered self name size body result reply opening middle ending hmode hread hcall hsend =>
    rw [attempts_append, hread.attempts_eq hkind, attempts_noted, attempts_append, Nat.zero_add]
    exact hcall.attempts_add_le_one hsend nofun
  | replaced self name size body result reply opening middle ending hmode hread hcall hset =>
    rw [attempts_append, hread.attempts_eq hkind, attempts_noted, attempts_append, Nat.zero_add]
    exact hcall.attempts_add_le_one hset nofun
  | _ =>
    grind [Call.kind, CallKind.isEffect, => Attempt.attempts_eq, => Reading.attempts_eq,
      => Routing.attempts_eq]

/-- A phase never releases its request. -/
theorem releases_of_reacts (h : Reacts id counters behavior phase trace reaction) :
    attempts .resumeRequest trace = 0 := by
  cases h with
  | _ =>
    grind [Call.kind, CallKind.isEffect, => Attempt.attempts_eq, => Reading.attempts_eq,
      => Routing.attempts_eq]

/-- A phase that leaves nothing more to do finishes its stream. -/
theorem completed_of_ends (h : Reacts id counters behavior phase trace reaction)
    (hends : ends trace = true) : reaction.outcome.state = .completed := by
  cases h with
  | passed | held => cases hends
  | stampedRequest self reply trace hstamp =>
    rw [hstamp.ends_eq] at hends
    cases hends
  | unrouted status trace hroute | uncontrolled path trace hroute =>
    rw [hroute.ends_eq] at hends
    cases hends
  | unswitched path action period notice status opening ending hroute haction hswitch hset =>
    rw [ends_append, hroute.ends_eq, ends_noted, hset.ends_eq] at hends
    cases hends
  | captured self inbound method authority opening middle ending hinbound hmethod hauthority =>
    rw [ends_append, hinbound.ends_eq, ends_append, hmethod.ends_eq, hauthority.ends_eq] at hends
    cases hends
  | dispatched self size body token opening ending hread hcall =>
    rw [ends_append, hread.ends_eq, ends_noted, hcall.ends_eq] at hends
    cases hends
  | decided self route trace hroute =>
    rw [hroute.ends_eq] at hends
    cases hends
  | reported path reply => cases reply <;> rfl
  | switched path action period notice reply => cases reply <;> rfl
  | answered self name size body result reply => cases reply <;> rfl
  | _ => rfl

/-- The record of a completion without any header is no effect. -/
@[simp, grind =] theorem attempts_warning (kind : CallKind) (self : CallRelay) (headers : Nat) :
    attempts kind (self.warning id headers) = 0 :=
  attempts_of_calls (calls_warning self headers)

variable {self : CallRelay} {headers bodySize : Nat}

/-- A completion attempts each effect at most once. -/
theorem attempts_le_one_of_relays (h : Relays id self headers bodySize trace)
    (hkind : kind.isEffect = true) : attempts kind trace ≤ 1 := by
  cases h with
  | answered received body opening middle ending hheaders hbody hsend =>
    rw [attempts_append, attempts_warning, attempts_append, attempts_append,
      hbody.attempts_eq hkind, Nat.zero_add, Nat.zero_add]
    exact hheaders.attempts_add_le_one hsend nofun
  | resumed received body status reply opening middle ending last hheaders hbody hsend hresume =>
    have hnone : attempts kind opening = 0 := by
      rw [hheaders.attempts_eq, if_neg]
      rintro rfl
      cases hkind
    rw [attempts_append, attempts_warning, attempts_append, hnone, attempts_append,
      hbody.attempts_eq hkind, attempts_append, Nat.zero_add, Nat.zero_add, Nat.zero_add]
    exact hsend.attempts_add_le_one hresume nofun

/-- A completion attempts no cluster call. -/
theorem starts_of_relays (h : Relays id self headers bodySize trace) :
    attempts .dispatch trace = 0 := by
  cases h with
  | _ => grind [Call.kind, CallKind.isEffect, => Attempt.attempts_eq, => Reading.attempts_eq]

/-- A completion that releases the request does so behind an answer that failed. -/
theorem releasesRefused_of_relays (h : Relays id self headers bodySize trace)
    (hrelease : attempts .resumeRequest trace ≠ 0) : ReleasesRefused trace := by
  cases h with
  | answered received body opening middle ending hheaders hbody hsend =>
    grind [Call.kind, CallKind.isEffect, => Attempt.attempts_eq, => Reading.attempts_eq]
  | resumed received body status reply opening middle ending last hheaders hbody hsend hresume =>
    obtain ⟨rest, rfl⟩ := hresume.asked_eq
    cases hsend with
    | failure status =>
      refine ⟨self.warning id headers ++ (opening ++ middle),
        [.noted ⟨some id, .failed .respond status⟩], rest, CallRelay.relayed received,
        body.toOption.getD [], status, reply, ?_, rfl⟩
      simp only [List.append_assoc, List.cons_append, List.nil_append]

end Behavior

namespace Moment

variable {counters : Counters} {moment : Moment} {kind : CallKind}

/-- A moment attempts each effect at most once. -/
theorem Arises.attempts_le_one (h : moment.Arises counters) (hkind : kind.isEffect = true) :
    attempts kind moment.trace ≤ 1 := by
  cases h with
  | reacted stream phase trace reaction hopen hreacts =>
    exact Behavior.attempts_le_one_of_reacts hreacts hkind
  | relayed stream completion relay trace hstate hbehavior hrelays =>
    rw [attempts_noted]
    exact Behavior.attempts_le_one_of_relays hrelays hkind
  | _ => exact Nat.zero_le 1

/-- A moment that leaves nothing more to do finishes its stream. -/
theorem Arises.completed_of_ends (h : moment.Arises counters) (hends : ends moment.trace = true) :
    moment.after.state = .completed := by
  cases h with
  | reacted stream phase trace reaction hopen hreacts =>
    exact Behavior.completed_of_ends hreacts hends
  | relayed => rfl
  | _ => cases hends

/-- Only the completion that a stream waits for releases a request, and that behind an
answer that failed. -/
theorem Arises.releasesRefused (h : moment.Arises counters)
    (hrelease : attempts .resumeRequest moment.trace ≠ 0) :
    (∃ completion, moment.event = .completion completion ∧
      moment.before.state = .awaitingCall completion.token) ∧ ReleasesRefused moment.trace := by
  cases h with
  | reacted stream phase trace reaction hopen hreacts =>
    exact absurd (Behavior.releases_of_reacts hreacts) hrelease
  | relayed stream completion relay trace hstate hbehavior hrelays =>
    obtain ⟨opening, between, ending, rest⟩ := Behavior.releasesRefused_of_relays hrelays hrelease
    obtain ⟨headers, body, status, reply, rfl, hbetween⟩ := rest
    exact ⟨⟨completion, rfl, hstate⟩, .noted _ :: opening, between, ending, headers, body, status,
      reply, rfl, hbetween⟩
  | _ => exact absurd rfl hrelease

/-- A stream that lets no phase through starts no cluster call, and lets none through
afterwards. -/
theorem Arises.attempts_of_gate (h : moment.Arises counters)
    (hgate : moment.before.state.gate? ≠ none) :
    attempts .dispatch moment.trace = 0 ∧ moment.after.state.gate? ≠ none := by
  cases h with
  | reacted stream phase trace reaction hopen hreacts => exact absurd hopen hgate
  | relayed stream completion relay trace hstate hbehavior hrelays =>
    rw [attempts_noted]
    exact ⟨Behavior.starts_of_relays hrelays, nofun⟩
  | unrelayed => exact ⟨rfl, nofun⟩
  | _ => exact ⟨rfl, hgate⟩

/-- A moment that attempts an effect lets no phase through afterwards, and is the last one
with calls unless the effect is a cluster call. -/
theorem Arises.gate_of_attempts (h : moment.Arises counters) (hkind : kind.isEffect = true)
    (hattempt : attempts kind moment.trace ≠ 0) :
    moment.after.state = .completed ∨
      (kind = .dispatch ∧ ∃ token, moment.after.state = .awaitingCall token) := by
  rcases ends_of_attempts hkind hattempt with hends | ⟨hdispatch, token, htoken⟩
  · exact .inl (h.completed_of_ends hends)
  · obtain ⟨-, -, -, hafter, -⟩ := h.awaitingCall_of_dispatched htoken
    exact .inr ⟨hdispatch, token, by rw [hafter]⟩

/-- All that happens in a row of moments, in order. -/
def traces (history : List Moment) : List TraceEntry := history.flatMap trace

end Moment

namespace Stream

open Moment

variable {σ : Type} {stream : Stream}

/-- A finished stream attempts nothing any more. -/
theorem attempts_of_completed (hstate : stream.state = .completed)
    (deliveries : List (Delivery σ)) (kind : CallKind) :
    attempts kind (traces (stream.history deliveries)) = 0 := by
  refine attempts_of_calls (List.filterMap_eq_nil_iff.mpr fun entry hentry => ?_)
  obtain ⟨moment, hmoment, hmem⟩ := List.mem_flatMap.mp hentry
  have hnone := (history_of_completed hstate deliveries moment hmoment).2
  exact List.filterMap_eq_nil_iff.mp hnone entry hmem

/-- A stream that lets no phase through never starts a cluster call again. -/
theorem attempts_of_gate (hgate : stream.state.gate? ≠ none) (deliveries : List (Delivery σ)) :
    attempts .dispatch (traces (stream.history deliveries)) = 0 := by
  induction deliveries generalizing stream with
  | nil => rfl
  | cons delivery rest ih =>
    have hgate' : (stream.meet delivery).before.state.gate? ≠ none := by rwa [before_meet]
    obtain ⟨hfirst, hafter⟩ := (stream.arises_meet delivery).attempts_of_gate hgate'
    rw [history, traces, List.flatMap_cons, attempts_append, hfirst, Nat.zero_add]
    exact ih hafter

/-- Over a whole history each effect is attempted at most once: the moment that spends it leaves
nothing of it for the others. -/
theorem attempts_history_le_one (stream : Stream) (deliveries : List (Delivery σ))
    {kind : CallKind} (hkind : kind.isEffect = true) :
    attempts kind (traces (stream.history deliveries)) ≤ 1 := by
  induction deliveries generalizing stream with
  | nil => exact Nat.zero_le 1
  | cons delivery rest ih =>
    have harises := stream.arises_meet delivery
    have hsplit : attempts kind (traces (stream.history (delivery :: rest))) =
        attempts kind (stream.meet delivery).trace +
          attempts kind (traces ((stream.meet delivery).after.history rest)) := by
      rw [history, traces, List.flatMap_cons, attempts_append]
      rfl
    by_cases hattempt : attempts kind (stream.meet delivery).trace = 0
    · rw [hsplit, hattempt, Nat.zero_add]
      exact ih _
    · have hspent : attempts kind (traces ((stream.meet delivery).after.history rest)) = 0 := by
        rcases harises.gate_of_attempts hkind hattempt with hdone | ⟨rfl, token, hwait⟩
        · exact attempts_of_completed hdone rest kind
        · exact attempts_of_gate (by rw [hwait]; exact Option.some_ne_none _) rest
      have hfirst := harises.attempts_le_one hkind
      omega

/-- Final effects happen once. Over any history of a stream each of them is attempted at
most once, failed attempts included. A request is released only by the completion that the
stream waits for, directly behind an answer that failed. A moment that answers, releases
the request, calls a foreign function, replaces the body or fails to start a cluster call
finishes its stream, and behind it nothing is called any more. -/
theorem effects_once (stream : Stream) (deliveries : List (Delivery σ)) :
    (∀ kind : CallKind, kind.isEffect = true →
      attempts kind (traces (stream.history deliveries)) ≤ 1) ∧
    (∀ moment ∈ stream.history deliveries, attempts .resumeRequest moment.trace ≠ 0 →
      (∃ completion, moment.event = .completion completion ∧
        moment.before.state = .awaitingCall completion.token) ∧ ReleasesRefused moment.trace) ∧
    (∀ earlier moment later, stream.history deliveries = earlier ++ moment :: later →
      ends moment.trace = true →
        moment.after.state = .completed ∧
          ∀ next ∈ later, next.after = moment.after ∧ next.calls = []) := by
  refine ⟨fun kind hkind => stream.attempts_history_le_one deliveries hkind, ?_, ?_⟩
  · intro moment hmoment hrelease
    obtain ⟨earlier, later, hsplit⟩ := List.append_of_mem hmoment
    obtain ⟨past, delivery, rest, -, -, rfl, -⟩ := split_of_history hsplit
    exact (arises_meet _ delivery).releasesRefused hrelease
  · intro earlier moment later hsplit hends
    obtain ⟨past, delivery, rest, -, -, rfl, rfl⟩ := split_of_history hsplit
    have hdone := (arises_meet _ delivery).completed_of_ends hends
    exact ⟨hdone, history_of_completed hdone rest⟩

/-- In the sample the answer fails, so its completion releases the request. It finishes
the stream, though two more events were met before and one comes behind. -/
theorem sample_effects_once :
    let history := (Stream.new 7 (.callRelay ⟨"cluster", "/", []⟩)).history
      (sampleStart :: sampleRest)
    attempts .dispatch (traces history) = 1 ∧
      ∃ moment ∈ history, attempts .resumeRequest moment.trace ≠ 0 ∧ ends moment.trace = true ∧
        ReleasesRefused moment.trace ∧ moment.after.state = .completed := by
  intro history
  let moment := history.get ⟨3, by decide⟩
  have h := effects_once (.new 7 (.callRelay ⟨"cluster", "/", []⟩)) (sampleStart :: sampleRest)
  have hmem : moment ∈ history := List.get_mem history _
  have hrelease : attempts .resumeRequest moment.trace ≠ 0 := by decide
  have hends : ends moment.trace = true := by decide
  have hdone : moment.after.state = .completed :=
    (h.2.2 (history.take 3) moment (history.drop 4) rfl hends).1
  exact ⟨by decide, moment, hmem, hrelease, hends, (h.2.1 moment hmem hrelease).2, hdone⟩

end Stream

end ProxyFilter
