import ProxyFilter.Stream
import ProxyFilter.Proofs.Behavior.Reaction

/-!
# Traces and the outcomes they lead to

What a trace shows of calls that are started, answers that are sent and vital
calls that fail decides the outcome of the phase, and the other way round. The
facts are stated for the parts of a trace first and then for every course of a
phase.
-/

namespace ProxyFilter

open Dialogue

/-- Whether a phase gives up what it is doing when a call of a kind fails. -/
def CallKind.isVital : CallKind → Bool
  | .body _ | .dispatch | .foreignFunction | .setTickPeriod | .respond => true
  | _ => false

/-- The token of an outcome that waits for a cluster call. -/
def Outcome.token? : Outcome → Option UInt32
  | .awaitCall token => some token
  | _ => none

/-- An outcome with a token waits for its call. -/
theorem Outcome.eq_awaitCall_of_token? {outcome : Outcome} {token : UInt32}
    (h : outcome.token? = some token) : outcome = .awaitCall token := by
  cases outcome with
  | awaitCall held => exact congrArg Outcome.awaitCall (Option.some.inj h)
  | _ => cases h

namespace TraceEntry

/-- Whether an entry is a vital call that failed. -/
def isSetback : TraceEntry → Bool
  | .asked call (.error _) => call.kind.isVital
  | _ => false

/-- The calls of a trace in order, failed ones included. -/
def calls (trace : List TraceEntry) : List Call := trace.filterMap call?

/-- The tokens of the cluster calls that a trace starts. -/
def dispatched (trace : List TraceEntry) : List UInt32 := trace.filterMap dispatched?

/-- Whether a trace sends an answer. -/
def answered (trace : List TraceEntry) : Bool := trace.any isAnswer

/-- Whether a vital call of a trace fails. -/
def setBack (trace : List TraceEntry) : Bool := trace.any isSetback

section

variable (opening ending trace : List TraceEntry) (record : Record)

@[simp, grind =] theorem calls_nil : calls [] = [] := rfl

@[simp, grind =] theorem calls_append : calls (opening ++ ending) = calls opening ++ calls ending :=
  List.filterMap_append

@[simp, grind =] theorem calls_noted : calls (.noted record :: trace) = calls trace := rfl

@[simp, grind =] theorem dispatched_nil : dispatched [] = [] := rfl

@[simp, grind =] theorem dispatched_append :
    dispatched (opening ++ ending) = dispatched opening ++ dispatched ending :=
  List.filterMap_append

@[simp, grind =] theorem dispatched_noted :
    dispatched (.noted record :: trace) = dispatched trace := rfl

@[simp, grind =] theorem answered_nil : answered [] = false := rfl

@[simp, grind =] theorem answered_append :
    answered (opening ++ ending) = (answered opening || answered ending) :=
  List.any_append

@[simp, grind =] theorem answered_noted : answered (.noted record :: trace) = answered trace := rfl

@[simp, grind =] theorem setBack_append :
    setBack (opening ++ ending) = (setBack opening || setBack ending) :=
  List.any_append

@[simp, grind =] theorem setBack_noted : setBack (.noted record :: trace) = setBack trace := rfl

end

end TraceEntry

open TraceEntry

section

variable {id : UInt32} {task : Task} {made : Call} {trace : List TraceEntry}

/-- An attempt makes its call and no other. -/
@[grind →] theorem Dialogue.Attempt.calls_eq {reply : made.Reply}
    (h : Attempt id task made trace reply) : calls trace = [made] := by
  cases h <;> rfl

/-- Only an attempt to start a cluster call starts one. -/
@[grind →] theorem Dialogue.Attempt.dispatched_eq {reply : made.Reply}
    (h : Attempt id task made trace reply) (hkind : made.kind ≠ .dispatch) :
    dispatched trace = [] := by
  cases h with
  | success answer =>
    cases made with
    | dispatch => exact absurd rfl hkind
    | _ => rfl
  | failure status => cases made <;> rfl

/-- Only an attempt to answer sends an answer. -/
@[grind →] theorem Dialogue.Attempt.answered_eq {reply : made.Reply}
    (h : Attempt id task made trace reply) (hkind : made.kind ≠ .respond) :
    answered trace = false := by
  cases h with
  | success answer =>
    cases made with
    | respond => exact absurd rfl hkind
    | _ => rfl
  | failure status => cases made <;> rfl

/-- An attempt to answer sends an answer when it does not fail. -/
@[grind →] theorem Dialogue.Attempt.answered_respond {status : Nat} {headers : Headers}
    {body : Bytes} {reply : (Call.respond status headers body).Reply}
    (h : Attempt id task (.respond status headers body) trace reply) :
    answered trace = reply.isOk := by
  cases h <;> rfl

/-- An attempt is a setback when its call is vital and fails. -/
theorem Dialogue.Attempt.setBack_eq {reply : made.Reply}
    (h : Attempt id task made trace reply) :
    setBack trace = (made.kind.isVital && !reply.isOk) := by
  cases h with
  | success answer => rw [Except.isOk, Except.toBool, Bool.not_true, Bool.and_false]; rfl
  | failure status => simp [setBack, isSetback, Except.isOk, Except.toBool]

variable {buffer : Buffer} {size : Nat} {read : Except Status Bytes}

/-- A reading asks for its body only. -/
theorem Dialogue.Reading.kind_eq (h : Reading id buffer size trace read) {call : Call}
    (hcall : call ∈ calls trace) : call.kind = .body buffer := by
  cases h with
  | empty => cases hcall
  | _ =>
    cases List.mem_singleton.mp hcall
    rfl

/-- A reading starts no cluster call. -/
@[grind →] theorem Dialogue.Reading.dispatched_eq (h : Reading id buffer size trace read) :
    dispatched trace = [] := by
  cases h <;> rfl

/-- A reading sends no answer. -/
@[grind →] theorem Dialogue.Reading.answered_eq (h : Reading id buffer size trace read) :
    answered trace = false := by
  cases h <;> rfl

/-- A reading is a setback when it fails. -/
theorem Dialogue.Reading.setBack_eq (h : Reading id buffer size trace read) :
    setBack trace = !read.isOk := by
  cases h <;> rfl

variable {route : Except Status String}

/-- A routing asks for a property and a header only. -/
theorem Dialogue.Routing.kind_eq (h : Routing id trace route) {call : Call}
    (hcall : call ∈ calls trace) : call.kind = .property ∨ call.kind = .requestHeader := by
  cases h with
  | property =>
    cases List.mem_singleton.mp hcall
    exact .inl rfl
  | _ =>
    obtain rfl | hcall := List.mem_cons.mp hcall
    · exact .inl rfl
    · cases List.mem_singleton.mp hcall
      exact .inr rfl

/-- A routing starts no cluster call. -/
@[grind →] theorem Dialogue.Routing.dispatched_eq (h : Routing id trace route) :
    dispatched trace = [] := by
  cases h <;> rfl

/-- A routing sends no answer. -/
@[grind →] theorem Dialogue.Routing.answered_eq (h : Routing id trace route) :
    answered trace = false := by
  cases h <;> rfl

/-- A routing is never a setback, whichever of its calls fail. -/
theorem Dialogue.Routing.setBack_eq (h : Routing id trace route) :
    setBack trace = false := by
  cases h with
  | property => rfl
  | _ missing => cases missing <;> rfl

end

namespace Behavior

variable {id : UInt32} {counters : Counters} {behavior : Behavior} {phase : Phase}
  {trace : List TraceEntry} {reaction : Reaction}

/-- A phase starts the cluster call that its outcome waits for, and no other. -/
theorem dispatched_of_reacts (h : Reacts id counters behavior phase trace reaction) :
    dispatched trace = reaction.outcome.token?.toList := by
  cases h with
  | dispatched self size body token opening ending hread hcall =>
    rw [dispatched_append, hread.dispatched_eq]
    cases hcall
    rfl
  | undispatched self size body status opening ending hread hcall =>
    rw [dispatched_append, hread.dispatched_eq]
    cases hcall
    rfl
  | _ => grind [Call.kind, Outcome.token?]

/-- A phase that waits for a cluster call is one of relaying. It leaves the behavior as
it was, and its last call is the start. -/
theorem relaying_of_reacts {token : UInt32}
    (h : Reacts id counters behavior phase trace reaction)
    (hwait : reaction.outcome = .awaitCall token) :
    (∃ relay, behavior = .callRelay relay) ∧ reaction.behavior = behavior ∧
      ∃ made, (calls trace).getLast? = some made ∧ made.kind = .dispatch := by
  cases h with
  | dispatched self size body token opening ending hread hcall =>
    have hending := hcall.calls_eq
    refine ⟨⟨self, rfl⟩, rfl, .dispatch self.cluster self.headers body [] CallRelay.timeout, ?_,
      rfl⟩
    rw [calls_append, calls_noted, hending, List.getLast?_concat]
  | _ => grind

/-- A phase sends an answer exactly when its outcome says so. -/
theorem answered_of_reacts (h : Reacts id counters behavior phase trace reaction) :
    answered trace = true ↔ reaction.outcome = .responded := by
  have hreply (reply : Except Status Unit) : reply.isOk = true ↔
      (if reply.isOk then Outcome.responded else .finished) = .responded := by
    cases reply with
    | ok _ => exact iff_of_true rfl rfl
    | error status => exact iff_of_false nofun nofun
  cases h with
  | reported path reply opening ending hroute haction hsend =>
    rw [answered_append, hroute.answered_eq, hsend.answered_respond]
    exact hreply reply
  | switched path action period notice reply opening middle ending hroute haction hswitch hset
      hsend =>
    rw [answered_append, hroute.answered_eq, answered_noted, answered_append,
      hset.answered_eq nofun, hsend.answered_respond]
    exact hreply reply
  | answered self name size body result reply opening middle ending hmode hread hcall hsend =>
    rw [answered_append, hread.answered_eq, answered_noted, answered_append,
      hcall.answered_eq nofun, hsend.answered_respond]
    exact hreply reply
  | _ => grind [Call.kind]

/-- A function is applied to a body that is buffered, at its end. -/
theorem buffered?_of_applies? {self : BodyTransform} {name : String} {buffer : Buffer}
    {size : Nat} (h : self.applies? phase = some (name, buffer, size)) :
    (Behavior.bodyTransform self).buffered? phase = some (buffer, size, true) := by
  unfold BodyTransform.applies? at h
  split at h
  · cases h
    rfl
  · cases h
    rfl
  · cases h

/-- A phase waits for more of a body exactly when the behavior buffers the body and
this is not its end. -/
theorem awaitBody_of_reacts (h : Reacts id counters behavior phase trace reaction) :
    reaction.outcome = .awaitBody ↔
      ∃ buffer size, behavior.buffered? phase = some (buffer, size, false) := by
  cases h with
  | held _ _ buffer size hbuffer => exact ⟨fun _ => ⟨buffer, size, hbuffer⟩, fun _ => rfl⟩
  | unapplied _ _ _ _ _ _ _ _ _ happlies =>
    rw [buffered?_of_applies? happlies]
    grind
  | answered self =>
    obtain ⟨function, mode⟩ := self
    grind [buffered?]
  | replaced self =>
    obtain ⟨function, mode⟩ := self
    grind [buffered?]
  | _ => grind [buffered?]

/-- The record of a completion without any header is no call. -/
@[simp, grind =] theorem calls_warning (self : CallRelay) (headers : Nat) :
    calls (self.warning id headers) = [] := by
  unfold CallRelay.warning
  split <;> rfl

/-- The record of a completion without any header starts no cluster call. -/
@[simp, grind =] theorem dispatched_warning (self : CallRelay) (headers : Nat) :
    dispatched (self.warning id headers) = [] := by
  unfold CallRelay.warning
  split <;> rfl

/-- A completion starts no cluster call. -/
theorem dispatched_of_relays {self : CallRelay} {headers bodySize : Nat}
    (h : Relays id self headers bodySize trace) : dispatched trace = [] := by
  cases h with
  | _ => grind [Call.kind]

/-- After a setback the phase goes on. -/
theorem action_of_setBack (h : Reacts id counters behavior phase trace reaction)
    (hback : setBack trace = true) : reaction.outcome.action = .proceed := by
  cases h with
  | held => cases hback
  | dispatched self size body token opening ending hread hcall =>
    rw [setBack_append, hread.setBack_eq, setBack_noted, hcall.setBack_eq] at hback
    cases hback
  | reported path reply opening ending hroute haction hsend =>
    cases reply with
    | error status => rfl
    | ok _ =>
      rw [setBack_append, hroute.setBack_eq, hsend.setBack_eq] at hback
      cases hback
  | switched path action period notice reply opening middle ending hroute haction hswitch hset
      hsend =>
    cases reply with
    | error status => rfl
    | ok _ =>
      rw [setBack_append, hroute.setBack_eq, setBack_noted, setBack_append, hset.setBack_eq,
        hsend.setBack_eq] at hback
      cases hback
  | answered self name size body result reply opening middle ending hmode hread hcall hsend =>
    cases reply with
    | error status => rfl
    | ok _ =>
      rw [setBack_append, hread.setBack_eq, setBack_noted, setBack_append, hcall.setBack_eq,
        hsend.setBack_eq] at hback
      cases hback
  | _ => rfl

end Behavior

end ProxyFilter
