import ProxyFilter.Behavior.Phase
import ProxyFilter.Property

/-!
# Courses of a dialogue

A course is a trace that a dialogue can take under some replies, with the value
at its end. It mentions no proxy: every run against every proxy is a course, so
what holds of all courses holds whatever the proxy replies and whenever it fails.
The courses of a dialogue are found by peeling off one call after the other.
-/

namespace ProxyFilter

namespace TraceEntry

/-- The token of an entry that starts a cluster call with success. -/
def dispatched? : TraceEntry → Option UInt32
  | .asked (.dispatch ..) (.ok token) => some token
  | _ => none

/-- Whether an entry answers the request at once with success. -/
def isAnswer : TraceEntry → Bool
  | .asked (.respond ..) (.ok ()) => true
  | _ => false

end TraceEntry

namespace Dialogue

variable {α β σ : Type}

/-- Whether a dialogue can take a trace to a value. -/
def Course : Dialogue α → List TraceEntry → α → Prop
  | .done value, trace, result => trace = [] ∧ result = value
  | .ask call next, trace, result =>
    ∃ reply rest, trace = .asked call reply :: rest ∧ (next reply).Course rest result
  | .note record next, trace, result =>
    ∃ rest, trace = .noted record :: rest ∧ next.Course rest result

/-- Every run against every proxy is a course. -/
theorem course_run (host : Host σ) (dialogue : Dialogue α) (world : σ) :
    dialogue.Course (dialogue.run host world).trace (dialogue.run host world).value := by
  induction dialogue generalizing world with
  | done value => exact ⟨rfl, rfl⟩
  | ask call next ih => exact ⟨_, _, rfl, ih _ _⟩
  | note record next ih => exact ⟨_, rfl, ih _⟩

/-- The course of a value by itself is empty. -/
theorem course_pure {value result : α} {trace : List TraceEntry}
    (h : (pure value : Dialogue α).Course trace result) : trace = [] ∧ result = value := h

/-- The course of one call is that call with its reply. -/
theorem course_call {made : Call} {reply : made.Reply} {trace : List TraceEntry}
    (h : (call made).Course trace reply) : trace = [.asked made reply] := by
  obtain ⟨given, rest, rfl, rfl, rfl⟩ := h
  rfl

/-- The course of one record is that record. -/
theorem course_say {id : UInt32} {notice : Notice} {trace : List TraceEntry} {result : Unit}
    (h : (say id notice).Course trace result) : trace = [.noted ⟨some id, notice⟩] := by
  obtain ⟨rest, rfl, rfl, _⟩ := h
  rfl

/-- A course of two parts splits into a course of the first and a course of what
follows its value. -/
theorem course_bind {first : Dialogue α} {rest : α → Dialogue β} {trace : List TraceEntry}
    {result : β} (h : (first >>= rest).Course trace result) :
    ∃ value opening ending, trace = opening ++ ending ∧ first.Course opening value ∧
      (rest value).Course ending result := by
  induction first generalizing trace with
  | done value => exact ⟨value, [], trace, rfl, ⟨rfl, rfl⟩, h⟩
  | ask call next ih =>
    obtain ⟨reply, tail, rfl, htail⟩ := h
    obtain ⟨value, opening, ending, rfl, hfirst, hrest⟩ := ih reply htail
    exact ⟨value, .asked call reply :: opening, ending, rfl, ⟨reply, opening, rfl, hfirst⟩, hrest⟩
  | note record next ih =>
    obtain ⟨tail, rfl, htail⟩ := h
    obtain ⟨value, opening, ending, rfl, hfirst, hrest⟩ := ih htail
    exact ⟨value, .noted record :: opening, ending, rfl, ⟨opening, rfl, hfirst⟩, hrest⟩

/-- A course that begins with a call begins with its reply. -/
theorem course_call_bind {made : Call} {rest : made.Reply → Dialogue β}
    {trace : List TraceEntry} {result : β} (h : (call made >>= rest).Course trace result) :
    ∃ reply ending, trace = .asked made reply :: ending ∧ (rest reply).Course ending result := by
  obtain ⟨reply, opening, ending, rfl, hcall, hrest⟩ := course_bind h
  rw [course_call hcall]
  exact ⟨reply, ending, rfl, hrest⟩

/-- A course that begins with a record goes on behind it. -/
theorem course_say_bind {id : UInt32} {notice : Notice} {rest : Unit → Dialogue β}
    {trace : List TraceEntry} {result : β} (h : (say id notice >>= rest).Course trace result) :
    ∃ ending, trace = .noted ⟨some id, notice⟩ :: ending ∧ (rest ()).Course ending result := by
  obtain ⟨_, opening, ending, rfl, hsay, hrest⟩ := course_bind h
  rw [course_say hsay]
  exact ⟨ending, rfl, hrest⟩

/-- One call and its reply, and behind a failure the record of it. -/
inductive Attempt (id : UInt32) (task : Task) (made : Call) :
    List TraceEntry → made.Reply → Prop where
  /-- The call gives its answer. -/
  | success (answer : made.Answer) :
    Attempt id task made [.asked made (.ok answer)] (.ok answer)
  /-- The call fails. -/
  | failure (status : Status) :
    Attempt id task made
      [.asked made (.error status), .noted ⟨some id, .failed task status⟩] (.error status)

/-- The task of reading a buffered body. -/
def readTask : Buffer → Task
  | .request => .readRequestBody
  | .response => .readResponseBody
  | .callResponse => .readResponseBody

/-- Reading a body: no question about an empty one, and one attempt else. -/
inductive Reading (id : UInt32) (buffer : Buffer) (size : Nat) :
    List TraceEntry → Except Status Bytes → Prop where
  /-- A body of size zero. -/
  | empty (hsize : size = 0) : Reading id buffer size [] (.ok [])
  /-- A body that the proxy gives, where none counts as empty. -/
  | held (body : Option Bytes) :
    Reading id buffer size [.asked (.body buffer 0 size) (.ok body)] (.ok (body.getD []))
  /-- A body that cannot be read. -/
  | unread (status : Status) :
    Reading id buffer size [.asked (.body buffer 0 size) (.error status),
      .noted ⟨some id, .failed (readTask buffer) status⟩] (.error status)

/-- Finding the path of the request. A property that gives nothing is passed over
in silence. -/
inductive Routing (id : UInt32) : List TraceEntry → Except Status String → Prop where
  /-- The property has a value. -/
  | property (bytes : Bytes) :
    Routing id [.asked (.property ["request", "path"]) (.ok (some bytes))]
      (.ok (Property.decode bytes))
  /-- The property gives nothing, and the header is looked up. -/
  | header (missing : Except Status (Option Bytes)) (value : Option String)
      (hmissing : missing.toOption.join = none) :
    Routing id [.asked (.property ["request", "path"]) missing,
      .asked (.requestHeader ":path") (.ok value)] (.ok (value.getD ""))
  /-- The header fails as well. -/
  | unread (missing : Except Status (Option Bytes)) (status : Status)
      (hmissing : missing.toOption.join = none) :
    Routing id [.asked (.property ["request", "path"]) missing,
      .asked (.requestHeader ":path") (.error status),
      .noted ⟨some id, .failed .readPath status⟩] (.error status)

section

variable {id : UInt32} {trace : List TraceEntry} {result : β}

/-- A course that begins with a call, and goes on behind its failure with a
record, begins with an attempt. -/
theorem attempt_of_course (task : Task) {made : Call} {rest : made.Reply → Dialogue β}
    {fallback : Status → Dialogue β} (h : (call made >>= rest).Course trace result)
    (hfail : ∀ status,
      rest (.error status) = (sayFailed id task status >>= fun _ => fallback status)) :
    ∃ reply opening ending, trace = opening ++ ending ∧ Attempt id task made opening reply ∧
      match reply with
      | .ok answer => (rest (.ok answer)).Course ending result
      | .error status => (fallback status).Course ending result := by
  obtain ⟨reply, ending, rfl, hrest⟩ := course_call_bind h
  cases reply with
  | ok answer => exact ⟨.ok answer, [_], ending, rfl, .success answer, hrest⟩
  | error status =>
    rw [hfail] at hrest
    obtain ⟨last, rfl, hlast⟩ := course_say_bind hrest
    exact ⟨.error status, [_, _], last, rfl, .failure status, hlast⟩

/-- A course that begins by reading a body, and goes on behind a failure with a
record, begins with a reading. -/
theorem reading_of_course (id : UInt32) {buffer : Buffer} {size : Nat}
    {rest : Except Status Bytes → Dialogue β} {fallback : Status → Dialogue β}
    (h : (readBody buffer size >>= rest).Course trace result)
    (hfail : ∀ status, rest (.error status) =
      (sayFailed id (readTask buffer) status >>= fun _ => fallback status)) :
    ∃ read opening ending, trace = opening ++ ending ∧ Reading id buffer size opening read ∧
      match read with
      | .ok body => (rest (.ok body)).Course ending result
      | .error status => (fallback status).Course ending result := by
  obtain ⟨read, opening, ending, rfl, hread, hrest⟩ := course_bind h
  unfold readBody at hread
  split at hread
  · next hsize =>
    obtain ⟨rfl, rfl⟩ := course_pure hread
    exact ⟨.ok [], [], ending, rfl, .empty hsize, hrest⟩
  · obtain ⟨reply, last, rfl, hreply⟩ := course_call_bind hread
    obtain ⟨rfl, rfl⟩ := course_pure hreply
    cases reply with
    | ok body => exact ⟨.ok (body.getD []), [_], ending, rfl, .held body, hrest⟩
    | error status =>
      change (rest (.error status)).Course ending result at hrest
      rw [hfail] at hrest
      obtain ⟨last, rfl, hlast⟩ := course_say_bind hrest
      exact ⟨.error status, [_, _], last, rfl, .unread status, hlast⟩

/-- A course that begins by finding the path of the request, and goes on behind
a failure with a record, begins with a routing. -/
theorem routing_of_course (id : UInt32) {rest : Except Status String → Dialogue β}
    {fallback : Status → Dialogue β}
    (h : (Property.requestPath >>= rest).Course trace result)
    (hfail : ∀ status,
      rest (.error status) = (sayFailed id .readPath status >>= fun _ => fallback status)) :
    ∃ route opening ending, trace = opening ++ ending ∧ Routing id opening route ∧
      match route with
      | .ok path => (rest (.ok path)).Course ending result
      | .error status => (fallback status).Course ending result := by
  obtain ⟨route, opening, ending, rfl, hroute, hrest⟩ := course_bind h
  unfold Property.requestPath at hroute
  obtain ⟨missing, last, rfl, hreply⟩ := course_call_bind hroute
  split at hreply
  · obtain ⟨rfl, rfl⟩ := course_pure hreply
    exact ⟨_, [_], ending, rfl, .property _, hrest⟩
  · next hother =>
    have hmissing : missing.toOption.join = none := by
      rcases missing with status | _ | bytes
      · rfl
      · rfl
      · exact absurd rfl (hother bytes)
    obtain ⟨reply, last, rfl, hheader⟩ := course_call_bind hreply
    obtain ⟨rfl, rfl⟩ := course_pure hheader
    cases reply with
    | ok value => exact ⟨_, [_, _], ending, rfl, .header missing value hmissing, hrest⟩
    | error status =>
      change (rest (.error status)).Course ending result at hrest
      rw [hfail] at hrest
      obtain ⟨last, rfl, hlast⟩ := course_say_bind hrest
      exact ⟨_, [_, _, _], last, rfl, .unread missing status hmissing, hlast⟩

/-- An answer at once is one attempt, and only one that is sent holds the
stream. -/
theorem course_respond {body : Bytes} {outcome : Outcome}
    (h : (respond id body).Course trace outcome) :
    ∃ reply, Attempt id .respond (.respond 200 [] body) trace reply ∧
      outcome = if reply.isOk then .responded else .finished := by
  obtain ⟨reply, opening, ending, rfl, hattempt, hrest⟩ :=
    attempt_of_course .respond h fun _ => rfl
  refine ⟨reply, ?_⟩
  cases reply with
  | ok _ =>
    obtain ⟨rfl, rfl⟩ := course_pure hrest
    exact ⟨by rwa [List.append_nil], rfl⟩
  | error status =>
    obtain ⟨rfl, rfl⟩ := course_pure hrest
    exact ⟨by rwa [List.append_nil], rfl⟩

end

end Dialogue

end ProxyFilter
