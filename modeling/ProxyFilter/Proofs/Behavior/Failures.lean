import ProxyFilter.Proofs.Behavior.Effects

/-!
# Failures and their records

A call that fails is told in one error record, in the words of the task that the call is for.
Only the property with the path of the request is passed over in silence when it fails. The
rule is stated for the parts of a trace and follows for every course of a phase and of a
completion, which add nothing to the errors but the record of a cluster call that failed.
-/

namespace ProxyFilter

open Dialogue

/-- The task that a call is made for. -/
def Call.task : Call → Task
  | .requestHeaders => .readRequestHeaders
  | .requestHeader _ => .readPath
  | .addRequestHeader .. => .stampRequest
  | .addResponseHeader .. => .stampResponse
  | .body buffer .. => readTask buffer
  | .replaceResponseBody .. => .replaceResponse
  | .property path => .readProperty path
  | .setTickPeriod milliseconds => .setTickPeriod milliseconds
  | .foreignFunction name _ => .callForeign name
  | .dispatch .. => .dispatch
  | .callResponseHeaders => .readResponseHeaders
  | .respond .. => .respond
  | .resumeRequest => .resumeRequest

/-- Whether a failure of a call is passed over in silence: that of the property with the path
of the request, for which the header stands in. -/
def Call.isSilent : Call → Bool
  | .property path => path == ["request", "path"]
  | _ => false

/-- The record of a failure. -/
def Record.ofFailure (id : UInt32) (failure : Call × Status) : Record :=
  ⟨some id, .failed failure.1.task failure.2⟩

namespace TraceEntry

/-- The calls of a trace that fail, in order. -/
def failures (trace : List TraceEntry) : List (Call × Status) := trace.filterMap failure?

/-- The failures of a trace that are not passed over in silence, in order. -/
def reportable (trace : List TraceEntry) : List (Call × Status) :=
  (failures trace).filter fun failure => !failure.1.isSilent

/-- The records of a trace that have a severity, in order. -/
def recordsAt (level : Level) (trace : List TraceEntry) : List Record :=
  (trace.filterMap record?).filter (·.level = level)

section

variable (opening ending trace : List TraceEntry) (record : Record) (level : Level)

@[simp] theorem failures_append :
    failures (opening ++ ending) = failures opening ++ failures ending :=
  List.filterMap_append

@[simp] theorem reportable_append :
    reportable (opening ++ ending) = reportable opening ++ reportable ending := by
  simp only [reportable, failures_append, List.filter_append]

@[simp] theorem reportable_noted : reportable (.noted record :: trace) = reportable trace := rfl

@[simp] theorem recordsAt_append :
    recordsAt level (opening ++ ending) = recordsAt level opening ++ recordsAt level ending := by
  simp only [recordsAt, List.filterMap_append, List.filter_append]

/-- A record counts where it has the severity. -/
theorem recordsAt_noted :
    recordsAt level (.noted record :: trace) =
      if record.level = level then record :: recordsAt level trace else recordsAt level trace := by
  simp only [recordsAt, List.filterMap_cons, record?, List.filter_cons, decide_eq_true_eq]

end

/-- Whether a trace tells each of its failures in one error record, in their order, and warns
of nothing. -/
structure Tells (id : UInt32) (trace : List TraceEntry) : Prop where
  /-- The errors are those of the failures. -/
  errors : recordsAt .error trace = (reportable trace).map (Record.ofFailure id)
  /-- There is no warning. -/
  warnings : recordsAt .warn trace = []

namespace Tells

variable {id : UInt32} {opening ending trace : List TraceEntry} {record : Record}

/-- A trace without entries tells its failures. -/
theorem nil : Tells id [] := ⟨rfl, rfl⟩

/-- Two traces that tell their failures do so one behind the other. -/
theorem append (hopening : Tells id opening) (hending : Tells id ending) :
    Tells id (opening ++ ending) where
  errors := by
    rw [recordsAt_append, reportable_append, List.map_append, hopening.errors, hending.errors]
  warnings := by rw [recordsAt_append, hopening.warnings, hending.warnings, List.append_nil]

/-- A record that is no error and no warning may stand before a trace. -/
theorem noted (herror : record.level ≠ .error) (hwarn : record.level ≠ .warn)
    (h : Tells id trace) : Tells id (.noted record :: trace) where
  errors := by rw [recordsAt_noted, if_neg herror, reportable_noted, h.errors]
  warnings := by rw [recordsAt_noted, if_neg hwarn, h.warnings]

end Tells

end TraceEntry

open TraceEntry

section

variable {id : UInt32} {trace : List TraceEntry}

/-- An attempt tells its failure if it is made for the task of its call. -/
theorem Dialogue.Attempt.tells {task : Task} {made : Call} {reply : made.Reply}
    (h : Attempt id task made trace reply) (htask : made.task = task)
    (hloud : made.isSilent = false) : Tells id trace := by
  cases h with
  | success answer => exact ⟨rfl, rfl⟩
  | failure status =>
    have hreport : reportable [.asked made (.error status),
        .noted ⟨some id, .failed task status⟩] = [(made, status)] := by
      simp only [reportable, failures, List.filterMap_cons, failure?, List.filterMap_nil,
        List.filter_cons, hloud, Bool.not_false, reduceIte, List.filter_nil]
    refine ⟨?_, rfl⟩
    rw [hreport, List.map_singleton, Record.ofFailure, htask]
    rfl

/-- A reading tells its failure. -/
theorem Dialogue.Reading.tells {buffer : Buffer} {size : Nat} {read : Except Status Bytes}
    (h : Reading id buffer size trace read) : Tells id trace := by
  cases h <;> exact ⟨rfl, rfl⟩

/-- A routing tells the failure of the header, and passes over that of the property. -/
theorem Dialogue.Routing.tells {route : Except Status String} (h : Routing id trace route) :
    Tells id trace := by
  cases h with
  | property => exact ⟨rfl, rfl⟩
  | header missing | unread missing => cases missing <;> exact ⟨rfl, rfl⟩

end

/-- The timer is switched with a notice that is no error and no warning. -/
theorem TimerAction.level_of_switch? {action : TimerAction} {period : Nat} {notice : Notice}
    (h : action.switch? = some (period, notice)) :
    notice.level ≠ .error ∧ notice.level ≠ .warn := by
  cases action <;> cases h <;> decide

/-- Whether a response comes to a behavior that should have numbered its request before. -/
def Behavior.isEarly : Behavior → Phase → Bool
  | .requestNumbering ⟨none⟩, .responseHeaders => true
  | _, _ => false

namespace Behavior

variable {id : UInt32} {counters : Counters} {behavior : Behavior} {phase : Phase}
  {trace : List TraceEntry} {reaction : Reaction}

/-- A phase tells its failures, unless it is a response before its request. -/
theorem tells_of_reacts (h : Reacts id counters behavior phase trace reaction)
    (htimely : behavior.isEarly phase = false) : Tells id trace := by
  cases h with
  | passed | held => exact .nil
  | unread _ _ _ _ _ _ _ hread => exact hread.tells
  | stampedRequest _ _ _ hstamp => exact hstamp.tells rfl rfl
  | early self hnumber =>
    obtain ⟨number⟩ := self
    cases hnumber
    cases htimely
  | stampedResponse _ _ _ _ _ hstamp => exact hstamp.tells rfl rfl
  | unrouted _ _ hroute => exact hroute.tells
  | uncontrolled _ _ hroute => exact hroute.tells
  | reported _ _ _ _ hroute _ hsend => exact hroute.tells.append (hsend.tells rfl rfl)
  | unswitched _ _ _ _ _ _ _ hroute _ hswitch hset =>
    obtain ⟨herror, hwarn⟩ := TimerAction.level_of_switch? hswitch
    exact hroute.tells.append (.noted herror hwarn (hset.tells rfl rfl))
  | switched _ _ _ _ _ _ _ _ hroute _ hswitch hset hsend =>
    obtain ⟨herror, hwarn⟩ := TimerAction.level_of_switch? hswitch
    exact hroute.tells.append
      (.noted herror hwarn ((hset.tells rfl rfl).append (hsend.tells rfl rfl)))
  | captured _ _ _ _ _ _ _ hinbound hmethod hauthority =>
    exact (hinbound.tells rfl rfl).append ((hmethod.tells rfl rfl).append (hauthority.tells rfl rfl))
  | dispatched _ _ _ _ _ _ hread hcall =>
    exact hread.tells.append (.noted nofun nofun (hcall.tells rfl rfl))
  | undispatched _ _ _ _ _ _ hread hcall =>
    exact hread.tells.append (.noted nofun nofun (hcall.tells rfl rfl))
  | decided _ _ _ hroute => exact hroute.tells
  | unapplied _ _ _ _ _ _ _ _ _ _ hread hcall =>
    exact hread.tells.append (.noted nofun nofun (hcall.tells rfl rfl))
  | answered _ _ _ _ _ _ _ _ _ _ hread hcall hsend =>
    exact hread.tells.append (.noted nofun nofun ((hcall.tells rfl rfl).append (hsend.tells rfl rfl)))
  | replaced _ _ _ _ _ _ _ _ _ _ hread hcall hset =>
    exact hread.tells.append (.noted nofun nofun ((hcall.tells rfl rfl).append (hset.tells rfl rfl)))

/-- A response before its request is met with a warning only. -/
theorem trace_of_isEarly (h : Reacts id counters behavior phase trace reaction)
    (hearly : behavior.isEarly phase = true) :
    trace = [.noted ⟨some id, .responseBeforeRequest⟩] := by
  cases h with
  | early => rfl
  | passed _ _ hheaders => grind [isEarly, headed]
  | _ => grind [isEarly, buffered?]

/-- Behind the record of a cluster call that failed, a completion tells its failures. -/
theorem tells_of_relays {self : CallRelay} {headers bodySize : Nat}
    (h : Relays id self headers bodySize trace) :
    ∃ rest, trace = self.warning id headers ++ rest ∧ Tells id rest := by
  cases h with
  | answered _ _ _ _ _ hheaders hbody hsend =>
    exact ⟨_, rfl, (hheaders.tells rfl rfl).append (hbody.tells.append (hsend.tells rfl rfl))⟩
  | resumed _ _ _ _ _ _ _ _ hheaders hbody hsend hresume =>
    exact ⟨_, rfl, (hheaders.tells rfl rfl).append
      (hbody.tells.append ((hsend.tells rfl rfl).append (hresume.tells rfl rfl)))⟩

end Behavior

end ProxyFilter
