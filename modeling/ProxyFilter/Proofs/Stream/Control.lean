import ProxyFilter.Proofs.Dialogue.Paths
import ProxyFilter.Proofs.Stream.Numbering

/-!
# Control of the timer by exact paths

Timer control takes the whole path of a request for one of three. The path is decoded before it is
compared, and the three are ASCII, so nothing ill-formed is ever taken for one of them. What
follows the path depends on it alone and on which calls fail: the timer is set or not, a success is
told only where there was one, and what fails lets the request go on.
-/

namespace ProxyFilter

open Dialogue TraceEntry

/-- The path that asks for an action. -/
def TimerAction.path : TimerAction → String
  | .enable => "/tickTests/enable"
  | .disable => "/tickTests/disable"
  | .get => "/tickTests/get"

/-- The bytes of a path ask for an action exactly if they are those of its path. -/
theorem TimerAction.ofPath?_decode_eq_some_iff {path : Bytes} {action : TimerAction} :
    ofPath? (Property.decode path) = some action ↔
      path = Text.Utf8.encode action.path.toList := by
  have hascii : ∀ char ∈ action.path.toList, Text.Utf8.isAscii char = true := by
    cases action <;> exact List.all_eq_true.mp (by decide)
  rw [← Property.decode_eq_iff hascii]
  generalize Property.decode path = text
  unfold ofPath?
  constructor
  · intro h
    split at h
    · next henable => cases h; exact henable
    · split at h
      · next hdisable => cases h; exact hdisable
      · split at h
        · next hget => cases h; exact hget
        · cases h
  · rintro rfl
    cases action <;> decide

/-- An attempt asks for its call and no other. -/
theorem Dialogue.Attempt.asked_mem_iff {id : UInt32} {task : Task} {made call : Call}
    {trace : List TraceEntry} {reply : made.Reply} (h : Attempt id task made trace reply)
    {told : call.Reply} :
    .asked call told ∈ trace ↔ TraceEntry.asked call told = .asked made reply := by
  cases h <;> simp only [List.mem_cons, List.not_mem_nil, reduceCtorEq, or_false]

/-- There is one behavior of timer control. -/
theorem Behavior.eq_timerControl {behavior : Behavior} (hkind : behavior.kind = .timerControl) :
    behavior = .timerControl := by
  cases behavior with
  | timerControl => rfl
  | _ => cases hkind

/-- A stream of timer control is running until it is finished. -/
theorem Moment.keeps_control :
    Moment.Keeps fun stream => stream.behavior.kind = .timerControl →
      stream.state = .running ∨ stream.state = .completed := by
  intro counters moment harises hbefore hkind
  have hcontrol : moment.before.behavior.kind = .timerControl := harises.kind_eq ▸ hkind
  exact keeps_unheld counters moment harises (fun _ => hbefore hcontrol) (.inr hkind)

namespace TimerControl

variable {σ : Type} {id : UInt32} {counters : Counters} {control : Option TimerAction}
  {trace : List TraceEntry} {outcome : Outcome}

namespace Follows

/-- The timer is started exactly if that is asked for, and stopped exactly if that is. -/
theorem setTickPeriod_mem_iff (h : Follows id counters control trace outcome) {period : Nat} :
    .setTickPeriod period ∈ calls trace ↔
      (period = 100 ∧ control = some .enable) ∨ (period = 0 ∧ control = some .disable) := by
  cases h with
  | nothing => simp
  | report reply _ hsend => simp [hsend.calls_eq]
  | refusal action held notice status trace hswitch hset =>
    cases action <;> cases hswitch <;> simp [hset.calls_eq, TimerControl.period]
  | switch action held notice reply middle ending hswitch hset hsend =>
    cases action <;> cases hswitch <;> simp [hset.calls_eq, hsend.calls_eq, TimerControl.period]

/-- An answer tells of a period that was set, or it reports the number of firings to a request
for it. -/
theorem respond_mem_iff (h : Follows id counters control trace outcome) {status : Nat}
    {headers : Headers} {body : Bytes} :
    .respond status headers body ∈ calls trace ↔ status = 200 ∧ headers = [] ∧
      ((body = Text.Utf8.encode ['o', 'k'] ∧
        ∃ period, .asked (.setTickPeriod period) (.ok ()) ∈ trace) ∨
      (body = Bytes.ofNat counters.ticks ∧ control = some .get)) := by
  cases h with
  | nothing => simp
  | report reply _ hsend => simp [hsend.calls_eq, hsend.asked_mem_iff]
  | refusal action held notice status trace hswitch hset =>
    have hget : action ≠ .get := by
      rintro rfl
      cases hswitch
    simp [hset.calls_eq, hset.asked_mem_iff, hget]
  | switch action held notice reply middle ending hswitch hset hsend =>
    have hget : action ≠ .get := by
      rintro rfl
      cases hswitch
    simp [hset.calls_eq, hsend.calls_eq, hset.asked_mem_iff, hsend.asked_mem_iff, hget]

/-- Where no action is asked for, nothing follows. -/
theorem eq_of_none (h : Follows id counters none trace outcome) :
    calls trace = [] ∧ outcome = .proceed := by
  cases h
  exact ⟨rfl, rfl⟩

/-- Behind a period that is refused nothing follows. -/
theorem of_refused (h : Follows id counters control trace outcome) {period : Nat} {status : Status}
    (hrefused : .asked (.setTickPeriod period) (.error status) ∈ trace) :
    calls trace = [.setTickPeriod period] ∧ outcome = .proceed := by
  cases h with
  | nothing => cases hrefused
  | report reply _ hsend => simp [hsend.asked_mem_iff] at hrefused
  | refusal action held notice refused trace hswitch hset =>
    obtain ⟨rfl, -⟩ : period = held ∧ status = refused := by
      simpa [hset.asked_mem_iff] using hrefused
    exact ⟨hset.calls_eq, rfl⟩
  | switch action held notice reply middle ending hswitch hset hsend =>
    simp [hset.asked_mem_iff, hsend.asked_mem_iff] at hrefused

/-- An answer that cannot be sent is the end. -/
theorem of_unsent (h : Follows id counters control trace outcome) {body : Bytes} {status : Status}
    (hunsent : .asked (.respond 200 [] body) (.error status) ∈ trace) : outcome = .finished := by
  cases h with
  | nothing => cases hunsent
  | report reply _ hsend =>
    obtain ⟨-, rfl⟩ : body = Bytes.ofNat counters.ticks ∧ .error status = reply := by
      simpa [hsend.asked_mem_iff] using hunsent
    rfl
  | refusal action held notice refused trace hswitch hset =>
    simp [hset.asked_mem_iff] at hunsent
  | switch action held notice reply middle ending hswitch hset hsend =>
    obtain ⟨-, rfl⟩ : body = Text.Utf8.encode ['o', 'k'] ∧ .error status = reply := by
      simpa [hset.asked_mem_iff, hsend.asked_mem_iff] using hunsent
    rfl

end Follows

/-- The action that a proxy has a request ask for, if it has a path at all. -/
def requested? (host : Host σ) (world : σ) : Option TimerAction :=
  (host.pathBytes world).toOption.bind fun path => TimerAction.ofPath? (Property.decode path)

/-- Which action is asked for is a matter of the bytes of the path. -/
theorem requested?_eq_some_iff {host : Host σ} {world : σ} {action : TimerAction} :
    requested? host world = some action ↔
      host.pathBytes world = .ok (Text.Utf8.encode action.path.toList) := by
  unfold requested?
  cases host.pathBytes world with
  | error status => exact ⟨fun h => (Option.some_ne_none _ h.symm).elim, fun h => by cases h⟩
  | ok path =>
    rw [Except.ok.injEq, ← TimerAction.ofPath?_decode_eq_some_iff]
    rfl

/-- Behind the calls that find the path comes what follows it. -/
theorem follows_path (id : UInt32) (counters : Counters) (host : Host σ) (world : σ) :
    let run := (onRequestHeaders id counters).run host world
    ∃ opening ending, run.trace = opening ++ ending ∧ calls opening = host.pathCalls world ∧
      Follows id counters (requested? host world) ending run.value := by
  obtain ⟨hvalue, hcalls⟩ := Property.run_requestPath host world
  simp only [onRequestHeaders, run_bind, hvalue, requested?]
  cases host.pathBytes world with
  | error status =>
    refine ⟨_, [], (List.append_nil _).symm, ?_, .nothing⟩
    rw [calls_append, hcalls]
    exact List.append_nil _
  | ok path =>
    refine ⟨_, _, rfl, hcalls, ?_⟩
    simp only [Except.map, Except.toOption, Option.bind_some]
    cases TimerAction.ofPath? (Property.decode path) with
    | none => exact .nothing
    | some action =>
      cases action with
      | enable => exact follows_switch rfl (course_run host _ _)
      | disable => exact follows_switch rfl (course_run host _ _)
      | get => exact follows_report (course_run host _ _)

end TimerControl

namespace Stream

variable {σ : Type}

/-- A stream of timer control that is not finished is running. -/
theorem running_of_control {id : UInt32} {config : Config} (hkind : config.kind = .timerControl)
    {past : List (Delivery σ)}
    (hgoing : ((new id (.ofConfig config)).through past).state ≠ .completed) :
    let stream := (new id (.ofConfig config)).through past
    stream.behavior = .timerControl ∧ stream.state = .running := by
  intro stream
  have hcontrol : stream.behavior.kind = .timerControl :=
    keeps_through (Moment.keeps_kind _) ((Behavior.kind_ofConfig config).trans hkind) past
  have hstate := keeps_through Moment.keeps_control (fun _ => .inl rfl) past hcontrol
  exact ⟨Behavior.eq_timerControl hcontrol, hstate.resolve_right hgoing⟩

/-- A running stream of timer control meets a request as timer control does. -/
theorem meet_control {stream : Stream} (hbehavior : stream.behavior = .timerControl)
    (hstate : stream.state = .running) (counters : Counters) (host : Host σ) (world : σ) :
    let run := (TimerControl.onRequestHeaders stream.id counters).run host world
    let moment := stream.meet ⟨.phase .requestHeaders, counters, host, world⟩
    moment.trace = run.trace ∧ moment.action = some run.value.action ∧
      moment.after.state = run.value.state := by
  have hopen : stream.state.gate? = none := StreamState.gate?_eq_none (.inl hstate)
  simp only [meet, run_onPhase_of_open hopen, hbehavior, Behavior.onPhase, run_bind_pure,
    and_self]

/-- Control is exact. Let a stream of timer control that is not finished meet a request, under any
proxy. It starts the timer, with a period of 100 milliseconds, exactly if the bytes of the path are
those of the control path for that, and stops it exactly if they are those of the other. It answers
exactly if a period was set, with `ok`, or the path is the third one, with the number of firings.
With any other path, or none that can be read, it calls nothing but to find the path, and the
request goes on with the stream running. So it does behind a period that is refused, of which
nothing is told; and behind an answer that cannot be sent the request goes on with the stream
completed. -/
theorem control_is_exact {id : UInt32} {config : Config} {stream : Stream}
    {past : List (Delivery σ)} (hkind : config.kind = .timerControl)
    (hstream : stream = (new id (.ofConfig config)).through past)
    (hgoing : stream.state ≠ .completed) (counters : Counters) (host : Host σ) (world : σ) :
    let moment := stream.meet ⟨.phase .requestHeaders, counters, host, world⟩
    let controls (action : TimerAction) : Prop :=
      host.pathBytes world = .ok (Text.Utf8.encode action.path.toList)
    let goesOn := moment.action = some .proceed ∧ moment.after.state = .running
    (∀ period, .setTickPeriod period ∈ moment.calls ↔
      (period = 100 ∧ controls .enable) ∨ (period = 0 ∧ controls .disable)) ∧
    (∀ status headers body, .respond status headers body ∈ moment.calls ↔
      status = 200 ∧ headers = [] ∧
        ((body = Text.Utf8.encode ['o', 'k'] ∧
          ∃ period, .asked (.setTickPeriod period) (.ok ()) ∈ moment.trace) ∨
        (body = Bytes.ofNat counters.ticks ∧ controls .get))) ∧
    ((∀ action, ¬controls action) → moment.calls = host.pathCalls world ∧ goesOn) ∧
    (∀ period status, .asked (.setTickPeriod period) (.error status) ∈ moment.trace →
      moment.calls = host.pathCalls world ++ [.setTickPeriod period] ∧ goesOn) ∧
    ∀ body status, .asked (.respond 200 [] body) (.error status) ∈ moment.trace →
      moment.action = some .proceed ∧ moment.after.state = .completed := by
  intro moment controls goesOn
  subst hstream
  obtain ⟨hbehavior, hrunning⟩ := running_of_control hkind hgoing
  obtain ⟨htrace, haction, hstate⟩ := meet_control hbehavior hrunning counters host world
  obtain ⟨opening, ending, hparts, hopening, hfollows⟩ := TimerControl.follows_path
    ((new id (.ofConfig config)).through past).id counters host world
  rw [hparts] at htrace
  have hcalls : moment.calls = host.pathCalls world ++ calls ending := by
    rw [Moment.calls, htrace, calls_append, hopening]
  have hbehind {made : Call} (hmade : made.kind ≠ .property ∧ made.kind ≠ .requestHeader) :
      made ∉ calls opening := by
    rw [hopening]
    exact fun hfound => (Host.kind_of_mem_pathCalls hfound).elim hmade.1 hmade.2
  have hentry {made : Call} (hmade : made.kind ≠ .property ∧ made.kind ≠ .requestHeader)
      (reply : made.Reply) : .asked made reply ∈ moment.trace ↔ .asked made reply ∈ ending := by
    rw [htrace, List.mem_append]
    exact or_iff_right fun hfound =>
      hbehind hmade (List.mem_filterMap.mpr ⟨.asked made reply, hfound, rfl⟩)
  have hset (period : Nat) : (Call.setTickPeriod period).kind ≠ .property ∧
      (Call.setTickPeriod period).kind ≠ .requestHeader :=
    ⟨CallKind.noConfusion, CallKind.noConfusion⟩
  have hsend (status : Nat) (headers : Headers) (body : Bytes) :
      (Call.respond status headers body).kind ≠ .property ∧
        (Call.respond status headers body).kind ≠ .requestHeader :=
    ⟨CallKind.noConfusion, CallKind.noConfusion⟩
  rw [hopening] at hbehind
  simp only [controls, goesOn, ← TimerControl.requested?_eq_some_iff, hcalls, List.mem_append,
    hbehind (hset _), hbehind (hsend _ _ _), hentry (hset _), hentry (hsend _ _ _), false_or]
  refine ⟨fun period => hfollows.setTickPeriod_mem_iff,
    fun status headers body => hfollows.respond_mem_iff, fun hnone => ?_,
    fun period status hrefused => ?_, fun body status hunsent => ?_⟩
  · rw [Option.eq_none_iff_forall_ne_some.mpr hnone] at hfollows
    obtain ⟨hnothing, houtcome⟩ := hfollows.eq_of_none
    rw [hnothing, List.append_nil, haction, hstate, houtcome]
    exact ⟨rfl, rfl, rfl⟩
  · obtain ⟨honly, houtcome⟩ := hfollows.of_refused hrefused
    rw [honly, haction, hstate, houtcome]
    exact ⟨rfl, rfl, rfl⟩
  · rw [haction, hstate, hfollows.of_unsent hunsent]
    exact ⟨rfl, rfl⟩

/-- A proxy whose request has a path of these bytes. -/
def sampleRouted (path : Bytes) : World :=
  ⟨{ Proxy.blank with properties := [("request.path", path)] }, 1⟩

/-- In the sample the path that starts the timer does so, and with an ill-formed byte behind it
nothing is called but to find the path. -/
theorem sample_control_is_exact :
    let config : Config := ⟨.timerControl, "", "", ""⟩
    let path := Text.Utf8.encode TimerAction.enable.path.toList
    let past : List (Delivery World) :=
      [⟨.phase .responseHeaders, .zero, Proxy.host, sampleRouted []⟩]
    let stream := (new 1 (.ofConfig config)).through past
    let moment (path : Bytes) :=
      stream.meet ⟨.phase .requestHeaders, .zero, Proxy.host, sampleRouted path⟩
    config.kind = .timerControl ∧ stream.state ≠ .completed ∧
      .setTickPeriod 100 ∈ (moment path).calls ∧
      (moment (path ++ [0xFF])).calls = Proxy.host.pathCalls (sampleRouted (path ++ [0xFF])) ∧
      (moment (path ++ [0xFF])).action = some .proceed ∧
      (moment (path ++ [0xFF])).after.state = .running := by
  intro config path past stream moment
  have hgoing : stream.state ≠ .completed := by decide
  have hpath (path : Bytes) : Proxy.host.pathBytes (sampleRouted path) = .ok path :=
    Host.IsScripted.pathBytes_of_property (.inl rfl) (by simp [Proxy.lookup?, sampleRouted]) rfl
  have hkind : config.kind = .timerControl := rfl
  have hstream : stream = (new 1 (.ofConfig config)).through past := rfl
  obtain ⟨hset, -⟩ :=
    control_is_exact hkind hstream hgoing .zero Proxy.host (sampleRouted path)
  obtain ⟨-, -, hnone, -⟩ :=
    control_is_exact hkind hstream hgoing .zero Proxy.host (sampleRouted (path ++ [0xFF]))
  have hother (action : TimerAction) : ¬Proxy.host.pathBytes (sampleRouted (path ++ [0xFF])) =
      .ok (Text.Utf8.encode action.path.toList) := by
    rw [hpath, Except.ok.injEq]
    cases action <;> decide
  exact ⟨hkind, hgoing, (hset 100).mpr (.inl ⟨rfl, hpath path⟩), hnone hother⟩

end Stream

end ProxyFilter
