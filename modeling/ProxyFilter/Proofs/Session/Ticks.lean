import ProxyFilter.Proofs.Session.Restarts
import ProxyFilter.Proofs.Stream.Control
import ProxyFilter.Proofs.Text.Utf8

/-!
# Reports of the timer

A stream of timer control reports how often the timer of its plugin has fired. All firings are
counted, whichever configuration is in force and whatever the streams do in between, so a
report holds their number to the last one.
-/

namespace ProxyFilter

open Dialogue TraceEntry

/-- Where the path of the request asks for the number of firings, finding the path is followed
by one answer at once, with the decimal of that number. -/
theorem TimerControl.calls_report {σ : Type} {host : Host σ} {world : σ}
    (hpath : (Property.requestPath.run host world).value = .ok "/tickTests/get") (id : UInt32)
    (counters : Counters) :
    ((onRequestHeaders id counters).run host world).calls =
      (Property.requestPath.run host world).calls ++
        [.respond 200 [] (Text.Utf8.encode (toString counters.ticks).toList)] := by
  rw [← Text.Utf8.ofNat_eq_encode]
  simp only [onRequestHeaders, run_bind, hpath]
  generalize (Property.requestPath.run host world).world = found
  obtain ⟨reply, hsend, -⟩ :=
    course_respond (course_run host (respond id (Bytes.ofNat counters.ticks)) found)
  exact List.filterMap_append.trans (congrArg _ hsend.calls_eq)

namespace Session

variable {session : Session} {number id : UInt32} {stream : Stream} {proxy : Proxy}

/-- A running stream of timer control that is asked for the number of firings answers with
those in the counters of its plugin. -/
theorem calls_report
    (hlive : session.streams.get? id = some ⟨.stream stream, .plugin number, proxy⟩)
    (hkind : stream.behavior.kind = .timerControl) (hstate : stream.state = .running)
    {host : Host World}
    (hpath : (Property.requestPath.run host (session.world proxy)).value = .ok "/tickTests/get") :
    (session.commonStep host (.arrival id .requestHeaders)).1.answer.calls =
      (Property.requestPath.run host (session.world proxy)).calls ++
        [.respond 200 []
          (Text.Utf8.encode (toString (session.plugin number).counters.ticks).toList)] := by
  obtain ⟨htrace, -⟩ := Stream.meet_control (Behavior.eq_timerControl hkind) hstate
    (session.counters (.plugin number)) host (session.world proxy)
  rw [commonStep_arrival hlive, ← TimerControl.calls_report hpath stream.id]
  exact congrArg calls htrace

/-- Firings of a timer leave all that is live and every number of requests as it is. -/
theorem requests_tick (session : Session) (host : Host World) (number : UInt32) (times : Nat) :
    let after := (session.commonStep host (.tick number times)).2
    after.streams = session.streams ∧
      ∀ owner, (after.counters owner).requests = (session.counters owner).requests := by
  refine ⟨rfl, fun owner => ?_⟩
  rw [commonStep_tick, counters_setPlugin]
  split
  · next howner =>
    rw [howner]
    rfl
  · rfl

/-- Reports are exact. After any run the counters of a plugin hold the firings of its timer,
all of them. A stream of timer control that is not finished, and whose request has the path of
a report, answers with the decimal of their number. A step in which the timer does not fire
leaves the number as it is, and firings change neither what is live nor the requests. -/
theorem reports_are_exact (host : Host World) (steps : List SessionStep) (number : UInt32) :
    let session := (Session.new.run host steps).2
    let fired := SessionStep.allFirings number steps
    (session.plugin number).counters.ticks = fired ∧
    (∀ id stream proxy,
      session.streams.get? id = some ⟨.stream stream, .plugin number, proxy⟩ →
      stream.behavior.kind = .timerControl → stream.state ≠ .completed →
      let route := Property.requestPath.run host (session.world proxy)
      route.value = .ok "/tickTests/get" →
      (session.commonStep host (.arrival id .requestHeaders)).1.answer.calls =
        route.calls ++ [.respond 200 [] (Text.Utf8.encode (toString fired).toList)]) ∧
    (∀ step : SessionStep, step.firings number = 0 →
      ((session.step host step).2.plugin number).counters.ticks = fired) ∧
    ∀ other times,
      let after := (session.commonStep host (.tick other times)).2
      after.streams = session.streams ∧
        ∀ owner, (after.counters owner).requests = (session.counters owner).requests := by
  intro session fired
  have hfired : (session.plugin number).counters.ticks = fired :=
    (Session.new.becomes_run host steps number).ticks.trans (Nat.zero_add _)
  refine ⟨hfired, ?_, ?_, session.requests_tick host⟩
  · intro id stream proxy hlive hkind hgoing route hpath
    have hopen : stream.state = .running ∨ stream.state = .completed :=
      everyStream_run Moment.keeps_control (fun _ _ _ _ => .inl rfl) host steps id stream
        (.plugin number) proxy hlive hkind
    rw [calls_report hlive hkind (hopen.resolve_right hgoing) hpath, hfired]
  · intro step hquiet
    rw [(session.becomes_step host step number).ticks, hfired, hquiet, Nat.add_zero]

/-- The path of a request for the number of firings. -/
def reportPath : Bytes := Text.Utf8.encode "/tickTests/get".toList

/-- The contents of a proxy whose request asks for the number of firings. -/
def reportScript : Script := { Script.blank with properties := some [("request.path", reportPath)] }

/-- A stream of timer control that is created behind three firings reports five of them behind
two more. -/
theorem sample_reports_are_exact :
    let steps : List SessionStep := [.common (.start 0 (some timerText)), .common (.tick 0 3),
      .common (.stream 0 1 reportScript), .common (.tick 0 2)]
    let session := (Session.new.run Proxy.host steps).2
    let stream := Stream.new 1 .timerControl
    let proxy := (reportScript.apply ⟨.blank, 1⟩).proxy
    let route := Property.requestPath.run Proxy.host (session.world proxy)
    session.streams.get? 1 = some ⟨.stream stream, .plugin 0, proxy⟩ ∧
      stream.behavior.kind = .timerControl ∧ stream.state ≠ .completed ∧
      route.value = .ok "/tickTests/get" ∧
      (session.commonStep Proxy.host (.arrival 1 .requestHeaders)).1.answer.calls =
        route.calls ++ [.respond 200 [] (Text.Utf8.encode (toString 5).toList)] := by
  intro steps session stream proxy route
  have hlive : session.streams.get? 1 = some ⟨.stream stream, .plugin 0, proxy⟩ := by
    simp only [session, steps, run, step, commonStep, Plugin.start, parse_timerText]
    rfl
  have hroute : ∀ token, (Property.requestPath.run Proxy.host ⟨proxy, token⟩).value =
      .ok "/tickTests/get" := fun token => rfl
  have hpath : route.value = .ok "/tickTests/get" := hroute _
  have hfired : SessionStep.allFirings 0 steps = 5 := rfl
  obtain ⟨-, hreport, -⟩ := reports_are_exact Proxy.host steps 0
  have hgoing : stream.state ≠ .completed := by decide
  have hcalls := hreport 1 stream proxy hlive rfl hgoing hpath
  rw [hfired] at hcalls
  refine ⟨hlive, rfl, hgoing, hpath, ?_⟩
  simp only [session, route]
  exact hcalls

end Session

end ProxyFilter
