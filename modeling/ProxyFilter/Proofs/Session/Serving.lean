import ProxyFilter.Proofs.Behavior.Selection
import ProxyFilter.Proofs.Behavior.Sight
import ProxyFilter.Proofs.Dialogue.Paths
import ProxyFilter.Proofs.Session.Reception

/-!
# Requests that are answered with a function

The bytes of the path decide whether a request is answered with a function, and with which one. Up
to the end of its body such a request is held without a question, whatever arrives in between, and
the body is buffered chunk by chunk. At the end it is read once and answered with the function of
it, and behind the answer nothing is asked any more.
-/

namespace ProxyFilter

open Dialogue TraceEntry

namespace Host.IsScripted

variable {host : Host World} {world : World}

/-- A scripted proxy that offers a function, and neither refuses to call it nor to answer, has a
request answered with the function of its body. -/
theorem run_answerWith (h : host.IsScripted) {name : String} {function : ForeignFunction}
    {body : Bytes} (hoffered : Proxy.lookup? world.proxy.functions name = some function)
    (hcall : world.proxy.failure? (.foreignFunction name body) = none)
    (hsend : world.proxy.failure? (.respond 200 [] ((function body).getD [])) = none)
    (id : UInt32) :
    ∃ trace, (BodyTransform.answerWith id name body).run host world =
        ⟨.responded, world, trace⟩ ∧
      calls trace = [.foreignFunction name body, .respond 200 [] ((function body).getD [])] := by
  obtain ⟨opening, happly, hcalls⟩ := h.run_apply hoffered hcall id
  have hreply : host (.respond 200 [] ((function body).getD [])) world = (.ok (), world) :=
    h.apply_of_works hsend
  refine ⟨opening ++ [.asked (.respond 200 [] ((function body).getD [])) (.ok ())], ?_, ?_⟩
  · rw [BodyTransform.answerWith, run_bind, happly]
    dsimp only
    rw [respond, run_call_bind, hreply]
    rfl
  · rw [calls_append, hcalls]
    rfl

end Host.IsScripted

/-- Where the path of a request has bytes, its text decides the mode. -/
theorem BodyTransform.run_onRequestHeaders {σ : Type} {host : Host σ} {world : σ} {path : Bytes}
    (hpath : host.pathBytes world = .ok path) (id : UInt32) (self : BodyTransform) :
    ∃ trace, (onRequestHeaders id self).run host world =
      ⟨{ self with mode := modeOf (Property.decode path) self.function },
        (Property.requestPath.run host world).world, trace⟩ := by
  obtain ⟨htext, -⟩ := Property.run_requestPath host world
  rw [hpath] at htext
  simp only [onRequestHeaders, run_bind, htext]
  exact ⟨_, rfl⟩

namespace Arrival

/-- Whether an arrival is neither the beginning of a request nor the end of its body. -/
def isEarly : Arrival → Bool
  | .requestHeaders => false
  | .requestBody _ isLast _ => !isLast
  | .responseHeaders => true
  | .responseBody .. => true

/-- What an arrival brings of the request body. -/
def piece : Arrival → Bytes
  | .requestBody chunk _ _ => chunk
  | _ => []

/-- The proxy after a row of arrivals. -/
def arriveAll (parts : List Arrival) (proxy : Proxy) : Proxy :=
  parts.foldl (fun held part => (part.arrive held).1) proxy

/-- The pieces of a request body are buffered in their order. -/
theorem requestBody_arriveAll (parts : List Arrival) (proxy : Proxy) :
    (arriveAll parts proxy).requestBody = proxy.requestBody ++ parts.flatMap piece := by
  induction parts generalizing proxy with
  | nil => exact (List.append_nil _).symm
  | cons part rest ih =>
    have hpiece : (part.arrive proxy).1.requestBody = proxy.requestBody ++ part.piece := by
      cases part with
      | requestBody chunk isLast size => rfl
      | _ => exact (List.append_nil _).symm
    rw [List.flatMap_cons, ← List.append_assoc, ← hpiece]
    exact ih (part.arrive proxy).1

/-- Arrivals change nothing but buffered bodies. -/
theorem sameBut_arriveAll (parts : List Arrival) {proxy away : Proxy}
    (h : Proxy.SameBut (fun _ => true) proxy away) :
    Proxy.SameBut (fun _ => true) (arriveAll parts proxy) away := by
  induction parts generalizing proxy with
  | nil => exact h
  | cons part rest ih => exact ih (h.arrival_hidden part rfl rfl)

end Arrival

namespace Stream

variable {σ : Type} {stream : Stream} {transform : BodyTransform} {name : String}

/-- Whether a stream has become another by nothing but how it waits for more of a body. -/
def Holds (stream next : Stream) : Prop :=
  ∃ state, next = { stream with state } ∧ state.gate? = none

/-- A stream that answers with a function is held without a question up to the end of the body. -/
theorem run_onPhase_early (hbehavior : stream.behavior = .bodyTransform transform)
    (hmode : transform.mode = .request name) {held : Stream} (hheld : stream.Holds held)
    {part : Arrival} (hearly : part.isEarly = true) (proxy : Proxy) (counters : Counters)
    (host : Host σ) (world : σ) :
    ∃ action next, (held.onPhase counters (part.arrive proxy).2).run host world =
      ⟨(action, next, counters), world, []⟩ ∧ stream.Holds next := by
  obtain ⟨id, behavior, before⟩ := stream
  obtain ⟨configured, mode⟩ := transform
  cases hbehavior
  cases hmode
  obtain ⟨state, rfl, hopen⟩ := hheld
  rw [run_onPhase_of_open hopen]
  cases part with
  | requestHeaders => cases hearly
  | requestBody chunk isLast size =>
    cases isLast with
    | true => cases hearly
    | false => exact ⟨_, _, rfl, .awaitingBody, rfl, rfl⟩
  | responseHeaders | responseBody => exact ⟨_, _, rfl, .running, rfl, rfl⟩

end Stream

namespace Session

variable {session : Session} {id : UInt32} {stream : Stream} {owner : Owner} {proxy : Proxy}

/-- The steps of a row of arrivals. -/
def arrivals (id : UInt32) (parts : List Arrival) : List SessionStep :=
  parts.map fun part => .common (.arrival id part)

/-- What is met without a question all along makes no call, and leaves the proxy with what has
arrived. -/
theorem run_arrivals {Kept : Stream → Prop} {allowed : Arrival → Prop} {host : Host World}
    (hsilent : ∀ stream proxy counters world part, Kept stream → allowed part →
      ∃ action next, (stream.onPhase counters (part.arrive proxy).2).run host world =
        ⟨(action, next, counters), world, []⟩ ∧ Kept next)
    (hlive : session.streams.get? id = some ⟨.stream stream, owner, proxy⟩) (hkept : Kept stream)
    {parts : List Arrival} (hparts : ∀ part ∈ parts, allowed part) :
    let left := session.run host (arrivals id parts)
    (∀ report ∈ left.1, report.answer.calls = []) ∧
      ∃ next, left.2.streams.get? id =
        some ⟨.stream next, owner, Arrival.arriveAll parts proxy⟩ ∧ Kept next := by
  induction parts generalizing session stream proxy with
  | nil => exact ⟨fun report hreport => absurd hreport List.not_mem_nil, stream, hlive, hkept⟩
  | cons part rest ih =>
    obtain ⟨hpart, hrest⟩ := List.forall_mem_cons.mp hparts
    obtain ⟨action, next, hrun, hnext⟩ := hsilent stream proxy (session.counters owner)
      (session.world (part.arrive proxy).1) part hkept hpart
    have hstep := commonStep_arrival hlive host part
    rw [hrun] at hstep
    let kept := session.keep id ⟨.stream stream, owner, proxy⟩ (.stream next)
      (session.world (part.arrive proxy).1) (session.counters owner)
    have hfound : kept.streams.get? id = some ⟨.stream next, owner, (part.arrive proxy).1⟩ :=
      (get?_streams_keep _ _ _ _ _ _ _).trans (if_pos rfl)
    obtain ⟨hreports, last, hlast⟩ := ih hfound hnext hrest
    have hleft : session.run host (arrivals id (part :: rest)) =
        (⟨.phase [] action next.state, []⟩ :: (kept.run host (arrivals id rest)).1,
          (kept.run host (arrivals id rest)).2) := by
      simp only [arrivals, List.map_cons, run, step]
      rw [hstep]
      rfl
    rw [hleft]
    exact ⟨List.forall_mem_cons.mpr ⟨rfl, hreports⟩, last, hlast⟩

/-- Behind the end of its stream nothing that arrives makes a call. -/
theorem silent_of_completed
    (hlive : session.streams.get? id = some ⟨.stream stream, owner, proxy⟩)
    (hdone : stream.state = .completed) (host : Host World) (parts : List Arrival) :
    ∀ report ∈ (session.run host (arrivals id parts)).1, report.answer.calls = [] := by
  have hsilent (stream : Stream) (proxy : Proxy) (counters : Counters) (world : World)
      (part : Arrival) (hdone : stream.state = .completed) (_ : True) :
      ∃ action next, (stream.onPhase counters (part.arrive proxy).2).run host world =
        ⟨(action, next, counters), world, []⟩ ∧ next.state = .completed := by
    have hclosed : stream.state.gate? = some .proceed := by
      rw [hdone]
      rfl
    exact ⟨_, _, Stream.run_onPhase_of_closed hclosed counters _ host world, hdone⟩
  exact (run_arrivals hsilent hlive hdone fun _ _ => trivial).1

/-- A stream whose gate is open takes its mode from the text of the path. -/
theorem get?_requestHeaders {host : Host World} (hscript : host.IsScripted)
    (hlive : session.streams.get? id = some ⟨.stream stream, owner, proxy⟩)
    (hopen : stream.state.gate? = none) {transform : BodyTransform}
    (hbehavior : stream.behavior = .bodyTransform transform) {path : Bytes}
    (hpath : host.pathBytes (session.world proxy) = .ok path) :
    let mode := BodyTransform.modeOf (Property.decode path) transform.function
    (session.commonStep host (.arrival id .requestHeaders)).2.streams.get? id =
      some ⟨.stream ⟨stream.id, .bodyTransform { transform with mode }, .running⟩, owner, proxy⟩ := by
  intro mode
  obtain ⟨trace, hrun⟩ := BodyTransform.run_onRequestHeaders hpath stream.id transform
  rw [hscript.world_requestPath] at hrun
  rw [commonStep_arrival hlive, get?_streams_keep, if_pos rfl, Stream.run_onPhase_of_open hopen,
    hbehavior]
  simp only [Arrival.arrive, Behavior.onPhase, run_bind_pure, hrun]
  rfl

/-- The end of a request body that is read, put through a function and sent completes its
stream. -/
theorem commonStep_served {host : Host World} (hscript : host.IsScripted)
    (hlive : session.streams.get? id = some ⟨.stream stream, owner, proxy⟩)
    (hopen : stream.state.gate? = none) {transform : BodyTransform} {name : String}
    {function : ForeignFunction} (hbehavior : stream.behavior = .bodyTransform transform)
    (hmode : transform.mode = .request name)
    (hoffered : Proxy.lookup? proxy.functions name = some function) (last : Bytes) :
    let body := proxy.requestBody ++ last
    let made : List Call := (if body.length = 0 then [] else [.body .request 0 body.length]) ++
      [.foreignFunction name body, .respond 200 [] ((function body).getD [])]
    (∀ call ∈ made, proxy.failure? call = none) →
      let final := session.commonStep host (.arrival id (.requestBody last true none))
      final.1.answer = .phase made .pause .completed ∧
        ∃ next held, final.2.streams.get? id = some ⟨.stream next, owner, held⟩ ∧
          next.state = .completed := by
  intro body made hworks final
  obtain ⟨configured, mode⟩ := transform
  cases hmode
  let arrived : World := session.world { proxy with requestBody := body }
  have hlast : stream.behavior.buffered? (.requestBody body.length true) =
      some (.request, body.length, true) := by
    rw [hbehavior]
    rfl
  obtain ⟨hfirst, hothers⟩ := List.forall_mem_append.mp hworks
  obtain ⟨hcall, hlatter⟩ := List.forall_mem_cons.mp hothers
  obtain ⟨hsend, -⟩ := List.forall_mem_cons.mp hlatter
  have hfound : Proxy.lookup? arrived.proxy.functions name = some function := hoffered
  have hspent : ∃ ending, (stream.behavior.spend stream.id body.length
        ((arrived.proxy.buffered .request).take body.length)).run host arrived =
        ⟨.responded, arrived, ending⟩ ∧
      calls ending = [.foreignFunction name body, .respond 200 [] ((function body).getD [])] := by
    have hwhole : (arrived.proxy.buffered .request).take body.length = body := List.take_length
    rw [hwhole, hbehavior]
    exact hscript.run_answerWith hfound hcall hsend stream.id
  obtain ⟨trace, hrun, hcalls⟩ :=
    hscript.run_onPhase_last hopen hlast hfirst hspent (session.counters owner)
  have hstep := commonStep_arrival hlive host (.requestBody last true none)
  simp only [Arrival.arrive, Option.getD_none] at hstep
  rw [hrun] at hstep
  simp only [final, hstep]
  refine ⟨?_, _, _, (get?_streams_keep _ _ _ _ _ _ _).trans (if_pos rfl), rfl⟩
  exact congrArg (Answer.phase · .pause .completed) hcalls

/-- Requests are served from their path to the answer. Let a stream with a foreign function wait
for nothing, or only for more of a body. The headers of a request set its mode by the bytes of the
path, well-formed or not: it answers with a function exactly if the path names one, whose name is
the text of the bytes that do; and if the path names none, it goes by the function that is
configured, and leaves the bodies alone if that is empty. From the first of these modes, with no
body buffered, let a body arrive in any pieces, told with the size that is buffered at the end, and
among them anything of the response. Up to the last piece nothing is called. If no call fails then,
the body is read, unless it is empty, the function is called once with the whole of it, and its
result, or nothing if there is no data, is sent with status 200 and no headers. The request is held
and the stream is completed, so that behind it nothing is called whatever arrives. -/
theorem requests_are_served {host : Host World} {transform : BodyTransform}
    (hscript : host.IsScripted)
    (hlive : session.streams.get? id = some ⟨.stream stream, owner, proxy⟩)
    (hstate : stream.state = .running ∨ stream.state = .awaitingBody)
    (hbehavior : stream.behavior = .bodyTransform transform) :
    (∀ path, host.pathBytes (session.world proxy) = .ok path →
      ∃ mode, (session.commonStep host (.arrival id .requestHeaders)).2.streams.get? id =
          some ⟨.stream ⟨stream.id, .bodyTransform { transform with mode }, .running⟩, owner,
            proxy⟩ ∧
        (∀ name, mode = .request name ↔
          ∃ bytes, BodyTransform.Names path bytes ∧ name = Property.decode bytes) ∧
        ((¬∃ bytes, BodyTransform.Names path bytes) → mode =
          if transform.function = "" then .passthrough else .response transform.function)) ∧
    ∀ name function early last later, transform.mode = .request name → proxy.requestBody = [] →
      Proxy.lookup? proxy.functions name = some function →
      (∀ part ∈ early, part.isEarly = true) →
      let body := early.flatMap Arrival.piece ++ last
      let made : List Call := (if body.length = 0 then [] else [.body .request 0 body.length]) ++
        [.foreignFunction name body, .respond 200 [] ((function body).getD [])]
      (∀ call ∈ made, proxy.failure? call = none) →
        let before := session.run host (arrivals id early)
        let final := before.2.commonStep host (.arrival id (.requestBody last true none))
        (∀ report ∈ before.1, report.answer.calls = []) ∧
          final.1.answer = .phase made .pause .completed ∧
          ∀ report ∈ (final.2.run host (arrivals id later)).1, report.answer.calls = [] := by
  have hopen : stream.state.gate? = none := StreamState.gate?_eq_none hstate
  refine ⟨fun path hpath => ?_, ?_⟩
  · obtain ⟨hrequest, hother⟩ := BodyTransform.modeOf_decode path transform.function
    exact ⟨_, get?_requestHeaders hscript hlive hopen hbehavior hpath, hrequest, hother⟩
  · intro name function early last later hmode hempty hoffered hearly body made hworks before final
    obtain ⟨hbefore, held, hheld, hholds⟩ := run_arrivals
      (fun _ proxy counters world _ hheld hpart =>
        Stream.run_onPhase_early hbehavior hmode hheld hpart proxy counters host world)
      hlive ⟨stream.state, rfl, hopen⟩ hearly
    have hbuffered : (Arrival.arriveAll early proxy).requestBody = early.flatMap Arrival.piece := by
      rw [Arrival.requestBody_arriveAll, hempty, List.nil_append]
    have hkept := Arrival.sameBut_arriveAll early (Proxy.SameBut.refl _ proxy)
    have hfound : Proxy.lookup? (Arrival.arriveAll early proxy).functions name = some function :=
      hkept.functions ▸ hoffered
    obtain ⟨state, rfl, hgate⟩ := hholds
    have hserved := commonStep_served hscript hheld hgate hbehavior hmode hfound last
    simp only [hbuffered, ← hkept.failure?] at hserved
    obtain ⟨hfinal, done, left, hdone, hcompleted⟩ := hserved hworks
    exact ⟨hbefore, hfinal, silent_of_completed hdone hcompleted host later⟩

/-- A path with a query, and with an ill-formed byte in the name of its function. -/
def servedPath : Bytes :=
  Text.Utf8.encode "/ffiTests/".toList ++ ([0xFF, 0x66] ++ [0x3F, 0x78])

/-- The name of that function. -/
def servedName : String := Property.decode [0xFF, 0x66]

/-- A proxy with a request of that path, which offers the function. -/
def servedProxy : Proxy :=
  { Proxy.blank with
    properties := [("request.path", servedPath)]
    functions := [(servedName, .double)] }

/-- A session with one stream, whose request has not arrived. -/
def served : Session :=
  Session.new.setStream 1
    ⟨.stream (.new 1 (.bodyTransform (.new ⟨.bodyTransform, "", "", ""⟩))), .shared, servedProxy⟩

/-- In the sample the path names a function with a replacement character in its name, and a body of
two bytes is answered with the double of it, though the whole response arrives in between. -/
theorem sample_requests_are_served :
    let early : List Arrival := [.requestBody [0x61] false none, .responseHeaders,
      .responseBody [0x62] true none]
    let opened := (served.commonStep Proxy.host (.arrival 1 .requestHeaders)).2
    let before := opened.run Proxy.host (arrivals 1 early)
    let final := before.2.commonStep Proxy.host (.arrival 1 (.requestBody [0x63] true none))
    Proxy.host.pathBytes (served.world servedProxy) = .ok servedPath ∧
      opened.streams.get? 1 = some
        ⟨.stream ⟨1, .bodyTransform ⟨"", .request servedName⟩, .running⟩, .shared, servedProxy⟩ ∧
      (∀ report ∈ before.1, report.answer.calls = []) ∧
      final.1.answer = .phase [.body .request 0 2, .foreignFunction servedName [0x61, 0x63],
        .respond 200 [] [0x61, 0x63, 0x61, 0x63]] .pause .completed ∧
      ∀ report ∈ (final.2.run Proxy.host (arrivals 1 early)).1, report.answer.calls = [] := by
  intro early opened before final
  have hscript : Proxy.host.IsScripted := .inl rfl
  have hlive : served.streams.get? 1 =
      some ⟨.stream (.new 1 (.bodyTransform ⟨"", .pending⟩)), .shared, servedProxy⟩ := rfl
  have hheld : Proxy.lookup? servedProxy.properties "request.path" = some servedPath := by
    simp [Proxy.lookup?, servedProxy]
  have hpath : Proxy.host.pathBytes (served.world servedProxy) = .ok servedPath :=
    hscript.pathBytes_of_property hheld rfl
  have hnames : BodyTransform.Names servedPath [0xFF, 0x66] :=
    ⟨⟨[0x3F, 0x78], rfl, .inr rfl⟩, by decide, by decide⟩
  obtain ⟨hmode, -⟩ := requests_are_served hscript hlive (.inl rfl) rfl
  obtain ⟨mode, hopened, hrequest, -⟩ := hmode servedPath hpath
  obtain rfl := (hrequest servedName).mpr ⟨_, hnames, rfl⟩
  have hoffered : Proxy.lookup? servedProxy.functions servedName = some .double := by
    simp [Proxy.lookup?, servedProxy]
  obtain ⟨-, hanswer⟩ := requests_are_served hscript hopened (.inl rfl) rfl
  exact ⟨hpath, hopened, hanswer servedName .double early [0x63] early rfl rfl hoffered (by decide)
    fun call _ => by cases call <;> rfl⟩

end Session

end ProxyFilter
