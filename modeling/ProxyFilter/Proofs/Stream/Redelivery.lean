import ProxyFilter.Proofs.Dialogue.Scripts
import ProxyFilter.Proofs.Stream.Confinement
import ProxyFilter.Proofs.Stream.Finality

/-!
# Request headers that are delivered again

What a behavior makes of the headers of a request is written over what an earlier delivery of them
has left: a number is taken once, captured headers and a mode are replaced as a whole. So the same
headers lead to the same dialogue again, unless they have been answered. And a proxy that has not
changed in between replies to it in the same way.
-/

namespace ProxyFilter

open Dialogue TraceEntry

variable {σ α : Type}

/-- While a proxy is in certain states, it replies to calls of some kinds as a script says, and
these calls do not lead out of the states. -/
structure Host.Follows (host : Host σ) (script : (call : Call) → call.Reply)
    (kinds : List CallKind) (among : σ → Prop) : Prop where
  /-- The reply is that of the script. -/
  reply_eq : ∀ call world, call.kind ∈ kinds → among world → (host call world).1 = script call
  /-- The states are not left. -/
  stays : ∀ call world, call.kind ∈ kinds → among world → among (host call world).2

namespace Host.Follows

variable {host : Host σ} {script : (call : Call) → call.Reply} {kinds : List CallKind}
  {among : σ → Prop}

/-- A dialogue that makes calls of these kinds only is run the same way in all of the states. -/
theorem run_eq (h : host.Follows script kinds among) (dialogue : Dialogue α) {world again : σ}
    (hworld : among world) (hagain : among again)
    (hkinds : ∀ call ∈ (dialogue.run host world).calls, call.kind ∈ kinds) :
    (dialogue.run host again).value = (dialogue.run host world).value ∧
      (dialogue.run host again).trace = (dialogue.run host world).trace ∧
      among (dialogue.run host world).world := by
  have hstep : ∀ (call : Call) (here there : σ), among here ∧ among there →
      (∀ made ∈ (asked call (host call here).1).call?, made.kind ∈ kinds) →
        (host call there).1 = (host call here).1 ∧
          among (host call here).2 ∧ among (host call there).2 := by
    rintro call here there ⟨hhere, hthere⟩ hmade
    have hkind : call.kind ∈ kinds := hmade call rfl
    refine ⟨?_, h.stays call here hkind hhere, h.stays call there hkind hthere⟩
    rw [h.reply_eq call there hkind hthere, h.reply_eq call here hkind hhere]
  have hplain : ∀ entry ∈ (dialogue.run host world).trace,
      ∀ made ∈ entry.call?, made.kind ∈ kinds :=
    fun entry hentry made hmade => hkinds made (List.mem_filterMap.mpr ⟨entry, hentry, hmade⟩)
  obtain ⟨hvalue, htrace, hleft, -⟩ :=
    run_agree hstep dialogue world again ⟨hworld, hagain⟩ hplain
  exact ⟨hvalue, htrace, hleft⟩

/-- A proxy that takes what is not found for nothing still follows a script. -/
theorem lenient (h : host.Follows script kinds among) :
    host.lenient.Follows (fun call => lenient.soften call (script call)) kinds among where
  reply_eq call world hkind hworld :=
    congrArg (lenient.soften call) (h.reply_eq call world hkind hworld)
  stays := h.stays

end Host.Follows

namespace Behavior

variable {id : UInt32} {counters : Counters} {behavior : Behavior} {trace : List TraceEntry}
  {reaction : Reaction} {call : Call}

/-- What is called on request headers changes nothing that a scripted proxy holds. -/
theorem host_of_permitted (hcall : call.kind ∈ behavior.permitted (.phase .requestHeaders))
    (world other : World) (hproxy : other.proxy = world.proxy) :
    (Proxy.host call other).1 = (Proxy.host call world).1 ∧
      (Proxy.host call other).2.proxy = world.proxy := by
  obtain ⟨proxy, token⟩ := world
  obtain ⟨_, left⟩ := other
  cases hproxy
  unfold Proxy.host
  dsimp only
  split
  · exact ⟨rfl, rfl⟩
  · cases call with
    | dispatch | replaceResponseBody | foreignFunction =>
      cases behavior <;> simp [Call.kind, permitted] at hcall
    | _ => exact ⟨rfl, rfl⟩

/-- However it stands with tokens, a scripted proxy follows its script on request headers. -/
theorem follows_of_isScripted {host : Host World} (h : host.IsScripted) (behavior : Behavior)
    (world : World) :
    host.Follows (fun call => (host call world).1) (behavior.permitted (.phase .requestHeaders))
      fun other => other.proxy = world.proxy := by
  have hplain : Proxy.host.Follows (fun call => (Proxy.host call world).1)
      (behavior.permitted (.phase .requestHeaders)) fun other => other.proxy = world.proxy :=
    { reply_eq := fun _ other hcall hother => (host_of_permitted hcall world other hother).1
      stays := fun _ other hcall hother => (host_of_permitted hcall world other hother).2 }
  rcases h with rfl | rfl
  · exact hplain
  · exact hplain.lenient

/-- Behind request headers a behavior meets them as it did before: the number that the first
delivery takes is there for the second one. -/
theorem onPhase_again (h : Reacts id counters behavior .requestHeaders trace reaction) :
    reaction.behavior.onPhase id reaction.counters .requestHeaders =
      behavior.onPhase id counters .requestHeaders := by
  cases h with
  | stampedRequest self =>
    obtain ⟨_ | number⟩ := self <;> rfl
  | _ => rfl

/-- Request headers that nothing tries to answer go on. -/
theorem outcome_of_unanswered (h : Reacts id counters behavior .requestHeaders trace reaction)
    (hnone : ∀ call ∈ calls trace, call.kind ≠ .respond) : reaction.outcome = .proceed := by
  cases h with
  | reported _ _ _ _ _ _ hsend | switched _ _ _ _ _ _ _ _ _ _ _ _ hsend =>
    have hmade := hsend.calls_eq
    grind [Call.kind]
  | _ => grind [headed, buffered?, BodyTransform.applies?]

end Behavior

/-- An attempt to answer leaves nothing more to do. -/
theorem TraceEntry.ends_of_respond {trace : List TraceEntry} {call : Call}
    (hcall : call ∈ calls trace) (hkind : call.kind = .respond) : ends trace = true := by
  obtain ⟨entry, hentry, hmade⟩ := List.mem_filterMap.mp hcall
  refine List.any_eq_true.mpr ⟨entry, hentry, ?_⟩
  cases entry with
  | asked made reply =>
    cases Option.some.inj hmade
    cases call with
    | respond => rfl
    | _ => cases hkind
  | noted record => cases hmade

namespace Stream

variable {stream : Stream} {counters : Counters} {host : Host σ}

/-- Behind request headers that something tries to answer, a stream is finished, whether the
answer is sent or not. -/
theorem state_of_answering {world : σ} {call : Call}
    (hcall : call ∈ ((stream.onPhase counters .requestHeaders).run host world).calls)
    (hkind : call.kind = .respond) :
    ((stream.onPhase counters .requestHeaders).run host world).value.2.1.state = .completed :=
  (arises_meet stream ⟨.phase .requestHeaders, counters, host, world⟩).completed_of_ends
    (ends_of_respond hcall hkind)

variable {script : (call : Call) → call.Reply} {among : σ → Prop}

/-- While a proxy follows a script, request headers are met the same way in all of its states. -/
theorem run_eq_of_follows
    (hfollows : host.Follows script (stream.behavior.permitted (.phase .requestHeaders)) among)
    {world again : σ} (hworld : among world) (hagain : among again) (counters : Counters) :
    let run := (stream.onPhase counters .requestHeaders).run host
    (run again).value = (run world).value ∧ (run again).trace = (run world).trace ∧
      among (run world).world :=
  hfollows.run_eq _ hworld hagain
    (permitted_meet stream ⟨.phase .requestHeaders, counters, host, world⟩)

/-- Behind request headers that nothing tries to answer, a stream meets them as it did before. -/
theorem onPhase_again {world : σ}
    (hnone : ∀ call ∈ ((stream.onPhase counters .requestHeaders).run host world).calls,
      call.kind ≠ .respond) :
    let value := ((stream.onPhase counters .requestHeaders).run host world).value
    value.2.1.onPhase value.2.2 .requestHeaders = stream.onPhase counters .requestHeaders := by
  intro value
  cases hgate : stream.state.gate? with
  | some action =>
    have hvalue : value = (action, stream, counters) := by
      simp only [value, run_onPhase_of_closed hgate]
    rw [hvalue]
  | none =>
    let run := (stream.behavior.onPhase stream.id counters .requestHeaders).run host world
    have hrun : (stream.onPhase counters .requestHeaders).run host world =
        ⟨(run.value.outcome.action, { stream with
            behavior := run.value.behavior, state := run.value.outcome.state },
          run.value.counters), run.world, run.trace⟩ :=
      run_onPhase_of_open hgate counters .requestHeaders host world
    have hreacts : Behavior.Reacts stream.id counters stream.behavior .requestHeaders run.trace
        run.value :=
      Behavior.reacts_of_course (course_run host _ world)
    rw [hrun] at hnone
    have houtcome : run.value.outcome = .proceed := Behavior.outcome_of_unanswered hreacts hnone
    have hopen : run.value.outcome.state.gate? = none := by
      rw [houtcome]
      rfl
    rw [show value = _ from congrArg Run.value hrun]
    simp only [onPhase, hopen, hgate]
    rw [Behavior.onPhase_again hreacts]

/-- Behind request headers that something tries to answer, they go on without any call. -/
theorem run_again_of_answering {world : σ}
    (hanswers : ∃ call ∈ ((stream.onPhase counters .requestHeaders).run host world).calls,
      call.kind = .respond) (again : σ) :
    let value := ((stream.onPhase counters .requestHeaders).run host world).value
    (value.2.1.onPhase value.2.2 .requestHeaders).run host again =
      ⟨(.proceed, value.2), again, []⟩ := by
  intro value
  obtain ⟨call, hcall, hkind⟩ := hanswers
  have hclosed : value.2.1.state.gate? = some .proceed := by
    rw [show value.2.1.state = .completed from state_of_answering hcall hkind]
    rfl
  exact run_onPhase_of_closed hclosed _ _ host again

/-- Behind request headers that nothing tries to answer, all that has happened happens again. -/
theorem run_again_of_unanswered
    (hfollows : host.Follows script (stream.behavior.permitted (.phase .requestHeaders)) among)
    {world again : σ} (hworld : among world) (hagain : among again)
    (hunanswered : ¬∃ call ∈ ((stream.onPhase counters .requestHeaders).run host world).calls,
      call.kind = .respond) :
    let once := (stream.onPhase counters .requestHeaders).run host world
    let twice := (once.value.2.1.onPhase once.value.2.2 .requestHeaders).run host again
    twice.value = once.value ∧ twice.trace = once.trace := by
  intro once twice
  have hsame : twice = (stream.onPhase counters .requestHeaders).run host again :=
    congrArg (fun dialogue => dialogue.run host again)
      (onPhase_again fun call hcall hkind => hunanswered ⟨call, hcall, hkind⟩)
  obtain ⟨hvalue, htrace, -⟩ := run_eq_of_follows hfollows hworld hagain counters
  rw [hsame]
  exact ⟨hvalue, htrace⟩

/-- Request headers that are delivered again change neither the stream nor the counters. -/
theorem value_again
    (hfollows : host.Follows script (stream.behavior.permitted (.phase .requestHeaders)) among)
    {world again : σ} (hworld : among world) (hagain : among again) (counters : Counters) :
    let once := (stream.onPhase counters .requestHeaders).run host world
    ((once.value.2.1.onPhase once.value.2.2 .requestHeaders).run host again).value.2 =
      once.value.2 := by
  intro once
  by_cases hanswers : ∃ call ∈ once.calls, call.kind = .respond
  · rw [run_again_of_answering hanswers again]
  · exact congrArg Prod.snd (run_again_of_unanswered hfollows hworld hagain hanswers).1

/-- Request headers may be delivered again. Let any stream, in any state, meet them under any
counters, and let the proxy reply as a script says, failures included, in all that it may go through
by then. Where they are delivered once more, the stream, with its state and what its behavior has
taken, and the counters are the same as behind the first delivery. The proxy is told the same, and
all that happens happens again, unless the first delivery has tried to answer the request; then the
second one goes on without any call. -/
theorem request_headers_are_idempotent
    (hfollows : host.Follows script (stream.behavior.permitted (.phase .requestHeaders)) among)
    {world : σ} (hworld : among world) (counters : Counters) :
    let once := (stream.onPhase counters .requestHeaders).run host world
    let answers : Prop := ∃ call ∈ once.calls, call.kind = .respond
    among once.world ∧ ∀ again, among again →
      let twice := (once.value.2.1.onPhase once.value.2.2 .requestHeaders).run host again
      twice.value.2 = once.value.2 ∧
        (¬answers → twice.value.1 = once.value.1 ∧ twice.trace = once.trace) ∧
        (answers → twice.value.1 = .proceed ∧ twice.calls = []) := by
  intro once answers
  obtain ⟨-, -, hleft⟩ := run_eq_of_follows hfollows hworld hworld counters
  refine ⟨hleft, fun again hagain => ⟨value_again hfollows hworld hagain counters,
    fun hunanswered => ?_, fun hanswers => ?_⟩⟩
  · obtain ⟨hvalue, htrace⟩ := run_again_of_unanswered hfollows hworld hagain hunanswered
    exact ⟨congrArg Prod.fst hvalue, htrace⟩
  · rw [run_again_of_answering hanswers again]
    exact ⟨rfl, rfl⟩

/-- A proxy that is asked to start the timer, and refuses all calls of a kind. -/
def sampleDenying (kind : CallKind) : World :=
  ⟨{ (sampleRouted (Text.Utf8.encode TimerAction.enable.path.toList)).proxy with
    failures := [⟨kind, none, .badArgument⟩] }, 1⟩

/-- In the sample a request to start the timer is delivered twice. Where the period is refused, it
is asked for again; where the answer is refused, nothing is called any more. -/
theorem sample_request_headers_are_idempotent :
    let stream : Stream := ⟨1, .timerControl, .awaitingBody⟩
    let refused :=
      (stream.onPhase .zero .requestHeaders).run Proxy.host (sampleDenying .setTickPeriod)
    let again := (refused.value.2.1.onPhase refused.value.2.2 .requestHeaders).run Proxy.host
      (sampleDenying .setTickPeriod)
    let unsent := (stream.onPhase .zero .requestHeaders).run Proxy.host (sampleDenying .respond)
    let later := (unsent.value.2.1.onPhase unsent.value.2.2 .requestHeaders).run Proxy.host
      (sampleDenying .respond)
    refused.calls = [.property ["request", "path"], .setTickPeriod 100] ∧
      again.trace = refused.trace ∧ again.value.2 = refused.value.2 ∧
      unsent.calls = [.property ["request", "path"], .setTickPeriod 100,
        .respond 200 [] [0x6F, 0x6B]] ∧
      later.calls = [] ∧ later.value.1 = .proceed ∧ later.value.2 = unsent.value.2 := by
  intro stream refused again unsent later
  have hscript : Proxy.host.IsScripted := .inl rfl
  have hfollows (kind : CallKind) :=
    Behavior.follows_of_isScripted hscript stream.behavior (sampleDenying kind)
  have hset : refused.calls = [.property ["request", "path"], .setTickPeriod 100] := by decide
  have hsend : unsent.calls = [.property ["request", "path"], .setTickPeriod 100,
      .respond 200 [] [0x6F, 0x6B]] := by
    decide
  have hunanswered : ¬∃ call ∈ refused.calls, call.kind = .respond := by
    rw [hset]
    simp [Call.kind]
  have hanswering : ∃ call ∈ unsent.calls, call.kind = .respond := by
    rw [hsend]
    exact ⟨_, List.mem_cons_of_mem _ (List.mem_cons_of_mem _ List.mem_cons_self), rfl⟩
  obtain ⟨-, hagain⟩ := request_headers_are_idempotent (hfollows .setTickPeriod) rfl .zero
  obtain ⟨hleft, hsame, -⟩ := hagain (sampleDenying .setTickPeriod) rfl
  obtain ⟨-, hlater⟩ := request_headers_are_idempotent (hfollows .respond) rfl .zero
  obtain ⟨hkept, -, hquiet⟩ := hlater (sampleDenying .respond) rfl
  obtain ⟨-, htrace⟩ := hsame hunanswered
  obtain ⟨hgoes, hnothing⟩ := hquiet hanswering
  exact ⟨hset, htrace, hleft, hsend, hnothing, hgoes, hkept⟩

end Stream

end ProxyFilter
