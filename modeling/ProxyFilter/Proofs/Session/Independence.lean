import ProxyFilter.Proofs.Session.Commutation

/-!
# Which steps are independent

A start, a tick and an event look at a few things in a session each. What one of them
looks at and another one changes is named as a clash; any two steps without a clash
commute. The scripted proxies take part, since they share the row of tokens.
-/

namespace ProxyFilter

open Dialogue TraceEntry

/-- A start does not look at the counters, and keeps them. -/
theorem Plugin.start_of_settings {plugin other : Plugin}
    (hsettings : other = { plugin with counters := other.counters })
    (configuration : Option Bytes) :
    let start := plugin.start configuration
    other.start configuration =
      { start with plugin := { start.plugin with counters := other.counters } } := by
  obtain ⟨config, factory, counters⟩ := plugin
  obtain ⟨_, _, otherCounters⟩ := other
  cases hsettings
  unfold Plugin.start
  cases Config.parse configuration with
  | error refusal => rfl
  | ok found => cases found <;> rfl

/-- Two events of which one at most takes a number leave the same in either order. -/
theorem Counters.withRequests_comm (counters left rivalLeft : Counters) {taken rivalTaken : Bool}
    (hone : taken = true → rivalTaken = true → False) :
    (counters.withRequests left taken).withRequests rivalLeft rivalTaken =
      (counters.withRequests rivalLeft rivalTaken).withRequests left taken := by
  cases taken with
  | false => cases rivalTaken <;> rfl
  | true =>
    cases rivalTaken with
    | false => rfl
    | true => exact (hone rfl rfl).elim

/-- An entry that starts a cluster call is one. -/
theorem TraceEntry.call_of_dispatched? {entry : TraceEntry} {token : UInt32}
    (h : dispatched? entry = some token) :
    ∃ call, call? entry = some call ∧ call.kind = .dispatch := by
  cases entry with
  | noted record => cases h
  | asked call reply =>
    cases call with
    | dispatch cluster headers body trailers timeout => exact ⟨_, rfl, rfl⟩
    | _ => cases h

/-- The step of an input shows its number and the input. -/
theorem Input.step_inj {input next : Input} {id other : UInt32}
    (h : input.step id = next.step other) : id = other ∧ input = next := by
  cases input <;> cases next <;> cases h <;> exact ⟨rfl, rfl⟩

/-- Only request headers arrive as request headers. -/
theorem Input.eq_requestHeaders {input : Input} {proxy : Proxy}
    (h : (input.arrive proxy).2 = .phase .requestHeaders) : input = .arrival .requestHeaders := by
  cases input with
  | response answer => cases h
  | arrival part =>
    cases part with
    | requestHeaders => rfl
    | _ => cases h

namespace Actor

variable {σ : Type}

/-- An event that takes a number delivers request headers that are numbered. -/
theorem of_takesNumber {actor : Actor} {event : Event} (h : actor.takesNumber event = true) :
    actor.behavior.kind = .requestNumbering ∧ event = .phase .requestHeaders := by
  cases event with
  | completion completion => cases h
  | phase phase =>
    obtain ⟨hkind, hphase⟩ := Bool.and_eq_true_iff.mp h
    exact ⟨eq_of_beq hkind, congrArg Event.phase (eq_of_beq hphase)⟩

/-- An event that looks at the firings delivers request headers to timer control. -/
theorem of_readsTicks {actor : Actor} {event : Event} (h : actor.readsTicks event = true) :
    actor.behavior.kind = .timerControl ∧ event = .phase .requestHeaders := by
  cases event with
  | completion completion => cases h
  | phase phase =>
    obtain ⟨hkind, hphase⟩ := Bool.and_eq_true_iff.mp h
    exact ⟨eq_of_beq hkind, congrArg Event.phase (eq_of_beq hphase)⟩

/-- An event leaves the firings alone, and the requests unless it takes a number. -/
theorem counters_meet (actor : Actor) (counters : Counters) (event : Event) (host : Host σ)
    (world : σ) :
    let left := ((actor.meet counters event).run host world).value.counters
    left = counters.withRequests left (actor.takesNumber event) := by
  intro left
  have hself : (actor.meet counters event).run host world = _ :=
    run_meet_counters (fun _ => rfl) (fun _ => rfl) host world
  exact congrArg (fun run : Run σ Reception => run.value.counters) hself

/-- The answer to an event shows its calls. -/
theorem calls_answer_meet (actor : Actor) (counters : Counters) (event : Event) (host : Host σ)
    (world : σ) (calls : List Call) :
    (((actor.meet counters event).run host world).value.answer calls).calls = calls := by
  cases actor with
  | stream | bare =>
    cases event with
    | phase | completion =>
      simp only [meet, run_bind_pure]
      rfl

end Actor

namespace Session

/-- The cluster calls that an input starts. -/
def calling (session : Session) (live : Live) (input : Input) : List UInt32 :=
  dispatched (session.meeting live input).trace

variable {session : Session} {id other : UInt32} {live : Live} {input : Input}

/-- Another session with the same number of requests, firings and tokens, as far as an
input looks at them, lets it be met the same way. -/
theorem meeting_frame (session other : Session)
    (hrequests : live.actor.takesNumber (input.arrive live.proxy).2 = true →
      (other.counters live.owner).requests = (session.counters live.owner).requests)
    (hticks : live.actor.readsTicks (input.arrive live.proxy).2 = true →
      (other.counters live.owner).ticks = (session.counters live.owner).ticks)
    (htoken : other.nextToken = session.nextToken ∨ session.calling live input = []) :
    let run := session.meeting live input
    let left := (other.counters live.owner).withRequests run.value.counters
      (live.actor.takesNumber (input.arrive live.proxy).2)
    other.meeting live input =
      { value := { run.value with counters := left }
        world := ⟨run.world.proxy,
          other.nextToken + .ofNat (session.calling live input).length⟩
        trace := run.trace } := by
  intro run left
  have hcounters := Actor.run_meet_counters hrequests hticks Proxy.host
    (other.world (input.arrive live.proxy).1)
  have htaken := Proxy.nextToken_run
    (live.actor.meet (session.counters live.owner) (input.arrive live.proxy).2)
    (session.world (input.arrive live.proxy).1)
  have hworld : (live.actor.meet (session.counters live.owner) (input.arrive live.proxy).2).run
      Proxy.host (other.world (input.arrive live.proxy).1) =
        { run with world := ⟨run.world.proxy,
          other.nextToken + .ofNat (session.calling live input).length⟩ } := by
    rcases htoken with hsame | hnone
    · have hstart : other.world (input.arrive live.proxy).1 =
          session.world (input.arrive live.proxy).1 :=
        congrArg (World.mk _) hsame
      have hnext : run.world.nextToken =
          other.nextToken + .ofNat (session.calling live input).length :=
        htaken.trans (congrArg (· + _) hsame.symm)
      rw [hstart, ← hnext]
      rfl
    · have hkept : other.nextToken + .ofNat (session.calling live input).length =
          other.nextToken := by
        rw [hnone]
        exact UInt32.add_zero _
      rw [hkept]
      exact (Proxy.run_of_dispatched hnone other.nextToken).1
  rw [meeting]
  refine hcounters.trans ?_
  rw [hworld]

/-- What a meeting leaves as counters, in terms of those before. -/
theorem counters_meeting (session : Session) (live : Live) (input : Input) :
    let left := (session.meeting live input).value.counters
    left = (session.counters live.owner).withRequests left
      (live.actor.takesNumber (input.arrive live.proxy).2) :=
  live.actor.counters_meet _ _ _ _

/-- An event leaves every number of firings alone. -/
theorem ticks_met (session : Session) (id : UInt32) (live : Live) (input : Input)
    (owner : Owner) :
    ((session.met id live input).counters owner).ticks = (session.counters owner).ticks := by
  rw [met, counters_keep]
  split
  · next howner =>
    rw [counters_meeting, howner]
    rfl
  · rfl

/-- An event leaves every number of requests alone, unless it takes the next one. -/
theorem requests_met (session : Session) (id : UInt32) (live : Live) (input : Input)
    {owner : Owner}
    (hkept : owner = live.owner → live.actor.takesNumber (input.arrive live.proxy).2 = false) :
    ((session.met id live input).counters owner).requests =
      (session.counters owner).requests := by
  rw [met, counters_keep]
  split
  · next howner =>
    rw [counters_meeting, hkept howner, howner]
    rfl
  · rfl

/-- An event takes as many tokens as it starts cluster calls. -/
theorem nextToken_met (session : Session) (id : UInt32) (live : Live) (input : Input) :
    (session.met id live input).nextToken =
      session.nextToken + .ofNat (session.calling live input).length :=
  Proxy.nextToken_run _ _

/-- After an event the other numbers find what they found. -/
theorem streams_met (session : Session) (live : Live) (input : Input) {id other : UInt32}
    (hid : id ≠ other) :
    (session.met id live input).streams.get? other = session.streams.get? other := by
  rw [met, get?_streams_keep, if_neg (Ne.symm hid)]

/-- An event is met after another one as it would have been before it, unless both take a
number from the same counters or both start a cluster call. -/
theorem meeting_met {rival : Live} {rivalInput : Input}
    (hnumber : live.owner = rival.owner →
      live.actor.takesNumber (input.arrive live.proxy).2 = true →
      rival.actor.takesNumber (rivalInput.arrive rival.proxy).2 = true → False)
    (htoken : session.calling live input = [] ∨ session.calling rival rivalInput = []) :
    let run := session.meeting rival rivalInput
    let after := session.met id live input
    let left := (after.counters rival.owner).withRequests run.value.counters
      (rival.actor.takesNumber (rivalInput.arrive rival.proxy).2)
    after.meeting rival rivalInput =
      { value := { run.value with counters := left }
        world := ⟨run.world.proxy,
          after.nextToken + .ofNat (session.calling rival rivalInput).length⟩
        trace := run.trace } := by
  intro run after left
  refine session.meeting_frame _ (fun htakes => requests_met session id live input fun howner => ?_)
    (fun _ => ticks_met session id live input rival.owner) ?_
  · exact Bool.eq_false_iff.mpr fun hfirst => hnumber howner.symm hfirst htakes
  · rcases htoken with hnone | hnone
    · have htaken := nextToken_met session id live input
      rw [hnone] at htaken
      exact .inl (htaken.trans (UInt32.add_zero _))
    · exact .inr hnone

/-- Two events of different numbers commute, unless both take a number from the same
counters or both start a cluster call. -/
theorem events_commute {rival : Live} {rivalInput : Input} (hid : id ≠ other)
    (hlive : session.streams.get? id = some live) (hrival : session.streams.get? other = some rival)
    (hnumber : live.owner = rival.owner →
      live.actor.takesNumber (input.arrive live.proxy).2 = true →
      rival.actor.takesNumber (rivalInput.arrive rival.proxy).2 = true → False)
    (htoken : session.calling live input = [] ∨ session.calling rival rivalInput = []) :
    session.Commute Proxy.host (input.step id) (rivalInput.step other) := by
  let first := session.met id live input
  let second := session.met other rival rivalInput
  have hsecondStep : first.commonStep Proxy.host (rivalInput.step other) = _ :=
    commonStep_of_live ((streams_met session live input hid).trans hrival) rivalInput
  have hfirstStep : second.commonStep Proxy.host (input.step id) = _ :=
    commonStep_of_live ((streams_met session rival rivalInput hid.symm).trans hlive) input
  have hrivalAgain : first.meeting rival rivalInput = _ := meeting_met hnumber htoken
  have hagain : second.meeting live input = _ :=
    meeting_met (fun howner hfirst hsecond => hnumber howner.symm hsecond hfirst) htoken.symm
  simp only [Commute, commonStep_of_live hlive, commonStep_of_live hrival]
  rw [hsecondStep, hfirstStep]
  refine ⟨by rw [hrivalAgain]; rfl, by rw [hagain]; rfl, ?_⟩
  change first.met other rival rivalInput = second.met id live input
  rw [met, met, hrivalAgain, hagain]
  refine keep_keep hid rfl rfl ?_ ?_ ?_
  · have hfirst : first.nextToken = _ := nextToken_met session id live input
    have hsecond : second.nextToken = _ := nextToken_met session other rival rivalInput
    change first.nextToken + _ = second.nextToken + _
    rw [hfirst, hsecond]
    rw [UInt32.add_assoc, UInt32.add_assoc, UInt32.add_comm (.ofNat _)]
  · intro howner
    have hfirst : first.counters rival.owner = _ :=
      (counters_keep _ _ _ _ _ _ _).trans
        ((if_pos howner.symm).trans (counters_meeting session live input))
    have hsecond : second.counters live.owner = _ :=
      (counters_keep _ _ _ _ _ _ _).trans
        ((if_pos howner).trans (counters_meeting session rival rivalInput))
    rw [hfirst, hsecond, howner]
    exact Counters.withRequests_comm _ _ _ (hnumber howner)
  · intro howner
    have hfirst : first.counters rival.owner = session.counters rival.owner :=
      (counters_keep _ _ _ _ _ _ _).trans (if_neg (Ne.symm howner))
    have hsecond : second.counters live.owner = session.counters live.owner :=
      (counters_keep _ _ _ _ _ _ _).trans (if_neg howner)
    rw [hfirst, hsecond]
    exact ⟨(counters_meeting session rival rivalInput).symm,
      (counters_meeting session live input).symm⟩

/-- After a plugin is put under a number its streams have its counters, and all others
those they had. -/
theorem counters_setPlugin (session : Session) (number : UInt32) (plugin : Plugin)
    (owner : Owner) :
    (session.setPlugin number plugin).counters owner =
      if owner = .plugin number then plugin.counters else session.counters owner := by
  cases owner with
  | shared => rfl
  | plugin found =>
    simp only [Session.counters, plugin_setPlugin, Owner.plugin.injEq]
    split <;> rfl

/-- A start leaves the counters of every owner as they are. -/
theorem counters_started (session : Session) (number : UInt32) (configuration : Option Bytes)
    (owner : Owner) :
    (session.commonStep Proxy.host (.start number configuration)).2.counters owner =
      session.counters owner := by
  rw [commonStep, counters_setPlugin]
  split
  · next howner =>
    rw [counters_start, howner]
    rfl
  · rfl

/-- A start reports the same wherever its plugin differs in its counters only. -/
theorem started_of_settings {number : UInt32} {other : Session}
    (hsettings : other.plugin number =
      { session.plugin number with counters := (other.plugin number).counters })
    (configuration : Option Bytes) :
    (other.commonStep Proxy.host (.start number configuration)).1 =
      (session.commonStep Proxy.host (.start number configuration)).1 := by
  simp only [commonStep, Plugin.start_of_settings hsettings]
  rfl

/-- A start and an event commute. -/
theorem start_commutes_event (hlive : session.streams.get? id = some live) (number : UInt32)
    (configuration : Option Bytes) (input : Input) :
    session.Commute Proxy.host (.start number configuration) (input.step id) := by
  let first := (session.commonStep Proxy.host (.start number configuration)).2
  have hmeeting : first.meeting live input = session.meeting live input := by
    rw [meeting, counters_started]
    rfl
  have hstill : first.streams.get? id = some live := hlive
  have hafter : first.commonStep Proxy.host (input.step id) = _ :=
    commonStep_of_live hstill input
  rw [hmeeting] at hafter
  simp only [Commute, commonStep_of_live hlive]
  rw [hafter]
  refine ⟨rfl, started_of_settings ?_ _, ?_⟩
  · rw [met, plugin_keep]
    split <;> rfl
  rw [met, hmeeting]
  refine setPlugin_keep (fun plugin => (plugin.start configuration).plugin) ?_ _ _
  split
  · exact congrArg Plugin.Start.plugin (Plugin.start_of_settings (by rfl) configuration)
  · rfl

/-- Firings of the timer and an event commute, unless the event looks at their number. -/
theorem tick_commutes_event (hlive : session.streams.get? id = some live) (number : UInt32)
    (times : Nat) (input : Input)
    (hunread : live.owner = .plugin number →
      live.actor.readsTicks (input.arrive live.proxy).2 = true → False) :
    session.Commute Proxy.host (.tick number times) (input.step id) := by
  let first := session.setPlugin number ((session.plugin number).tickTimes times)
  have hcounters : first.counters live.owner = if live.owner = .plugin number then
      (session.counters live.owner).tickTimes times else session.counters live.owner := by
    rw [counters_setPlugin]
    split
    · next howner =>
      rw [howner]
      rfl
    · rfl
  have hmeeting : first.meeting live input = _ := session.meeting_frame first
    (fun _ => by rw [hcounters]; split <;> rfl)
    (fun hreads => by rw [hcounters, if_neg fun howner => hunread howner hreads]) (.inl rfl)
  have hstill : first.streams.get? id = some live := hlive
  have hafter : first.commonStep Proxy.host (input.step id) = _ :=
    commonStep_of_live hstill input
  simp only [Commute, commonStep_of_live hlive]
  rw [hmeeting] at hafter
  have hthere : session.commonStep Proxy.host (.tick number times) = (⟨.ok, []⟩, first) :=
    commonStep_tick session Proxy.host number times
  rw [hthere]
  dsimp only
  rw [hafter]
  simp only [commonStep_tick]
  refine ⟨rfl, trivial, ?_⟩
  have hworld : (session.meeting live input).world = ⟨(session.meeting live input).world.proxy,
      first.nextToken + .ofNat (session.calling live input).length⟩ :=
    congrArg (World.mk _) (nextToken_met session id live input)
  rw [met, hmeeting, ← hworld, hcounters]
  refine setPlugin_keep (fun plugin => plugin.tickTimes times) ?_ _ _
  split
  · next howner =>
    have hleft := counters_meeting session live input
    rw [howner] at hleft ⊢
    exact congrArg (fun counters => Plugin.tickTimes { session.plugin number with counters } times)
      hleft
  · exact (counters_meeting session live input).symm

/-- A start and firings of a timer commute, of one plugin or of two. -/
theorem start_commutes_tick (session : Session) (number other : UInt32)
    (configuration : Option Bytes) (times : Nat) :
    session.Commute Proxy.host (.start number configuration) (.tick other times) := by
  simp only [Commute, commonStep_tick]
  refine ⟨trivial, started_of_settings ?_ _,
    setPlugin_comm (fun plugin => (plugin.start configuration).plugin)
      (fun plugin => plugin.tickTimes times) fun _ => ?_⟩
  · rw [plugin_setPlugin]
    split
    · next hsame =>
      rw [hsame]
      rfl
    · rfl
  · let started := ((session.plugin number).start configuration).plugin
    have hcounters : started.counters = (session.plugin number).counters :=
      counters_start _ configuration
    have hsettings : (session.plugin number).tickTimes times =
        { session.plugin number with
          counters := ((session.plugin number).tickTimes times).counters } := rfl
    rw [Plugin.start_of_settings hsettings]
    exact congrArg (fun counters => Plugin.tickTimes { started with counters } times)
      hcounters.symm

/-- Starts of two plugins commute. -/
theorem start_commutes_start (session : Session) {number other : UInt32} (hne : number ≠ other)
    (configuration next : Option Bytes) :
    session.Commute Proxy.host (.start number configuration) (.start other next) := by
  refine ⟨?_, ?_, setPlugin_comm (fun plugin => (plugin.start configuration).plugin)
    (fun plugin => (plugin.start next).plugin) fun hsame => (hne hsame).elim⟩
  · simp only [commonStep, plugin_setPlugin, if_neg hne.symm]
  · simp only [commonStep, plugin_setPlugin, if_neg hne]

/-- Firings of timers commute, of one plugin or of two. -/
theorem tick_commutes_tick (session : Session) (number other : UInt32) (times more : Nat) :
    session.Commute Proxy.host (.tick number times) (.tick other more) := by
  simp only [Commute, commonStep_tick]
  refine ⟨trivial, trivial, setPlugin_comm (fun plugin => plugin.tickTimes times)
    (fun plugin => plugin.tickTimes more) fun _ => ?_⟩
  simp only [Plugin.tickTimes, Counters.tickTimes, Nat.add_right_comm]

/-- A step that one owner takes: a plugin that starts or whose timer fires, or something
live of its that an input arrives for. -/
inductive Acts (session : Session) : Owner → Step → Prop
  /-- A plugin starts. -/
  | start (number : UInt32) (configuration : Option Bytes) :
    session.Acts (.plugin number) (.start number configuration)
  /-- The timer of a plugin fires. -/
  | tick (number : UInt32) (times : Nat) : session.Acts (.plugin number) (.tick number times)
  /-- Something arrives for what is live. -/
  | event {id : UInt32} {live : Live} (hlive : session.streams.get? id = some live)
    (input : Input) : session.Acts live.owner (input.step id)

/-- A step starts a cluster call: the call is made, and a token is taken for it. -/
def Starts (session : Session) (step : Step) : Prop :=
  let (report, after) := session.commonStep Proxy.host step
  (∃ call ∈ report.answer.calls, call.kind = .dispatch) ∧ after.nextToken ≠ session.nextToken

/-- How the second of two steps can get in the way of the first. -/
inductive Clashes (session : Session) (a b : Step) : Prop
  /-- Both are events of one number. -/
  | sameStream (id : UInt32) (input next : Input) (ha : a = input.step id)
    (hb : b = next.step id)
  /-- Both start one plugin. -/
  | samePlugin (number : UInt32) (configuration next : Option Bytes)
    (ha : a = .start number configuration) (hb : b = .start number next)
  /-- Both deliver request headers that are numbered, under the same counters. -/
  | numbering {id other : UInt32} {live rival : Live}
    (hlive : session.streams.get? id = some live)
    (hrival : session.streams.get? other = some rival)
    (hkind : live.actor.behavior.kind = .requestNumbering)
    (hrivalKind : rival.actor.behavior.kind = .requestNumbering)
    (howner : live.owner = rival.owner) (ha : a = .arrival id .requestHeaders)
    (hb : b = .arrival other .requestHeaders)
  /-- Both start a cluster call. -/
  | dispatching (ha : session.Starts a) (hb : session.Starts b)
  /-- One is the timer of a plugin, and the other delivers request headers that may ask for
  the number of its firings. -/
  | reporting {number id : UInt32} {times : Nat} {live : Live}
    (hlive : session.streams.get? id = some live)
    (hkind : live.actor.behavior.kind = .timerControl)
    (howner : live.owner = .plugin number) (ha : a = .tick number times)
    (hb : b = .arrival id .requestHeaders)

/-- An event that starts a cluster call for what is live is a step that starts one. -/
theorem starts_of_calling (hlive : session.streams.get? id = some live)
    (h : session.calling live input ≠ []) : session.Starts (input.step id) := by
  rw [Starts, commonStep_of_live hlive]
  constructor
  · obtain ⟨token, htoken⟩ := List.exists_mem_of_ne_nil _ h
    obtain ⟨entry, hentry, hstarts⟩ := List.mem_filterMap.mp htoken
    obtain ⟨call, hcall, hkind⟩ := call_of_dispatched? hstarts
    have hmem : call ∈ (session.meeting live input).calls :=
      List.mem_filterMap.mpr ⟨entry, hentry, hcall⟩
    have hshown := live.actor.calls_answer_meet (session.counters live.owner)
      (input.arrive live.proxy).2 Proxy.host (session.world (input.arrive live.proxy).1)
      (session.meeting live input).calls
    exact ⟨call, hshown.symm ▸ hmem, hkind⟩
  · have hmost : (session.calling live input).length ≤ 1 := Actor.length_dispatched _ _ _ _ _
    have hleast : 0 < (session.calling live input).length := List.length_pos_iff.mpr h
    have hone : (session.calling live input).length = 1 := by omega
    have htaken := nextToken_met session id live input
    rw [hone] at htaken
    intro hsame
    have hnone : session.nextToken + 1 = session.nextToken := htaken.symm.trans hsame
    exact absurd (UInt32.add_eq_left.mp hnone) (by decide)

/-- A session after a step of one owner, in which all other owners have what they had. -/
structure Spares (session : Session) (owner : Owner) (after : Session) : Prop where
  /-- The other plugins are as they were. -/
  plugins : ∀ number, owner ≠ .plugin number →
    after.plugins.get? number = session.plugins.get? number
  /-- The other counters are as they were. -/
  counters : ∀ other, other ≠ owner → after.counters other = session.counters other
  /-- What is live of other owners is as it was. -/
  streams : ∀ id live, session.streams.get? id = some live → live.owner ≠ owner →
    after.streams.get? id = some live

/-- A change of one plugin spares all others. -/
theorem spares_setPlugin (session : Session) (number : UInt32) (plugin : Plugin) :
    session.Spares (.plugin number) (session.setPlugin number plugin) where
  plugins other hother := by
    rw [setPlugin, Table.get?_insert, if_neg fun hsame => hother (congrArg _ hsame.symm)]
  counters other hother := by rw [counters_setPlugin, if_neg hother]
  streams _ _ hlive _ := hlive

/-- A step of one owner spares all others. -/
theorem spares_of_acts {owner : Owner} {step : Step} (h : session.Acts owner step) :
    session.Spares owner (session.commonStep Proxy.host step).2 := by
  cases h with
  | start number configuration => exact spares_setPlugin session number _
  | tick number times => exact spares_setPlugin session number _
  | @event id live hlive input =>
    rw [commonStep_of_live hlive]
    constructor
    · intro number hnumber
      exact (get?_plugins_keep _ _ _ _ _ _ _).trans (if_neg hnumber)
    · intro other hother
      exact (counters_keep _ _ _ _ _ _ _).trans (if_neg hother)
    · intro other rival hrival hother
      have hid : id ≠ other := by
        rintro rfl
        exact hother (congrArg Live.owner (Option.some.inj (hrival.symm.trans hlive)))
      exact (streams_met session live input hid).trans hrival

/-- Events that do not clash commute. -/
theorem events_commute_of_clashes {rival : Live} {rivalInput : Input}
    (hlive : session.streams.get? id = some live) (hrival : session.streams.get? other = some rival)
    (h : ¬ session.Clashes (input.step id) (rivalInput.step other)) :
    session.Commute Proxy.host (input.step id) (rivalInput.step other) := by
  refine events_commute ?_ hlive hrival ?_ ?_
  · rintro rfl
    exact h (.sameStream id input rivalInput rfl rfl)
  · intro howner hfirst hsecond
    obtain ⟨hkind, hevent⟩ := Actor.of_takesNumber hfirst
    obtain ⟨hrivalKind, hrivalEvent⟩ := Actor.of_takesNumber hsecond
    cases Input.eq_requestHeaders hevent
    cases Input.eq_requestHeaders hrivalEvent
    exact h (.numbering hlive hrival hkind hrivalKind howner rfl rfl)
  · rcases Decidable.em (session.calling live input = []) with hnone | hsome
    · exact .inl hnone
    · refine .inr (Decidable.byContradiction fun hrivalSome => h ?_)
      exact .dispatching (starts_of_calling hlive hsome) (starts_of_calling hrival hrivalSome)

/-- Firings of the timer and an event that do not clash commute. -/
theorem tick_commutes_of_clashes {number : UInt32} {times : Nat}
    (hlive : session.streams.get? id = some live)
    (h : ¬ session.Clashes (.tick number times) (input.step id)) :
    session.Commute Proxy.host (.tick number times) (input.step id) := by
  refine tick_commutes_event hlive number times input fun howner hreads => ?_
  obtain ⟨hkind, hevent⟩ := Actor.of_readsTicks hreads
  cases Input.eq_requestHeaders hevent
  exact h (.reporting hlive hkind howner rfl rfl)

/-- Any two steps that do not clash may be taken in either order: each gives the same report,
and the session is the same in the end. A step of one plugin spares all others, and a start
leaves all that is live and all that events look at as it is. -/
theorem independent_steps_commute {owner rival : Owner} {a b : Step} (ha : session.Acts owner a)
    (hb : session.Acts rival b) (hfirst : ¬ session.Clashes a b)
    (hsecond : ¬ session.Clashes b a) :
    session.Commute Proxy.host a b ∧
      session.Spares owner (session.commonStep Proxy.host a).2 ∧
      ∀ number configuration, a = .start number configuration →
        let after := (session.commonStep Proxy.host a).2
        after.streams = session.streams ∧ after.nextToken = session.nextToken ∧
          ∀ held, after.counters held = session.counters held := by
  refine ⟨?_, spares_of_acts ha, ?_⟩
  · cases ha with
    | start number configuration =>
      cases hb with
      | start other next =>
        refine start_commutes_start session (fun hsame => hfirst ?_) configuration next
        exact .samePlugin number configuration next rfl (congrArg (Step.start · next) hsame.symm)
      | tick other times => exact start_commutes_tick session number other configuration times
      | event hlive input => exact start_commutes_event hlive number configuration input
    | tick number times =>
      cases hb with
      | start other next => exact (start_commutes_tick session other number next times).symm
      | tick other more => exact tick_commutes_tick session number other times more
      | event hlive input => exact tick_commutes_of_clashes hlive hfirst
    | event hlive input =>
      cases hb with
      | start other next => exact (start_commutes_event hlive other next input).symm
      | tick other times => exact (tick_commutes_of_clashes hlive hsecond).symm
      | event hrival next => exact events_commute_of_clashes hlive hrival hfirst
  · rintro number configuration rfl
    exact ⟨rfl, rfl, counters_started session number configuration⟩

/-- Events of two numbers do not clash, if not both deliver request headers and not both
start a cluster call. -/
theorem not_clashes_of_ne {next : Input} (hid : id ≠ other)
    (hheaders : input ≠ .arrival .requestHeaders ∨ next ≠ .arrival .requestHeaders)
    (hquiet : ¬ (session.Starts (input.step id) ∧ session.Starts (next.step other))) :
    ¬ session.Clashes (input.step id) (next.step other) := by
  intro h
  cases h with
  | sameStream found first second ha hb =>
    exact hid ((Input.step_inj ha).1.trans (Input.step_inj hb).1.symm)
  | samePlugin number configuration later ha hb => cases input <;> cases ha
  | @numbering found rival _ _ _ _ _ _ _ ha hb =>
    rcases hheaders with hfirst | hsecond
    · cases input <;> cases ha
      exact hfirst rfl
    · cases next <;> cases hb
      exact hsecond rfl
  | dispatching ha hb => exact hquiet ⟨ha, hb⟩
  | reporting hlive hkind howner ha hb => cases input <;> cases ha

/-- A session with one stream that is sent to a cluster and one that is numbered. -/
def sample : Session :=
  (Session.new.run Proxy.host
    [.behavior 1 ⟨.callRelay, "", "/", "cluster"⟩ true .blank,
      .behavior 2 ⟨.requestNumbering, "", "", "cluster"⟩ true .blank]).2

/-- In the sample the end of the first request body starts a cluster call, and the second
request headers take a number; they do not clash. -/
theorem sample_steps_commute :
    sample.Starts (.arrival 1 (.requestBody [] true none)) ∧
      sample.Commute Proxy.host (.arrival 1 (.requestBody [] true none))
        (.arrival 2 .requestHeaders) := by
  let last : Input := .arrival (.requestBody [] true none)
  let first : Input := .arrival .requestHeaders
  have hstarts : sample.Starts (last.step 1) := ⟨⟨_, List.mem_cons_self, rfl⟩, by decide⟩
  have hquiet : ¬ sample.Starts (first.step 2) := fun h => h.2 rfl
  obtain ⟨live, hlive⟩ := Option.isSome_iff_exists.mp (Eq.refl (sample.streams.get? 1).isSome)
  obtain ⟨rival, hrival⟩ := Option.isSome_iff_exists.mp (Eq.refl (sample.streams.get? 2).isSome)
  refine ⟨hstarts, (independent_steps_commute (.event hlive last) (.event hrival first) ?_ ?_).1⟩
  · exact not_clashes_of_ne (by decide) (.inl (by decide)) fun h => hquiet h.2
  · exact not_clashes_of_ne (by decide) (.inr (by decide)) fun h => hquiet h.1

end Session

end ProxyFilter
