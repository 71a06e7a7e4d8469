import ProxyFilter.Proofs.Session.Independence

/-!
# What a step leaves behind

A plugin is changed by its own starts and by the firings of its own timer, and by nothing
else but the numbers that its streams take. What is live goes on from one event to the next,
until it is removed or something else takes its number. Both are said here once for all steps
of a session, and what a whole run keeps follows from it.
-/

namespace ProxyFilter

open Dialogue

namespace SessionStep

/-- The configuration that a step brings to a plugin: the one that a start of it finds. -/
def configures? (number : UInt32) : SessionStep → Option Config
  | .common (.start plugin configuration) =>
    if plugin = number then (Config.parse configuration).toOption.join else none
  | _ => none

/-- How often the timer of a plugin fires in a step. -/
def firings (number : UInt32) : SessionStep → Nat
  | .common (.tick plugin times) => if plugin = number then times else 0
  | _ => 0

/-- How often the timer of a plugin fires in a row of steps. -/
def allFirings (number : UInt32) : List SessionStep → Nat
  | [] => 0
  | step :: rest => step.firings number + allFirings number rest

end SessionStep

/-- What a step makes of a plugin: it may bring a configuration, which the factory follows,
and its timer may fire. -/
structure Plugin.Becomes (plugin : Plugin) (found : Option Config) (fired : Nat)
    (after : Plugin) : Prop where
  /-- A configuration that is found is in force from then on. -/
  config : after.config = found.or plugin.config
  /-- The factory is picked by it at the same time. -/
  factory : after.factory = (found.map (·.kind.factory)).or plugin.factory
  /-- The firings are counted. -/
  ticks : after.counters.ticks = plugin.counters.ticks + fired

/-- Apart from its number of requests a plugin stays as it is. -/
theorem Plugin.becomes_self (plugin : Plugin) : plugin.Becomes none 0 plugin := ⟨rfl, rfl, rfl⟩

/-- A start brings the configuration that it finds. -/
theorem Plugin.becomes_start (plugin : Plugin) (configuration : Option Bytes) :
    plugin.Becomes (Config.parse configuration).toOption.join 0
      (plugin.start configuration).plugin := by
  unfold Plugin.start
  cases Config.parse configuration with
  | error error => exact plugin.becomes_self
  | ok found =>
    cases found with
    | none => exact plugin.becomes_self
    | some config => exact ⟨rfl, rfl, rfl⟩

/-- What two steps make of a plugin, one after the other: the later configuration counts. -/
theorem Plugin.Becomes.trans {plugin between after : Plugin} {found next : Option Config}
    {fired more : Nat} (h : plugin.Becomes found fired between)
    (hnext : between.Becomes next more after) :
    plugin.Becomes (next.or found) (fired + more) after where
  config := by rw [hnext.config, h.config, Option.or_assoc]
  factory := by
    rw [hnext.factory, h.factory]
    cases next <;> rfl
  ticks := by rw [hnext.ticks, h.ticks, Nat.add_assoc]

/-- What can become of something live in a step that leaves it in its place. -/
inductive Live.Becomes (session : Session) : Live → Live → Prop
  /-- It meets nothing, but its proxy may be given other contents. -/
  | spared (actor : Actor) (owner : Owner) (proxy left : Proxy) :
    Live.Becomes session ⟨actor, owner, proxy⟩ ⟨actor, owner, left⟩
  /-- A stream meets an event. -/
  | met (moment : Moment) (owner : Owner) (proxy left : Proxy)
      (harises : moment.Arises (session.counters owner)) :
    Live.Becomes session ⟨.stream moment.before, owner, proxy⟩ ⟨.stream moment.after, owner, left⟩
  /-- A behavior without gate meets an event. -/
  | bare (id : UInt32) (behavior next : Behavior) (owner : Owner) (proxy left : Proxy) :
    Live.Becomes session ⟨.bare id behavior, owner, proxy⟩ ⟨.bare id next, owner, left⟩

/-- A stream that is live meets an event as a moment of it. -/
theorem Actor.meet_stream {σ : Type} (stream : Stream) (counters : Counters) (event : Event)
    (host : Host σ) (world : σ) :
    let moment := stream.meet ⟨event, counters, host, world⟩
    let run := ((Actor.stream stream).meet counters event).run host world
    run.value.actor = .stream moment.after ∧ run.value.counters = moment.counters ∧
      run.trace = moment.trace := by
  cases event with
  | phase | completion =>
    simp only [meet, run_bind_pure]
    exact ⟨rfl, rfl, rfl⟩

/-- A behavior without gate meets an event and stays without gate. -/
theorem Actor.meet_bare {σ : Type} (id : UInt32) (behavior : Behavior) (counters : Counters)
    (event : Event) (host : Host σ) (world : σ) :
    ∃ next, ((Actor.bare id behavior).meet counters event |>.run host world).value.actor =
      .bare id next := by
  cases event with
  | phase | completion =>
    simp only [meet, run_bind_pure]
    exact ⟨_, rfl⟩

/-- What can become of a number in a step that does not take it from what is live under it. -/
inductive Live.Stays (session : Session) : Option Live → Option Live → Prop
  /-- Nothing is live there. -/
  | absent : Live.Stays session none none
  /-- What is live there goes on. -/
  | present {live next : Live} (h : live.Becomes session next) :
    Live.Stays session (some live) (some next)

/-- What meets nothing stays as it is. -/
theorem Live.stays_self (session : Session) (held : Option Live) : Live.Stays session held held := by
  cases held with
  | none => exact .absent
  | some live => exact .present (.spared live.actor live.owner live.proxy live.proxy)

namespace Session

variable {session : Session} {id : UInt32} {live : Live}

/-- Whether a step takes a number from what is live under it, because that is removed or
because something new takes its place. A stream that is not created takes no place. -/
def vacates (session : Session) (id : UInt32) : SessionStep → Bool
  | .common (.stream number target _) =>
    target == id && ((session.plugin number).newStream target).isSome
  | .common (.drop target) => target == id
  | .behavior target .. => target == id
  | _ => false

/-- An event under a number leaves the configuration, the factory and the firings of every
plugin alone. -/
theorem becomes_receive (session : Session) (host : Host World) (id : UInt32) (live : Live)
    (input : Input) (number : UInt32) :
    (session.plugin number).Becomes none 0
      ((session.receive host id live input).2.plugin number) := by
  unfold receive
  rw [plugin_keep]
  split
  · next howner =>
    refine ⟨rfl, rfl, ?_⟩
    have hleft := live.actor.counters_meet (session.counters live.owner)
      (input.arrive live.proxy).2 host (session.world (input.arrive live.proxy).1)
    have hticks := congrArg Counters.ticks hleft
    rw [howner] at hticks
    rw [howner]
    exact hticks
  · exact Plugin.becomes_self _

/-- A step on something live leaves a plugin alone if it does so whatever is live. -/
theorem becomes_withLive {action : Live → Report × Session} {number : UInt32}
    (haction : ∀ live, (session.plugin number).Becomes none 0 ((action live).2.plugin number)) :
    (session.plugin number).Becomes none 0 ((session.withLive id action).2.plugin number) := by
  unfold withLive
  split
  · exact Plugin.becomes_self _
  · exact haction _

/-- A plugin put in the place of another one is what that becomes. -/
theorem becomes_setPlugin {target : UInt32} {changed : Plugin} {found : Option Config}
    {fired : Nat} (h : (session.plugin target).Becomes found fired changed) (number : UInt32) :
    (session.plugin number).Becomes (if target = number then found else none)
      (if target = number then fired else 0) ((session.setPlugin target changed).plugin number) := by
  rw [plugin_setPlugin]
  by_cases hself : target = number
  · cases hself
    simpa only [if_true] using h
  · simp only [if_neg hself, if_neg (Ne.symm hself)]
    exact Plugin.becomes_self _

/-- What a step makes of each plugin: only its own starts bring it a configuration, and only
its own timer fires. -/
theorem becomes_step (session : Session) (host : Host World) (step : SessionStep)
    (number : UInt32) :
    (session.plugin number).Becomes (step.configures? number) (step.firings number)
      ((session.step host step).2.plugin number) := by
  cases step with
  | behavior target config gated script => exact Plugin.becomes_self _
  | common step =>
    cases step with
    | start target configuration =>
      have hstart := (session.plugin target).becomes_start configuration
      have hset := becomes_setPlugin hstart number
      rw [ite_self] at hset
      exact hset
    | tick target times =>
      have htick : (session.plugin target).Becomes none times
          (Nat.repeat Plugin.tick times (session.plugin target)) := by
        rw [Plugin.repeat_tick]
        exact ⟨rfl, rfl, rfl⟩
      have hset := becomes_setPlugin htick number
      rw [ite_self] at hset
      exact hset
    | plugin target => exact Plugin.becomes_self _
    | stream target id script =>
      simp only [Session.step, commonStep]
      cases (session.plugin target).newStream id with
      | none => exact Plugin.becomes_self _
      | some stream => exact Plugin.becomes_self _
    | drop target => exact Plugin.becomes_self _
    | script target script => exact becomes_withLive fun _ => Plugin.becomes_self _
    | inspect target => exact becomes_withLive fun _ => Plugin.becomes_self _
    | arrival target part =>
      simp only [Session.step, commonStep, deliver_eq_receive]
      exact becomes_withLive fun live => session.becomes_receive host target live _ number
    | callResponse target answer =>
      simp only [Session.step, commonStep, complete_eq_receive]
      exact becomes_withLive fun live => session.becomes_receive host target live _ number

/-- An event leaves its number to what has met it, and every other number as it was. -/
theorem stays_receive {target : UInt32} (hlive : session.streams.get? target = some live)
    (host : Host World) (input : Input) (id : UInt32) :
    Live.Stays session (session.streams.get? id)
      ((session.receive host target live input).2.streams.get? id) := by
  unfold receive
  rw [get?_streams_keep]
  split
  · next hself =>
    rw [hself, hlive]
    obtain ⟨actor, owner, proxy⟩ := live
    cases actor with
    | stream stream =>
      let delivery : Delivery World := ⟨(input.arrive proxy).2, session.counters owner, host,
        session.world (input.arrive proxy).1⟩
      have hbecomes := fun left =>
        Live.Becomes.met (stream.meet delivery) owner proxy left (stream.arises_meet delivery)
      rw [(Actor.meet_stream stream _ _ host _).1]
      rw [Stream.before_meet] at hbecomes
      exact .present (hbecomes _)
    | bare speaker behavior =>
      obtain ⟨next, hactor⟩ := Actor.meet_bare speaker behavior (session.counters owner)
        (input.arrive proxy).2 host (session.world (input.arrive proxy).1)
      rw [hactor]
      exact .present (.bare speaker behavior next owner proxy _)
  · exact Live.stays_self session _

/-- A step on something live leaves a number to what is live there if it does so whatever
is live. -/
theorem stays_withLive {target : UInt32} {action : Live → Report × Session}
    (haction : ∀ live, session.streams.get? target = some live →
      Live.Stays session (session.streams.get? id) ((action live).2.streams.get? id)) :
    Live.Stays session (session.streams.get? id)
      ((session.withLive target action).2.streams.get? id) := by
  unfold withLive
  split
  · exact Live.stays_self session _
  · next live hlive => exact haction live hlive

/-- What is live under a number goes on through every step that does not take the number
from it. -/
theorem stays_step (host : Host World) {step : SessionStep}
    (hstays : session.vacates id step = false) :
    Live.Stays session (session.streams.get? id)
      ((session.step host step).2.streams.get? id) := by
  have hput : ∀ (target : UInt32) (held : Live), id ≠ target →
      Live.Stays session (session.streams.get? id)
        ((session.streams.insert target held).get? id) := by
    intro target held hother
    rw [Table.get?_insert, if_neg hother]
    exact Live.stays_self session _
  cases step with
  | behavior target config gated script =>
    exact hput target _ (Ne.symm (ne_of_beq_false hstays))
  | common step =>
    cases step with
    | start | tick | plugin => exact Live.stays_self session _
    | stream number target script =>
      simp only [Session.step, commonStep]
      cases hnew : (session.plugin number).newStream target with
      | none => exact Live.stays_self session _
      | some stream =>
        simp only [vacates, hnew, Option.isSome_some, Bool.and_true] at hstays
        exact hput target _ (Ne.symm (ne_of_beq_false hstays))
    | drop target =>
      simp only [Session.step, commonStep, Table.get?_erase,
        if_neg (Ne.symm (ne_of_beq_false hstays))]
      exact Live.stays_self session _
    | script target script =>
      refine stays_withLive fun live hlive => ?_
      by_cases hself : id = target
      · have hfound := Table.get?_insert session.streams target target
          { live with proxy := (script.apply (session.world live.proxy)).proxy }
        rw [if_pos rfl] at hfound
        rw [hself, hlive]
        exact hfound ▸ .present (.spared live.actor live.owner live.proxy _)
      · exact hput target _ hself
    | inspect target => exact stays_withLive fun _ _ => Live.stays_self session _
    | arrival target part =>
      simp only [Session.step, commonStep, deliver_eq_receive]
      exact stays_withLive fun live hlive => stays_receive hlive host _ id
    | callResponse target answer =>
      simp only [Session.step, commonStep, complete_eq_receive]
      exact stays_withLive fun live hlive => stays_receive hlive host _ id

/-- What a run makes of each plugin: the latest configuration that one of its starts finds
is in force, and all firings of its timer are counted. -/
theorem becomes_run (session : Session) (host : Host World) (steps : List SessionStep)
    (number : UInt32) :
    (session.plugin number).Becomes (steps.filterMap (SessionStep.configures? number)).getLast?
      (SessionStep.allFirings number steps) ((session.run host steps).2.plugin number) := by
  induction steps generalizing session with
  | nil => exact Plugin.becomes_self _
  | cons step rest ih =>
    have hlast : ((step :: rest).filterMap (SessionStep.configures? number)).getLast? =
        (rest.filterMap (SessionStep.configures? number)).getLast?.or
          (step.configures? number) := by
      rw [List.filterMap_cons]
      cases step.configures? number with
      | none => exact (Option.or_none).symm
      | some config => rw [List.getLast?_cons, Option.or_some]
    rw [hlast]
    exact (session.becomes_step host step number).trans (ih (session.step host step).2)

/-- What is live under a number after a step that has taken it from what was there is a new
stream of a plugin, or a behavior without plugin. -/
theorem new_of_vacates (host : Host World) {step : SessionStep}
    (hvacates : session.vacates id step = true)
    (hlive : (session.step host step).2.streams.get? id = some live) :
    (∃ factory config, live.actor = .stream (.new id (Factory.make factory config))) ∨
      ∃ behavior, live.actor = .bare id behavior := by
  have hput : ∀ (target : UInt32) (held : Live), target = id →
      (session.streams.insert target held).get? id = some live → live = held := by
    intro target held hself hfound
    rw [Table.get?_insert, if_pos hself.symm] at hfound
    exact (Option.some.inj hfound).symm
  cases step with
  | behavior target config gated script =>
    have hself : target = id := eq_of_beq hvacates
    rw [hput target _ hself hlive, ← hself]
    cases gated with
    | true => exact .inl ⟨config.kind.factory, config, rfl⟩
    | false => exact .inr ⟨_, rfl⟩
  | common step =>
    cases step with
    | stream number target script =>
      simp only [Session.step, commonStep] at hlive
      cases hnew : (session.plugin number).newStream target with
      | none =>
        simp only [vacates, hnew, Option.isSome_none, Bool.and_false] at hvacates
        cases hvacates
      | some stream =>
        simp only [vacates, hnew, Option.isSome_some, Bool.and_true] at hvacates
        have hself : target = id := eq_of_beq hvacates
        simp only [hnew] at hlive
        obtain ⟨factory, config, -, -, hstream⟩ := Plugin.newStream_eq_some_iff.mp hnew
        rw [hput target _ hself hlive, ← hself]
        exact .inl ⟨factory, config, congrArg Actor.stream hstream⟩
    | drop target =>
      simp only [Session.step, commonStep, Table.get?_erase] at hlive
      rw [if_pos (eq_of_beq hvacates).symm] at hlive
      cases hlive
    | _ => cases hvacates

/-- Whether what is live under a number goes on through a whole row of steps. -/
def Lasts (host : Host World) (session : Session) (id : UInt32) : List SessionStep → Prop
  | [] => True
  | step :: rest =>
    session.vacates id step = false ∧ (session.step host step).2.Lasts host id rest

/-- What every moment keeps, a stream keeps for as long as it lasts, and its owner with it. -/
theorem keeps_run {kept : Stream → Prop} (hkept : Moment.Keeps kept) {host : Host World}
    {steps : List SessionStep} {stream : Stream} {owner : Owner} {proxy : Proxy}
    (hlasts : session.Lasts host id steps)
    (hlive : session.streams.get? id = some ⟨.stream stream, owner, proxy⟩)
    (hstream : kept stream) :
    ∃ next left, (session.run host steps).2.streams.get? id = some ⟨.stream next, owner, left⟩ ∧
      kept next := by
  induction steps generalizing session stream proxy with
  | nil => exact ⟨stream, proxy, hlive, hstream⟩
  | cons step rest ih =>
    obtain ⟨hstays, hrest⟩ := hlasts
    have hstep := stays_step host hstays
    rw [hlive] at hstep
    generalize hnext : (session.step host step).2.streams.get? id = held at hstep
    cases hstep with
    | present hbecomes =>
      cases hbecomes with
      | spared _ _ _ left => exact ih hrest hnext hstream
      | met moment _ _ left harises => exact ih hrest hnext (hkept _ moment harises hstream)

/-- Whether all streams that are live have a property. -/
def EveryStream (kept : Stream → Prop) (session : Session) : Prop :=
  ∀ id stream owner proxy,
    session.streams.get? id = some ⟨.stream stream, owner, proxy⟩ → kept stream

/-- What new streams have and every moment keeps, all streams have after a step. -/
theorem everyStream_step {kept : Stream → Prop} (hkept : Moment.Keeps kept)
    (hnew : ∀ id factory config, kept (.new id (Factory.make factory config)))
    (h : session.EveryStream kept) (host : Host World) (step : SessionStep) :
    (session.step host step).2.EveryStream kept := by
  intro id next owner left hnext
  cases hvacates : session.vacates id step with
  | true =>
    rcases new_of_vacates host hvacates hnext with ⟨factory, config, hactor⟩ | ⟨_, hactor⟩
    · cases hactor
      exact hnew id factory config
    · cases hactor
  | false =>
    have hstep := stays_step host hvacates
    rw [hnext] at hstep
    generalize hlive : session.streams.get? id = held at hstep
    cases hstep with
    | present hbecomes =>
      cases hbecomes with
      | spared _ _ proxy _ => exact h id next owner proxy hlive
      | met moment _ proxy _ harises => exact hkept _ moment harises (h id _ owner proxy hlive)

/-- What new streams have and every moment keeps, all streams have after any run. -/
theorem everyStream_run {kept : Stream → Prop} (hkept : Moment.Keeps kept)
    (hnew : ∀ id factory config, kept (.new id (Factory.make factory config)))
    (host : Host World) (steps : List SessionStep) :
    (Session.new.run host steps).2.EveryStream kept := by
  have hrun : ∀ session : Session, session.EveryStream kept →
      (session.run host steps).2.EveryStream kept := by
    induction steps with
    | nil => exact fun _ h => h
    | cons step rest ih => exact fun _ h => ih _ (everyStream_step hkept hnew h host step)
  exact hrun .new nofun

end Session

end ProxyFilter
