import ProxyFilter.Plugin
import ProxyFilter.Session.Step
import ProxyFilter.Session.Table

/-!
# Sessions

A session holds plugins and live streams by their numbers. Every stream has a
scripted proxy of its own and the counters of the plugin that created it; all
proxies share one row of tokens. A behavior can also be run without plugin, and
then even without the gate of a stream. How proxies reply is a parameter of
every step, and the scripted reply is the one that is run.
-/

namespace ProxyFilter

/-- Whose counters a stream sees. -/
inductive Owner where
  /-- The counters of a plugin. -/
  | plugin (number : UInt32)
  /-- The counters of all streams without plugin. -/
  | shared
  deriving DecidableEq, Repr

/-- What receives the events of a number. -/
inductive Actor where
  /-- A stream. -/
  | stream (stream : Stream)
  /-- A behavior without a gate before it. -/
  | bare (id : UInt32) (behavior : Behavior)
  deriving DecidableEq, Repr

/-- What is live under a number. -/
structure Live where
  /-- What receives the events. -/
  actor : Actor
  /-- Whose counters it sees. -/
  owner : Owner
  /-- What its proxy holds. -/
  proxy : Proxy

/-- What a step answers. -/
inductive Answer where
  /-- Nothing is live under the number. -/
  | noStream
  /-- The step is done. -/
  | ok
  /-- The plugin has started and has this behavior in force. -/
  | started (kind : Option BehaviorKind)
  /-- The plugin refuses to start. -/
  | refused (error : ConfigError)
  /-- The plugin as it is. -/
  | plugin (plugin : Plugin)
  /-- Whether a stream was created. -/
  | created (success : Bool)
  /-- Whether there was a stream to remove. -/
  | dropped (existed : Bool)
  /-- What is live as it is. -/
  | actor (actor : Actor)
  /-- The calls of a phase, what the proxy is told, and the state afterwards. -/
  | phase (calls : List Call) (action : Action) (state : StreamState)
  /-- The calls of a phase without gate and its outcome. -/
  | outcome (calls : List Call) (outcome : Outcome)
  /-- The calls of a completion, and the state afterwards of a stream. -/
  | completion (calls : List Call) (state : Option StreamState)

/-- What a step answers and writes to the log. -/
structure Report where
  /-- The answer. -/
  answer : Answer
  /-- The log records in order. -/
  log : List Record

/-- A step of a session. -/
inductive SessionStep where
  /-- A step on plugins and their streams. -/
  | common (step : Step)
  /-- Run the behavior of a configuration without plugin, with or without the
  gate of a stream. -/
  | behavior (id : UInt32) (config : Config) (gated : Bool) (script : Script)

/-- The plugins and streams of a session. -/
structure Session where
  /-- The plugins that a step has changed. -/
  plugins : Table Plugin
  /-- What is live under each number. -/
  streams : Table Live
  /-- The counters of all streams without plugin. -/
  shared : Counters
  /-- The token of the next cluster call. -/
  nextToken : UInt32

namespace Session

/-- A session before its first step. -/
def new : Session := ⟨.empty, .empty, .zero, 1⟩

/-- The plugin under a number. One that no step has changed is new. -/
def plugin (session : Session) (number : UInt32) : Plugin :=
  (session.plugins.get? number).getD .new

/-- Put a plugin under a number. -/
def setPlugin (session : Session) (number : UInt32) (plugin : Plugin) : Session :=
  { session with plugins := session.plugins.insert number plugin }

/-- Put something live under a number. -/
def setStream (session : Session) (id : UInt32) (live : Live) : Session :=
  { session with streams := session.streams.insert id live }

/-- After a plugin is put under a number it is found there, and under every other
number the plugin that was there. -/
@[simp] theorem plugin_setPlugin (session : Session) (number other : UInt32)
    (plugin : Plugin) :
    (session.setPlugin number plugin).plugin other =
      if other = number then plugin else session.plugin other := by
  simp only [Session.plugin, setPlugin, Table.get?_insert]
  split <;> rfl

/-- The counters of an owner. -/
def counters (session : Session) : Owner → Counters
  | .plugin number => (session.plugin number).counters
  | .shared => session.shared

/-- Put new counters to an owner. -/
def setCounters (session : Session) (counters : Counters) : Owner → Session
  | .plugin number =>
    session.setPlugin number { session.plugin number with counters := counters }
  | .shared => { session with shared := counters }

/-- The proxy of a stream within the session. -/
def world (session : Session) (proxy : Proxy) : World := ⟨proxy, session.nextToken⟩

/-- Make a new actor live, with a proxy that holds what a script gives. -/
def create (session : Session) (id : UInt32) (actor : Actor) (owner : Owner)
    (script : Script) : Session :=
  let world := script.apply (session.world .blank)
  { session.setStream id ⟨actor, owner, world.proxy⟩ with nextToken := world.nextToken }

/-- Keep what an event has left: the actor, the world and the counters. -/
def keep (session : Session) (id : UInt32) (live : Live) (actor : Actor) (world : World)
    (counters : Counters) : Session :=
  let kept := session.setStream id ⟨actor, live.owner, world.proxy⟩
  { kept.setCounters counters live.owner with nextToken := world.nextToken }

/-- Deliver a phase to what is live. -/
def deliver (host : Host World) (session : Session) (id : UInt32) (live : Live)
    (arrival : Arrival) : Report × Session :=
  let (proxy, phase) := arrival.arrive live.proxy
  let counters := session.counters live.owner
  let world := session.world proxy
  match live.actor with
  | .stream stream =>
    let run := (stream.onPhase counters phase).run host world
    let (action, stream, counters) := run.value
    (⟨.phase run.calls action stream.state, run.records⟩,
      session.keep id live (.stream stream) run.world counters)
  | .bare speaker behavior =>
    let run := (behavior.onPhase speaker counters phase).run host world
    let reaction := run.value
    (⟨.outcome run.calls reaction.outcome, run.records⟩,
      session.keep id live (.bare speaker reaction.behavior) run.world reaction.counters)

/-- Deliver a completion to what is live. -/
def complete (host : Host World) (session : Session) (id : UInt32) (live : Live)
    (response : CallResponse) : Report × Session :=
  let (proxy, completion) := response.arrive live.proxy
  let counters := session.counters live.owner
  let world := session.world proxy
  match live.actor with
  | .stream stream =>
    let run := (stream.onCompletion completion).run host world
    (⟨.completion run.calls (some run.value.state), run.records⟩,
      session.keep id live (.stream run.value) run.world counters)
  | .bare speaker behavior =>
    let run := (behavior.onCompletion speaker completion).run host world
    (⟨.completion run.calls none, run.records⟩,
      session.keep id live live.actor run.world counters)

/-- Do something with what is live under a number, if anything is. -/
def withLive (session : Session) (id : UInt32) (action : Live → Report × Session) :
    Report × Session :=
  match session.streams.get? id with
  | none => (⟨.noStream, []⟩, session)
  | some live => action live

/-- A step on plugins and their streams. -/
def commonStep (host : Host World) (session : Session) : Step → Report × Session
  | .start number configuration =>
    let start := (session.plugin number).start configuration
    let answer := match start.result with
      | .ok () => .started start.plugin.kind?
      | .error error => .refused error
    (⟨answer, start.log⟩, session.setPlugin number start.plugin)
  | .tick number times =>
    (⟨.ok, []⟩, session.setPlugin number (Nat.repeat Plugin.tick times (session.plugin number)))
  | .plugin number => (⟨.plugin (session.plugin number), []⟩, session)
  | .stream number id script =>
    match (session.plugin number).newStream id with
    | none => (⟨.created false, []⟩, session)
    | some stream =>
      (⟨.created true, []⟩, session.create id (.stream stream) (.plugin number) script)
  | .drop id =>
    (⟨.dropped (session.streams.get? id).isSome, []⟩,
      { session with streams := session.streams.erase id })
  | .script id script => session.withLive id fun live =>
    let world := script.apply (session.world live.proxy)
    (⟨.ok, []⟩, { session.setStream id { live with proxy := world.proxy } with
      nextToken := world.nextToken })
  | .inspect id => session.withLive id fun live => (⟨.actor live.actor, []⟩, session)
  | .arrival id arrival => session.withLive id fun live =>
    session.deliver host id live arrival
  | .callResponse id response => session.withLive id fun live =>
    session.complete host id live response

/-- A step of firings answers nothing and lets the timer fire a number of times. -/
theorem commonStep_tick (session : Session) (host : Host World) (number : UInt32) (times : Nat) :
    session.commonStep host (.tick number times) =
      (⟨.ok, []⟩, session.setPlugin number ((session.plugin number).tickTimes times)) := by
  rw [commonStep, Plugin.repeat_tick]

/-- A step. -/
def step (host : Host World) (session : Session) : SessionStep → Report × Session
  | .common step => session.commonStep host step
  | .behavior id config gated script =>
    let behavior := Behavior.ofConfig config
    let actor := if gated then .stream (.new id behavior) else .bare id behavior
    (⟨.created true, []⟩, session.create id actor .shared script)

/-- The reports of all steps in order, and the session after them. -/
def run (host : Host World) (session : Session) : List SessionStep → List Report × Session
  | [] => ([], session)
  | step :: rest =>
    let (report, next) := session.step host step
    let (reports, last) := next.run host rest
    (report :: reports, last)

end Session

end ProxyFilter
