import ProxyFilter.Binding
import ProxyFilter.Session.Step
import ProxyFilter.Session.Table

/-!
# Sessions through the binding

The same steps as in a session of plugins and streams, but driven through roots
and filters. What a stream asks goes through the SDK, which is a parameter of every
step.
-/

namespace ProxyFilter.Binding

/-- A live filter. -/
structure Live where
  /-- What receives the events. -/
  filter : Filter
  /-- The root that created it. -/
  owner : UInt32
  /-- What its proxy holds. -/
  proxy : Proxy

/-- What a step answers. -/
inductive Answer where
  /-- Nothing is live under the number. -/
  | noStream
  /-- The step is done. -/
  | ok
  /-- Whether a configuration was accepted. -/
  | configured (accepted : Bool)
  /-- The root creates filters for streams. -/
  | createsFilters
  /-- Whether a filter was created. -/
  | created (success : Bool)
  /-- Whether there was a filter to remove. -/
  | dropped (existed : Bool)
  /-- The calls of a phase and what the proxy is told. -/
  | phase (calls : List Call) (action : Action)
  /-- The calls of a completion. -/
  | completion (calls : List Call)

/-- What a step answers and writes to the log. -/
structure Report where
  /-- The answer. -/
  answer : Answer
  /-- The log records in order. -/
  log : List Record

/-- A step of a session through the binding. -/
inductive SessionStep where
  /-- A step on plugins and their streams. -/
  | common (step : Step)
  /-- Let a root fail to read its configuration. -/
  | unread (plugin : UInt32) (status : Status)
  /-- Tell a filter that its stream is over. -/
  | finish (id : UInt32)

/-- The roots and filters of a session. -/
structure Session where
  /-- The roots that a step has changed. -/
  roots : Table Root
  /-- The filter that is live under each number. -/
  filters : Table Live
  /-- The token of the next cluster call. -/
  nextToken : UInt32

namespace Session

/-- A session before its first step. -/
def new : Session := ⟨.empty, .empty, 1⟩

/-- The root under a number. One that no step has changed is new. -/
def root (session : Session) (number : UInt32) : Root :=
  (session.roots.get? number).getD .new

/-- Put a root under a number. -/
def setRoot (session : Session) (number : UInt32) (root : Root) : Session :=
  { session with roots := session.roots.insert number root }

/-- Put a filter under a number. -/
def setFilter (session : Session) (id : UInt32) (live : Live) : Session :=
  { session with filters := session.filters.insert id live }

/-- The counters that a filter sees. -/
def counters (session : Session) (live : Live) : Counters :=
  (session.root live.owner).plugin.counters

/-- Keep what an event has left: the filter, the world and the counters. -/
def keep (session : Session) (id : UInt32) (live : Live) (filter : Filter) (world : World)
    (counters : Counters) : Session :=
  let kept := session.setFilter id ⟨filter, live.owner, world.proxy⟩
  let root : Root := ⟨{ (session.root live.owner).plugin with counters := counters }⟩
  { kept.setRoot live.owner root with nextToken := world.nextToken }

/-- Do something with the filter under a number, if there is one. -/
def withLive (session : Session) (id : UInt32) (action : Live → Report × Session) :
    Report × Session :=
  match session.filters.get? id with
  | none => (⟨.noStream, []⟩, session)
  | some live => action live

/-- Let a root read its configuration. -/
def configure (session : Session) (number : UInt32) (read : Hostcall.configuration.Reply) :
    Report × Session :=
  let configured := (session.root number).onConfigure read
  (⟨.configured configured.accepted, configured.log⟩,
    session.setRoot number configured.root)

/-- A step on plugins and their streams. -/
def commonStep (sdk : Sdk World) (session : Session) : Step → Report × Session
  | .start number configuration => session.configure number (.ok configuration)
  | .tick number times =>
    (⟨.ok, []⟩, session.setRoot number (Nat.repeat Root.onTick times (session.root number)))
  | .plugin _ => (⟨.createsFilters, []⟩, session)
  | .stream number id script =>
    match (session.root number).createFilter id with
    | none => (⟨.created false, []⟩, session)
    | some filter =>
      let world := script.apply ⟨.blank, session.nextToken⟩
      (⟨.created true, []⟩, { session.setFilter id ⟨filter, number, world.proxy⟩ with
        nextToken := world.nextToken })
  | .drop id =>
    (⟨.dropped (session.filters.get? id).isSome, []⟩,
      { session with filters := session.filters.erase id })
  | .script id script => session.withLive id fun live =>
    let world := script.apply ⟨live.proxy, session.nextToken⟩
    (⟨.ok, []⟩, { session.setFilter id { live with proxy := world.proxy } with
      nextToken := world.nextToken })
  | .inspect id => session.withLive id fun _ => (⟨.ok, []⟩, session)
  | .arrival id arrival => session.withLive id fun live =>
    let (proxy, phase) := arrival.arrive live.proxy
    let run := (live.filter.onPhase (session.counters live) phase).run sdk.proxyHost
      ⟨proxy, session.nextToken⟩
    let (action, filter, counters) := run.value
    (⟨.phase run.calls action, run.records⟩,
      session.keep id live filter run.world counters)
  | .callResponse id response => session.withLive id fun live =>
    let (proxy, completion) := response.arrive live.proxy
    let run := (live.filter.onCompletion completion).run sdk.proxyHost
      ⟨proxy, session.nextToken⟩
    (⟨.completion run.calls, run.records⟩,
      session.keep id live run.value run.world (session.counters live))

/-- A step. -/
def step (sdk : Sdk World) (session : Session) : SessionStep → Report × Session
  | .common step => session.commonStep sdk step
  | .unread number status => session.configure number (.error status)
  | .finish id => session.withLive id fun live =>
    let run := live.filter.onLog.run sdk.proxyHost ⟨live.proxy, session.nextToken⟩
    (⟨.ok, run.records⟩, session)

/-- The reports of all steps in order, and the session after them. -/
def run (sdk : Sdk World) (session : Session) : List SessionStep → List Report × Session
  | [] => ([], session)
  | step :: rest =>
    let (report, next) := session.step sdk step
    let (reports, last) := next.run sdk rest
    (report :: reports, last)

end Session

end ProxyFilter.Binding
