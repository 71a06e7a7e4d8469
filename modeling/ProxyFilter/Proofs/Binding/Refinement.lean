import ProxyFilter.Binding.Session
import ProxyFilter.Proofs.Binding.Hostcalls
import ProxyFilter.Proofs.Session.Restarts
import ProxyFilter.Session

/-!
# The binding does what the plugins and streams do

A session through the binding is a session of plugins and streams, seen from the
proxy. Its core is that session: roots are plugins and filters are streams. Every
step leads from core to core, and its report is what can be seen of the report of
the same step of the core, against the proxy that the binding shows to its streams. With an
SDK that only hands hostcalls on this is a proxy that is lenient about what is missing.
-/

namespace ProxyFilter

namespace Table

variable {α β : Type} (f : α → β)

/-- A table with each value changed in place. -/
def map (table : Table α) : Table β where
  entries := table.entries.map fun entry => (entry.1, f entry.2)
  ascending := List.pairwise_map.mpr table.ascending

/-- Under every number the changed value is found. -/
@[simp] theorem get?_map (table : Table α) (number : UInt32) :
    (table.map f).get? number = (table.get? number).map f := by
  unfold get? map
  rw [List.find?_map, Option.map_map, Option.map_map]
  rfl

/-- An insertion may be made before the change or behind it. -/
theorem map_insert (table : Table α) (number : UInt32) (value : α) :
    (table.insert number value).map f = (table.map f).insert number (f value) := by
  refine ext_get? fun other => ?_
  rw [get?_map, get?_insert, get?_insert, get?_map]
  split <;> rfl

/-- A removal may be made before the change or behind it. -/
theorem map_erase (table : Table α) (number : UInt32) :
    (table.erase number).map f = (table.map f).erase number := by
  refine ext_get? fun other => ?_
  rw [get?_map, get?_erase, get?_erase, get?_map]
  split <;> rfl

end Table

namespace Binding

/-- The stream behind a live filter. -/
def Live.core (live : Live) : ProxyFilter.Live :=
  ⟨.stream live.filter.stream, .plugin live.owner, live.proxy⟩

/-- What the binding tells of an answer of its core. -/
def Answer.ofCore : ProxyFilter.Answer → Answer
  | .noStream => .noStream
  | .ok => .ok
  | .started _ => .configured true
  | .refused _ => .configured false
  | .plugin _ => .createsFilters
  | .created success => .created success
  | .dropped existed => .dropped existed
  | .actor _ => .ok
  | .phase calls action _ => .phase calls action
  | .outcome calls outcome => .phase calls outcome.action
  | .completion calls _ => .completion calls

/-- What the binding tells of a report of its core. It adds records to those of a
start, and to no others. -/
def Report.ofCore (report : ProxyFilter.Report) : Report where
  answer := .ofCore report.answer
  log := match report.answer with
    | .started _ => ⟨none, .loadingConfig⟩ :: report.log
    | .refused error => ⟨none, .loadingConfig⟩ :: (report.log ++ [⟨none, .refusedConfig error⟩])
    | _ => report.log

namespace Root

variable (root : Root) (configuration : Option Bytes)

/-- A configuration is accepted when the plugin starts with it. -/
theorem accepted_onConfigure :
    (root.onConfigure (.ok configuration)).accepted = true ↔
      (root.plugin.start configuration).result = .ok () := by
  cases hresult : (root.plugin.start configuration).result with
  | ok _ => simp only [onConfigure, hresult]
  | error error => simp only [onConfigure, hresult, Bool.false_eq_true, reduceCtorEq]

/-- A configuration leaves the plugin that its start leaves. -/
theorem plugin_onConfigure :
    (root.onConfigure (.ok configuration)).root.plugin =
      (root.plugin.start configuration).plugin := by
  cases hresult : (root.plugin.start configuration).result with
  | ok _ => simp only [onConfigure, hresult]
  | error error => simp only [onConfigure, hresult]

/-- The records of a configuration stand around those of the start. -/
theorem log_onConfigure :
    (root.onConfigure (.ok configuration)).log =
      ⟨none, .loadingConfig⟩ :: ((root.plugin.start configuration).log ++
        match (root.plugin.start configuration).result with
        | .ok () => []
        | .error error => [⟨none, .refusedConfig error⟩]) := by
  cases hresult : (root.plugin.start configuration).result with
  | ok _ => simp only [onConfigure, hresult, List.append_nil]
  | error error => simp only [onConfigure, hresult, List.cons_append]

/-- A configuration that cannot be read starts nothing, and the status is told. -/
theorem onConfigure_unread (status : Status) :
    root.onConfigure (.error status) =
      ⟨false, root, [⟨none, .loadingConfig⟩, ⟨none, .unreadConfig status⟩]⟩ := rfl

end Root

namespace Session

/-- The plugins and streams behind a session. -/
def core (session : Session) : ProxyFilter.Session where
  plugins := session.roots.map Root.plugin
  streams := session.filters.map Live.core
  shared := .zero
  nextToken := session.nextToken

variable (session : Session) (number id : UInt32)

/-- The plugin behind a root is found under its number. -/
@[simp] theorem plugin_core : session.core.plugin number = (session.root number).plugin := by
  rw [ProxyFilter.Session.plugin, core, Table.get?_map, Session.root]
  cases session.roots.get? number <;> rfl

/-- The stream behind a filter is found under its number. -/
@[simp] theorem get?_streams_core :
    session.core.streams.get? id = (session.filters.get? id).map Live.core :=
  Table.get?_map _ _ _

/-- A filter and its stream see the same counters. -/
theorem counters_core (live : Live) :
    session.core.counters (.plugin live.owner) = session.counters live :=
  congrArg Plugin.counters (plugin_core session live.owner)

/-- A new root is a new plugin. -/
theorem core_setRoot (root : Root) :
    (session.setRoot number root).core = session.core.setPlugin number root.plugin := by
  simp only [core, setRoot, ProxyFilter.Session.setPlugin, Table.map_insert]

/-- A new filter is a new stream. -/
theorem core_setFilter (live : Live) :
    (session.setFilter id live).core = session.core.setStream id live.core := by
  simp only [core, setFilter, ProxyFilter.Session.setStream, Table.map_insert]

/-- What an event leaves behind is the same for the filter and its stream. -/
theorem core_keep (live : Live) (filter : Filter) (world : World) (counters : Counters) :
    (session.keep id live filter world counters).core =
      session.core.keep id live.core (.stream filter.stream) world counters := by
  let root : Root := ⟨{ (session.root live.owner).plugin with counters }⟩
  let kept := session.core.setStream id ⟨.stream filter.stream, .plugin live.owner, world.proxy⟩
  have hroot : ((session.setFilter id ⟨filter, live.owner, world.proxy⟩).setRoot live.owner
      root).core = kept.setPlugin live.owner root.plugin := by
    rw [core_setRoot, core_setFilter]
    rfl
  have hplugin : { kept.plugin live.owner with counters } = root.plugin :=
    congrArg (fun plugin : Plugin => { plugin with counters }) (plugin_core session live.owner)
  have hkeep : session.core.keep id live.core (.stream filter.stream) world counters =
      { kept.setPlugin live.owner { kept.plugin live.owner with counters } with
        nextToken := world.nextToken } := rfl
  rw [hkeep, hplugin, ← hroot]
  rfl

/-- A phase of a filter is that of its stream. -/
theorem run_onPhase (filter : Filter) (counters : Counters) (phase : Phase) (host : Host World)
    (world : World) :
    let run := (filter.stream.onPhase counters phase).run host world
    (filter.onPhase counters phase).run host world =
      ⟨(run.value.1, ⟨run.value.2.1⟩, run.value.2.2), run.world, run.trace⟩ := by
  intro run
  rw [Filter.onPhase, Dialogue.run_bind]
  simp only [Dialogue.run_pure, List.append_nil]
  rfl

/-- A completion of a filter is that of its stream. -/
theorem run_onCompletion (filter : Filter) (completion : Completion) (host : Host World)
    (world : World) :
    let run := (filter.stream.onCompletion completion).run host world
    (filter.onCompletion completion).run host world = ⟨⟨run.value⟩, run.world, run.trace⟩ := by
  intro run
  rw [Filter.onCompletion, Dialogue.run_bind]
  simp only [Dialogue.run_pure, List.append_nil]
  rfl

/-- A step on something live leads from core to core if it does so on whatever is
live. -/
theorem core_withLive {bound : Live → Report × Session}
    {direct : ProxyFilter.Live → ProxyFilter.Report × ProxyFilter.Session}
    (h : ∀ live, (bound live).1 = .ofCore (direct live.core).1 ∧
      (bound live).2.core = (direct live.core).2) :
    (session.withLive id bound).1 = .ofCore (session.core.withLive id direct).1 ∧
      (session.withLive id bound).2.core = (session.core.withLive id direct).2 := by
  unfold withLive ProxyFilter.Session.withLive
  rw [get?_streams_core]
  cases session.filters.get? id with
  | none => exact ⟨rfl, rfl⟩
  | some live => exact h live

variable (sdk : Sdk World)

/-- A start of a root is that of its plugin, with records before and behind it. -/
theorem core_start (configuration : Option Bytes) :
    let bound := session.commonStep sdk (.start number configuration)
    let direct := session.core.commonStep sdk.proxyHost (.start number configuration)
    bound.1 = .ofCore direct.1 ∧ bound.2.core = direct.2 := by
  simp only [commonStep, configure, ProxyFilter.Session.commonStep, plugin_core, core_setRoot]
  cases hresult : ((session.root number).plugin.start configuration).result with
  | ok _ =>
    simp only [Root.onConfigure, hresult]
    exact ⟨rfl, trivial⟩
  | error error =>
    simp only [Root.onConfigure, hresult]
    exact ⟨rfl, trivial⟩

/-- A filter is created where a stream is. -/
theorem core_create (script : Script) :
    let bound := session.commonStep sdk (.stream number id script)
    let direct := session.core.commonStep sdk.proxyHost (.stream number id script)
    bound.1 = .ofCore direct.1 ∧ bound.2.core = direct.2 := by
  simp only [commonStep, ProxyFilter.Session.commonStep, plugin_core, Root.createFilter]
  cases (session.root number).plugin.newStream id with
  | none => exact ⟨rfl, rfl⟩
  | some stream =>
    have hfilter := core_setFilter session id ⟨⟨stream⟩, number,
      (script.apply ⟨.blank, session.nextToken⟩).proxy⟩
    refine ⟨rfl, ?_⟩
    exact congrArg (fun kept : ProxyFilter.Session => { kept with
      nextToken := (script.apply ⟨.blank, session.nextToken⟩).nextToken }) hfilter

/-- Every step leads from core to core and tells of the same step of the core. -/
theorem core_step (step : Step) :
    let bound := session.commonStep sdk step
    let direct := session.core.commonStep sdk.proxyHost step
    bound.1 = .ofCore direct.1 ∧ bound.2.core = direct.2 := by
  intro bound direct
  cases step with
  | start number configuration => exact core_start session number sdk configuration
  | tick number times =>
    refine ⟨rfl, (core_setRoot session number _).trans ?_⟩
    simp only [direct, ProxyFilter.Session.commonStep, plugin_core, Root.repeat_onTick]
  | plugin number => exact ⟨rfl, rfl⟩
  | stream number id script => exact core_create session number id sdk script
  | drop id =>
    have hexisted : (session.core.streams.get? id).isSome = (session.filters.get? id).isSome := by
      rw [get?_streams_core, Option.isSome_map]
    refine ⟨?_, ?_⟩
    · simp only [direct, ProxyFilter.Session.commonStep, hexisted]
      rfl
    · simp only [bound, commonStep, core, Table.map_erase]
      rfl
  | script id script =>
    refine core_withLive session id fun live => ⟨rfl, ?_⟩
    have hfilter := core_setFilter session id
      { live with proxy := (script.apply ⟨live.proxy, session.nextToken⟩).proxy }
    exact congrArg (fun kept : ProxyFilter.Session => { kept with
      nextToken := (script.apply ⟨live.proxy, session.nextToken⟩).nextToken }) hfilter
  | inspect id => exact core_withLive session id fun _ => ⟨rfl, rfl⟩
  | arrival id arrival =>
    refine core_withLive session id fun live => ?_
    simp only [run_onPhase, core_keep]
    simp only [ProxyFilter.Session.deliver, Live.core, counters_core]
    exact ⟨rfl, rfl⟩
  | callResponse id response =>
    refine core_withLive session id fun live => ?_
    simp only [run_onCompletion, core_keep]
    simp only [ProxyFilter.Session.complete, Live.core, counters_core]
    exact ⟨rfl, rfl⟩

/-- A run leads from core to core and tells of the same run of the core. -/
theorem core_run (steps : List Step) :
    let bound := session.run sdk (steps.map .common)
    let direct := session.core.run sdk.proxyHost (steps.map .common)
    bound.1 = direct.1.map .ofCore ∧ bound.2.core = direct.2 := by
  induction steps generalizing session with
  | nil => exact ⟨rfl, rfl⟩
  | cons step rest ih =>
    obtain ⟨hreport, hcore⟩ := core_step session sdk step
    have hrest := ih (session.commonStep sdk step).2
    rw [hcore] at hrest
    exact ⟨List.cons_eq_cons.mpr ⟨hreport, hrest.1⟩, hrest.2⟩

/-- The binding refines its core. Let the SDK hand hostcalls on to a proxy. From the beginning,
any steps through the binding give, report by report, what the same steps give of plugins and
streams against the lenient proxy, and end in the same plugins and streams. A configuration is
accepted exactly when the plugin starts with it; its records are those of the start, behind
one of loading and before one of a refusal, which is an error with the wording of the refusal.
One that cannot be read is never accepted and starts nothing, and its status is told. -/
theorem refines_core {host : Host World} (hwraps : sdk.Wraps host) (steps : List Step) :
    let bound := Session.new.run sdk (steps.map .common)
    let direct := ProxyFilter.Session.new.run host.lenient (steps.map .common)
    (bound.1 = direct.1.map .ofCore ∧ bound.2.core = direct.2) ∧
    ∀ root : Root,
      (∀ configuration : Option Bytes,
        let configured := root.onConfigure (.ok configuration)
        let start := root.plugin.start configuration
        (configured.accepted = true ↔ start.result = .ok ()) ∧
        configured.root.plugin = start.plugin ∧
        configured.log = ⟨none, .loadingConfig⟩ :: (start.log ++ match start.result with
          | .ok () => []
          | .error error => [⟨none, .refusedConfig error⟩]) ∧
        ∀ error, (⟨none, .refusedConfig error⟩ : Record).level = .error ∧
          (⟨none, .refusedConfig error⟩ : Record).message = "[unit-tester] " ++ error.message) ∧
      ∀ status : Status,
        let configured := root.onConfigure (.error status)
        let told : Record := ⟨none, .unreadConfig status⟩
        configured.accepted = false ∧ configured.root = root ∧
        configured.log = [⟨none, .loadingConfig⟩, told] ∧ told.level = .error ∧
        told.message = "[unit-tester] error reading plugin configuration: " ++ status.name := by
  intro bound direct
  refine ⟨?_, fun root => ⟨fun configuration => ?_, fun status => ?_⟩⟩
  · have hrun := core_run .new sdk steps
    rw [hwraps.proxyHost_eq] at hrun
    exact hrun
  · exact ⟨root.accepted_onConfigure configuration, root.plugin_onConfigure configuration,
      root.log_onConfigure configuration, fun _ => ⟨rfl, rfl⟩⟩
  · intro configured told
    have hunread : configured = _ := root.onConfigure_unread status
    exact ⟨congrArg Configured.accepted hunread, congrArg Configured.root hunread,
      congrArg Configured.log hunread, rfl, rfl⟩

/-- A stream of the sample is given a function that reverses bodies, and a proxy that refuses to
read the response body. -/
def sampleScript (status : Status) : Script :=
  { Script.blank with
    functions := some [("reverse", .reverse)]
    failures := some [⟨.body .response, none, status⟩] }

/-- A session in which one stream reverses its response body. -/
def sampleSteps (status : Status) : List Step :=
  [.start 0 (some ProxyFilter.Session.reverseText), .stream 0 1 (sampleScript status),
    .arrival 1 .requestHeaders]

/-- The whole response body of the sample. -/
def sampleArrival : Arrival := .responseBody [0x61, 0x62, 0x63] true none

/-- The sample, in which the proxy does not find the response body, gives the same through the
binding as of plugins and streams that are told that there is none. -/
theorem sample_refines_core :
    let sdk := Sdk.before Proxy.host
    let steps := sampleSteps .notFound ++ [.arrival 1 sampleArrival, .tick 0 2, .drop 1]
    let bound := Session.new.run sdk (steps.map .common)
    let direct := ProxyFilter.Session.new.run Proxy.host.lenient (steps.map .common)
    sdk.Wraps Proxy.host ∧ bound.1 = direct.1.map .ofCore ∧ bound.2.core = direct.2 := by
  intro sdk steps
  have hwraps : sdk.Wraps Proxy.host := Sdk.before_wraps Proxy.host
  exact ⟨hwraps, (refines_core sdk hwraps steps).1⟩

end Session

end Binding

end ProxyFilter
