import ProxyFilter.Stream

/-!
# Plugins

A plugin holds the configuration that its latest successful start has found, the
factory picked by then, and the counters of its streams. A new stream gets its
behavior from the factory, which is given the configuration.
-/

namespace ProxyFilter

/-- One plugin. -/
structure Plugin where
  /-- The configuration in force, if a start has found one. -/
  config : Option Config
  /-- What makes the behaviors of new streams, if a start has picked it. -/
  factory : Option Factory
  /-- The counters of all its streams. -/
  counters : Counters
  deriving DecidableEq, Repr

namespace Plugin

/-- A plugin before its first start. -/
def new : Plugin := ⟨none, none, .zero⟩

/-- The behavior in force. -/
def kind? (plugin : Plugin) : Option BehaviorKind := plugin.config.map (·.kind)

/-- What a start leaves behind. -/
structure Start where
  /-- Why the plugin refuses to start, if it does. -/
  result : Except ConfigError Unit
  /-- The plugin afterwards. -/
  plugin : Plugin
  /-- The records of the start. -/
  log : List Record

/-- Start with a configuration. Only one that is found and accepted changes the
plugin, and then only what new streams will do. -/
def start (plugin : Plugin) (configuration : Option Bytes) : Start :=
  match Config.parse configuration with
  | .error error => ⟨.error error, plugin, []⟩
  | .ok none => ⟨.ok (), plugin, [⟨none, .noConfig⟩]⟩
  | .ok (some config) =>
    ⟨.ok (), { plugin with factory := some config.kind.factory, config := some config },
      [⟨none, .usingKind config.kind⟩]⟩

/-- A new stream, if there is a factory and a configuration to make its behavior from. -/
def newStream (plugin : Plugin) (id : UInt32) : Option Stream :=
  match plugin.factory, plugin.config with
  | some factory, some config => some (Stream.new id (factory.make config))
  | _, _ => none

/-- A new stream is what the factory makes of the configuration. -/
theorem newStream_eq_some_iff {plugin : Plugin} {id : UInt32} {stream : Stream} :
    plugin.newStream id = some stream ↔ ∃ factory config, plugin.factory = some factory ∧
      plugin.config = some config ∧ stream = Stream.new id (factory.make config) := by
  unfold newStream
  cases plugin.factory with
  | none => simp
  | some factory => cases plugin.config <;> simp [eq_comm]

/-- Let the timer fire once. -/
def tick (plugin : Plugin) : Plugin := { plugin with counters := plugin.counters.tick }

/-- The plugin behind any number of firings of its timer. -/
def tickTimes (plugin : Plugin) (times : Nat) : Plugin :=
  { plugin with counters := plugin.counters.tickTimes times }

/-- The timer fires a number of times one by one. -/
theorem repeat_tick (plugin : Plugin) (times : Nat) :
    Nat.repeat tick times plugin = plugin.tickTimes times := by
  induction times with
  | zero => rfl
  | succ times ih =>
    rw [Nat.repeat, ih, tick, tickTimes, tickTimes, Counters.tick_tickTimes]

end Plugin

end ProxyFilter
