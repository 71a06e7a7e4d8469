import ProxyFilter.Binding.Hostcall
import ProxyFilter.Plugin

/-!
# The binding to a proxy

The proxy knows a root for each plugin and a filter for each stream. Both hand
its callbacks on. The binding logs a configuration that cannot be read or is
refused, and the end of a stream.
-/

namespace ProxyFilter.Binding

/-- The plugin as the proxy knows it. -/
structure Root where
  /-- The plugin behind it. -/
  plugin : Plugin
  deriving DecidableEq, Repr

/-- A stream as the proxy knows it. -/
structure Filter where
  /-- The stream behind it. -/
  stream : Stream
  deriving DecidableEq, Repr

/-- What a configuration callback leaves behind. -/
structure Configured where
  /-- Whether the configuration was accepted. -/
  accepted : Bool
  /-- The root afterwards. -/
  root : Root
  /-- The records of the callback. -/
  log : List Record

namespace Root

/-- A root before its configuration. -/
def new : Root := ⟨.new⟩

/-- Start the plugin with the configuration that was read. One that the proxy fails
to give starts nothing. -/
def onConfigure (root : Root) : Hostcall.configuration.Reply → Configured
  | .error status => ⟨false, root, [⟨none, .loadingConfig⟩, ⟨none, .unreadConfig status⟩]⟩
  | .ok configuration =>
    let start := root.plugin.start configuration
    let log := ⟨none, .loadingConfig⟩ :: start.log
    match start.result with
    | .ok () => ⟨true, ⟨start.plugin⟩, log⟩
    | .error error => ⟨false, ⟨start.plugin⟩, log ++ [⟨none, .refusedConfig error⟩]⟩

/-- The timer has fired. -/
def onTick (root : Root) : Root := ⟨root.plugin.tick⟩

/-- A number of callbacks lets the timer of the plugin fire as often. -/
theorem repeat_onTick (root : Root) (times : Nat) :
    Nat.repeat onTick times root = ⟨Nat.repeat Plugin.tick times root.plugin⟩ := by
  induction times with
  | zero => rfl
  | succ times ih => rw [Nat.repeat, ih, onTick, Nat.repeat]

/-- A filter for a new stream, if a configuration is in force. -/
def createFilter (root : Root) (id : UInt32) : Option Filter :=
  (root.plugin.newStream id).map Filter.mk

end Root

namespace Filter

/-- A phase of the stream. -/
def onPhase (filter : Filter) (counters : Counters) (phase : Phase) :
    Dialogue (Action × Filter × Counters) := do
  let (action, stream, counters) ← filter.stream.onPhase counters phase
  return (action, ⟨stream⟩, counters)

/-- The completion of a cluster call of the stream. -/
def onCompletion (filter : Filter) (completion : Completion) : Dialogue Filter := do
  let stream ← filter.stream.onCompletion completion
  return ⟨stream⟩

/-- The stream is over. -/
def onLog (filter : Filter) : Dialogue Unit :=
  Dialogue.say filter.stream.id
    (.streamFinished filter.stream.behavior.kind filter.stream.state)

end Filter

end ProxyFilter.Binding
