import ProxyFilter.Behavior.BodyTransform
import ProxyFilter.Behavior.RequestNumbering
import ProxyFilter.Behavior.TimerControl
import ProxyFilter.Behavior.CallRelay

/-!
# Behaviors of a stream

A behavior is one of the four kinds with the state that it needs. A factory makes
the one of a new stream. A behavior reacts to the phases of its stream and to the
completion of a cluster call; what it does not care about passes through.
-/

namespace ProxyFilter

/-- The behavior of one stream. -/
inductive Behavior where
  /-- Number the stream. -/
  | requestNumbering (self : RequestNumbering)
  /-- Switch and read the timer. -/
  | timerControl
  /-- Relay the stream to a cluster. -/
  | callRelay (self : CallRelay)
  /-- Apply a foreign function. -/
  | bodyTransform (self : BodyTransform)
  deriving DecidableEq, Repr

/-- What a behavior makes of a phase. -/
structure Reaction where
  /-- Where the stream goes next. -/
  outcome : Outcome
  /-- The behavior afterwards. -/
  behavior : Behavior
  /-- The counters afterwards. -/
  counters : Counters
  deriving DecidableEq, Repr

/-- The kind of a behavior. -/
def Behavior.kind : Behavior → BehaviorKind
  | .requestNumbering _ => .requestNumbering
  | .timerControl => .timerControl
  | .callRelay _ => .callRelay
  | .bodyTransform _ => .bodyTransform

/-- A way to make the behavior of a new stream. There is one for each kind. -/
structure Factory where
  /-- The kind of what is made. -/
  kind : BehaviorKind
  deriving DecidableEq, Repr

/-- The factory of a kind. -/
def BehaviorKind.factory (kind : BehaviorKind) : Factory := ⟨kind⟩

namespace Factory

/-- Make the behavior of a new stream. Of the configuration it takes what its own kind
needs, whichever kind the configuration picks. -/
def make (factory : Factory) (config : Config) : Behavior :=
  match factory.kind with
  | .requestNumbering => .requestNumbering .new
  | .timerControl => .timerControl
  | .callRelay => .callRelay (.new config)
  | .bodyTransform => .bodyTransform (.new config)

/-- A factory makes behaviors of its kind. -/
theorem kind_make (factory : Factory) (config : Config) :
    (factory.make config).kind = factory.kind := by
  cases h : factory.kind <;> simp only [make, h, Behavior.kind]

end Factory

namespace Behavior

/-- The behavior of a new stream under a configuration. -/
def ofConfig (config : Config) : Behavior := config.kind.factory.make config

/-- A new stream has the kind that its configuration picks. -/
theorem kind_ofConfig (config : Config) : (ofConfig config).kind = config.kind :=
  config.kind.factory.kind_make config

/-- React to a phase. -/
def onPhase (id : UInt32) (behavior : Behavior) (counters : Counters) (phase : Phase) :
    Dialogue Reaction :=
  match behavior, phase with
  | .requestNumbering self, .requestHeaders => do
    let (outcome, self, counters) ← self.onRequestHeaders id counters
    return ⟨outcome, .requestNumbering self, counters⟩
  | .requestNumbering self, .responseHeaders => do
    let outcome ← self.onResponseHeaders id
    return ⟨outcome, behavior, counters⟩
  | .timerControl, .requestHeaders => do
    let outcome ← TimerControl.onRequestHeaders id counters
    return ⟨outcome, behavior, counters⟩
  | .callRelay self, .requestHeaders => do
    let self ← self.onRequestHeaders id
    return ⟨.proceed, .callRelay self, counters⟩
  | .callRelay self, .requestBody size isLast => do
    let outcome ← self.onRequestBody id size isLast
    return ⟨outcome, behavior, counters⟩
  | .bodyTransform self, .requestHeaders => do
    let self ← self.onRequestHeaders id
    return ⟨.proceed, .bodyTransform self, counters⟩
  | .bodyTransform self, .requestBody size isLast => do
    let outcome ← self.onRequestBody id size isLast
    return ⟨outcome, behavior, counters⟩
  | .bodyTransform self, .responseBody size isLast => do
    let outcome ← self.onResponseBody id size isLast
    return ⟨outcome, behavior, counters⟩
  | _, _ => return ⟨.proceed, behavior, counters⟩

/-- React to the completion of a cluster call. -/
def onCompletion (id : UInt32) (completion : Completion) : Behavior → Dialogue Unit
  | .callRelay self => self.onCompletion id completion.headers completion.bodySize
  | _ => return ()

end Behavior

end ProxyFilter
