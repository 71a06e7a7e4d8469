import ProxyFilter.Proofs.Config.Outcomes
import ProxyFilter.Proofs.Session.Succession

/-!
# Restarts of a plugin

A plugin may be started again and again, while its streams are live and its timer fires. The
latest start that finds a configuration decides about the configuration in force and about
the factory, both at once, and any other start changes nothing at all. A stream takes from
the configuration what its kind needs when it is created, and keeps that to its end.
-/

namespace ProxyFilter

/-- Whether a behavior does what a configuration asks for: it is of that kind, and it has the
function, or the path and the cluster, if its kind holds them. -/
def Behavior.Obeys (behavior : Behavior) (config : Config) : Prop :=
  behavior.kind = config.kind ∧
    match behavior with
    | .callRelay self => self.path = config.path ∧ self.cluster = config.cluster
    | .bodyTransform self => self.function = config.function
    | _ => True

namespace Behavior

/-- The factory of the kind of a configuration makes what the configuration asks for. -/
theorem obeys_make (config : Config) : (config.kind.factory.make config).Obeys config := by
  obtain ⟨kind, function, path, cluster⟩ := config
  cases kind with
  | requestNumbering | timerControl => exact ⟨rfl, trivial⟩
  | callRelay => exact ⟨rfl, rfl, rfl⟩
  | bodyTransform => exact ⟨rfl, rfl⟩

/-- A phase leaves what a behavior has from its configuration. -/
theorem obeys_of_reacts {id : UInt32} {counters : Counters} {behavior : Behavior} {phase : Phase}
    {trace : List TraceEntry} {reaction : Reaction} {config : Config}
    (h : Reacts id counters behavior phase trace reaction) (hobeys : behavior.Obeys config) :
    reaction.behavior.Obeys config := by
  cases h <;> exact hobeys

end Behavior

/-- Every moment leaves a stream its number and what it has from its configuration. -/
theorem Moment.keeps_obeys (id : UInt32) (config : Config) :
    Moment.Keeps fun stream => stream.id = id ∧ stream.behavior.Obeys config := by
  rintro counters moment harises ⟨hid, hobeys⟩
  cases harises with
  | reacted stream phase trace reaction hopen hreacts =>
    exact ⟨hid, Behavior.obeys_of_reacts hreacts hobeys⟩
  | _ => exact ⟨hid, hobeys⟩

/-- Whether a start with some bytes changes nothing: they are refused, or hold nothing. -/
def Config.IsIdle (configuration : Option Bytes) : Prop :=
  (∃ error, Config.parse configuration = .error error) ∨ Config.parse configuration = .ok none

/-- A start that finds no configuration leaves its plugin as it is. -/
theorem Plugin.start_of_isIdle {configuration : Option Bytes} (h : Config.IsIdle configuration)
    (plugin : Plugin) : (plugin.start configuration).plugin = plugin := by
  rcases h with ⟨error, hparse⟩ | hparse <;> simp only [start, hparse]

namespace Session

variable {session : Session} {number id : UInt32}

/-- A start that finds no configuration leaves every plugin and all that is live as it is. -/
theorem start_of_isIdle {configuration : Option Bytes} (h : Config.IsIdle configuration)
    (session : Session) (host : Host World) (number : UInt32) :
    let after := (session.commonStep host (.start number configuration)).2
    (∀ other, after.plugin other = session.plugin other) ∧ after.streams = session.streams ∧
      after.shared = session.shared ∧ after.nextToken = session.nextToken := by
  refine ⟨fun other => ?_, rfl, rfl, rfl⟩
  rw [commonStep, plugin_setPlugin]
  split
  · next hself => rw [hself, Plugin.start_of_isIdle h]
  · rfl

/-- A stream is created exactly if the plugin has a configuration, where the factory goes
with it. -/
theorem created_iff (host : Host World) (script : Script)
    (hfactory : (session.plugin number).factory =
      (session.plugin number).config.map (·.kind.factory)) :
    (session.commonStep host (.stream number id script)).1.answer = .created true ↔
      (session.plugin number).config ≠ none := by
  simp only [commonStep, Plugin.newStream, hfactory]
  cases (session.plugin number).config with
  | none =>
    refine ⟨fun h => ?_, fun h => absurd rfl h⟩
    cases h
  | some config => exact ⟨fun _ => Option.some_ne_none config, fun _ => rfl⟩

/-- What is created is a stream of the plugin, with the behavior that the factory makes of the
configuration. -/
theorem get?_created (host : Host World) (id : UInt32) (script : Script) {factory : Factory}
    {config : Config} (hfactory : (session.plugin number).factory = some factory)
    (hconfig : (session.plugin number).config = some config) :
    ∃ proxy, (session.commonStep host (.stream number id script)).2.streams.get? id =
      some ⟨.stream (.new id (factory.make config)), .plugin number, proxy⟩ := by
  simp only [commonStep, Plugin.newStream, hfactory, hconfig]
  exact ⟨_, (Table.get?_insert _ _ _ _).trans (if_pos rfl)⟩

/-- A stream that belongs to a plugin is found among the streams of the plugin. -/
theorem member?_of_get? {stream : Stream} {proxy : Proxy}
    (hlive : session.streams.get? id = some ⟨.stream stream, .plugin number, proxy⟩) :
    session.member? number id = some stream := by
  rw [member?, hlive]
  exact if_pos rfl

/-- Starts are atomic. After any run the configuration in force is the one that the latest
start of the plugin to find one has brought, and the factory is the one of its kind, so there
is none without the other. A start that is refused or finds nothing leaves the plugins, their
counters and all that is live as they are. A stream is created exactly if some start has found
a configuration before; and as long as it lasts, whatever else happens, it obeys the one that
was in force when it was created. -/
theorem starts_are_atomic (host : Host World) (steps : List SessionStep) (number : UInt32) :
    let session := (Session.new.run host steps).2
    let plugin := session.plugin number
    let found := steps.filterMap (SessionStep.configures? number)
    plugin.config = found.getLast? ∧
    (plugin.factory = plugin.config.map (·.kind.factory) ∧
      plugin.factory.isSome = plugin.config.isSome) ∧
    (∀ configuration, Config.IsIdle configuration →
      let after := (session.commonStep host (.start number configuration)).2
      (∀ other, after.plugin other = session.plugin other) ∧ after.streams = session.streams ∧
        after.shared = session.shared ∧ after.nextToken = session.nextToken) ∧
    ∀ id script,
      let created := session.commonStep host (.stream number id script)
      (created.1.answer = .created true ↔ found ≠ []) ∧
      ∀ config, plugin.config = some config →
        ∀ further, created.2.Lasts host id further →
          ∃ stream, (created.2.run host further).2.member? number id = some stream ∧
            stream.id = id ∧ stream.behavior.Obeys config := by
  intro session plugin found
  have hbecomes : Plugin.new.Becomes found.getLast? _ plugin :=
    Session.new.becomes_run host steps number
  have hconfig : plugin.config = found.getLast? := hbecomes.config.trans Option.or_none
  have hfactory : plugin.factory = plugin.config.map (·.kind.factory) := by
    rw [hconfig]
    exact hbecomes.factory.trans Option.or_none
  refine ⟨hconfig, ⟨hfactory, by rw [hfactory, Option.isSome_map]⟩,
    fun configuration h => start_of_isIdle h session host number, fun id script => ⟨?_, ?_⟩⟩
  · have hany : plugin.config ≠ none ↔ found ≠ [] := by
      rw [hconfig, Ne, List.getLast?_eq_none_iff]
    exact (created_iff host script hfactory).trans hany
  · intro config hinForce further hlasts
    have hmade : plugin.factory = some config.kind.factory := by rw [hfactory, hinForce]; rfl
    obtain ⟨proxy, hcreated⟩ := get?_created host id script hmade hinForce
    obtain ⟨stream, left, hlive, hkept⟩ := keeps_run (Moment.keeps_obeys id config) hlasts
      hcreated ⟨rfl, Behavior.obeys_make config⟩
    exact ⟨stream, member?_of_get? hlive, hkept⟩

/-- A configuration of a foreign function. -/
def reverseText : Bytes :=
  Text.Utf8.encode "\x7b\"type\":\"ffiTests\",\"function\":\" reverse \"\x7d".toList

/-- It is decoded to that behavior. -/
theorem parse_reverseText :
    Config.parse (some reverseText) = .ok (some ⟨.bodyTransform, "reverse", "", "upstream"⟩) := by
  have hbytes : reverseText = [123, 34, 116, 121, 112, 101, 34, 58, 34, 102, 102, 105, 84, 101, 115,
    116, 115, 34, 44, 34, 102, 117, 110, 99, 116, 105, 111, 110, 34, 58, 34, 32, 114, 101, 118, 101,
    114, 115, 101, 32, 34, 125] := by decide
  have hread : Json.Value.parse reverseText = .ok (.object [("type", .string "ffiTests"),
      ("function", .string " reverse ")]) := by
    rw [hbytes]
    rfl
  have hfields : Config.fieldsOf [("type", .string "ffiTests"),
      ("function", .string " reverse ")] = ⟨"ffiTests", "reverse", "", ""⟩ := rfl
  exact Config.parse_eq_iff.mpr
    (.config hread hfields (BehaviorKind.ofName?_eq_some_iff.mpr rfl))

/-- A configuration of timer control. -/
def timerText : Bytes := Text.Utf8.encode "\x7b\"type\":\"tickTests\"\x7d".toList

/-- It is decoded to that behavior. -/
theorem parse_timerText :
    Config.parse (some timerText) = .ok (some ⟨.timerControl, "", "", "upstream"⟩) := by
  have hbytes : timerText = [123, 34, 116, 121, 112, 101, 34, 58, 34, 116, 105, 99, 107, 84, 101,
    115, 116, 115, 34, 125] := by decide
  have hread : Json.Value.parse timerText = .ok (.object [("type", .string "tickTests")]) := by
    rw [hbytes]
    rfl
  have hfields : Config.fieldsOf [("type", .string "tickTests")] = ⟨"tickTests", "", "", ""⟩ := rfl
  exact Config.parse_eq_iff.mpr
    (.config hread hfields (BehaviorKind.ofName?_eq_some_iff.mpr rfl))

/-- A stream with a foreign function keeps it through a start that is refused and a start with
another kind. -/
theorem sample_starts_are_atomic :
    let config : Config := ⟨.bodyTransform, "reverse", "", "upstream"⟩
    let session := (Session.new.run Proxy.host [.common (.start 0 (some reverseText))]).2
    let created := session.commonStep Proxy.host (.stream 0 1 .blank)
    let further : List SessionStep := [.common (.start 0 (some [0x5B])),
      .common (.start 0 (some timerText)), .common (.arrival 1 .requestHeaders)]
    Config.IsIdle (some [0x5B]) ∧ (session.plugin 0).config = some config ∧
      created.2.Lasts Proxy.host 1 further ∧
      ∃ stream, (created.2.run Proxy.host further).2.member? 0 1 = some stream ∧
        stream.id = 1 ∧ stream.behavior.Obeys config := by
  intro config session created further
  have hfound : [SessionStep.common (.start 0 (some reverseText))].filterMap
      (SessionStep.configures? 0) = [config] := by
    simp only [List.filterMap_cons, SessionStep.configures?, parse_reverseText]
    rfl
  obtain ⟨hconfig, -, -, hcreation⟩ :=
    starts_are_atomic Proxy.host [.common (.start 0 (some reverseText))] 0
  rw [hfound] at hconfig
  have hlasts : created.2.Lasts Proxy.host 1 further := ⟨rfl, rfl, rfl, trivial⟩
  exact ⟨.inl ⟨_, rfl⟩, hconfig, hlasts, (hcreation 1 .blank).2 config hconfig further hlasts⟩

end Session

end ProxyFilter
