import ProxyFilter.Json.Printer
import ProxyFilter.Json.Reader
import ProxyFilter.Text.Blank
import ProxyFilter.Text.Quoted

/-!
# Plugin configuration

A configuration is a JSON object. Its `type` picks one of four behaviors, and
three further fields hold what two of them need. Fields that are unknown or no
strings read as absent.
-/

namespace ProxyFilter

/-- The four behaviors that a configuration can pick. -/
inductive BehaviorKind where
  /-- Number requests in a header. -/
  | requestNumbering
  /-- Switch and read the timer by request paths. -/
  | timerControl
  /-- Answer with the response of a cluster call. -/
  | callRelay
  /-- Apply a foreign function to a body. -/
  | bodyTransform
  deriving DecidableEq, Repr

namespace BehaviorKind

/-- The name of a behavior in configurations and messages. -/
def name : BehaviorKind → String
  | .requestNumbering => "headerTests"
  | .timerControl => "tickTests"
  | .callRelay => "httpCallTests"
  | .bodyTransform => "ffiTests"

/-- The behavior with a name. -/
def ofName? : String → Option BehaviorKind
  | "headerTests" => some .requestNumbering
  | "tickTests" => some .timerControl
  | "httpCallTests" => some .callRelay
  | "ffiTests" => some .bodyTransform
  | _ => none

/-- A behavior is found by its name and by no other one. -/
theorem ofName?_eq_some_iff {name : String} {kind : BehaviorKind} :
    ofName? name = some kind ↔ kind.name = name := by
  constructor
  · intro h
    unfold ofName? at h
    split at h <;> cases h <;> rfl
  · rintro rfl
    cases kind <;> rfl

end BehaviorKind

/-- A decoded configuration. -/
structure Config where
  /-- The behavior of every stream. -/
  kind : BehaviorKind
  /-- The foreign function for response bodies, possibly empty. -/
  function : String
  /-- The path of cluster calls. -/
  path : String
  /-- The cluster that calls go to. -/
  cluster : String
  deriving DecidableEq, Repr

/-- Why a configuration is refused. -/
inductive ConfigError where
  /-- The bytes are no JSON text. -/
  | unreadable (error : Json.SyntaxError)
  /-- The text holds a value that is no object. -/
  | notObject (value : Json.Value)
  /-- An object holds a field twice. -/
  | repeatedField (name : String)
  /-- The trimmed type names no behavior. -/
  | unknownKind (name : String)
  deriving Repr

/-- The wording of a refusal. -/
def ConfigError.message : ConfigError → String
  | .unreadable error => malformed error.message
  | .notObject value =>
    malformed ("top-level value is not an object: " ++ String.ofList value.echo)
  | .repeatedField name => malformed ("duplicate field `" ++ name ++ "`")
  | .unknownKind name =>
    "invalid config type: " ++ String.ofList (Text.Quoted.quote name.toList)
where
  /-- The wording shared by everything that is no JSON object. -/
  malformed (reason : String) : String :=
    "invalid configuration format; expected a json object: " ++ reason

namespace Config

/-- The cluster that calls go to when none is named. -/
def defaultCluster : String := "upstream"

/-- A text without the white space at its ends. -/
def trimmed (text : String) : String := String.ofList (Text.trim text.toList)

/-- The texts of the four fields as they are written. A field that is absent or
no string has none. -/
structure Raw where
  /-- The name of the behavior. -/
  type : Option String
  /-- The foreign function. -/
  function : Option String
  /-- The path of cluster calls. -/
  path : Option String
  /-- The cluster. -/
  upstream : Option String
  deriving DecidableEq, Repr

namespace Raw

/-- Visit the members of an object one by one and gather the fields among them.
Other members are passed over, and a field that has been met is not met again. -/
def visit : List (String × Option String) → List (String × Json.Value) →
    Except ConfigError (List (String × Option String))
  | met, [] => .ok met
  | met, (key, value) :: rest =>
    if key ∈ ["type", "function", "path", "upstream"] then
      if (met.lookup key).isSome then .error (.repeatedField key)
      else visit ((key, value.text?) :: met) rest
    else visit met rest

/-- The texts that the members of an object hold. -/
def ofMembers (members : List (String × Json.Value)) : Except ConfigError Raw := do
  let met ← visit [] members
  let text? := fun key => (met.lookup key).join
  return ⟨text? "type", text? "function", text? "path", text? "upstream"⟩

end Raw

/-- The configuration that the texts of the fields tell. -/
def ofRaw (raw : Raw) : Except ConfigError Config :=
  let name := trimmed (raw.type.getD "")
  match BehaviorKind.ofName? name with
  | none => .error (.unknownKind name)
  | some kind =>
    let cluster := raw.upstream.getD ""
    .ok {
      kind := kind
      function := trimmed (raw.function.getD "")
      path := raw.path.getD ""
      cluster := if cluster.isEmpty then defaultCluster else cluster }

/-- The configuration that the members of an object hold. They are settled, so
none of them holds a field twice. -/
def ofMembers (members : List (String × Json.Value)) : Except ConfigError Config := do
  ofRaw (← Raw.ofMembers (Json.Value.settle members))

/-- Decode a configuration. Absent and empty bytes hold none. -/
def parse : Option Bytes → Except ConfigError (Option Config)
  | none => .ok none
  | some [] => .ok none
  | some bytes =>
    match Json.Value.parse bytes with
    | .error error => .error (.unreadable error)
    | .ok (.object members) => (ofMembers members).map some
    | .ok value => .error (.notObject value)

end Config

end ProxyFilter
