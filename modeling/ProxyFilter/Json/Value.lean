import ProxyFilter.Json.Number

/-!
# JSON values and their canonical order

An object keeps its members as they were written, duplicates included. The
canonical form of a value has the members of each object in ascending order of
their keys, with the last of equal keys kept.
-/

namespace ProxyFilter.Json

/-- A JSON value as it was written. -/
inductive Value where
  /-- The word `null`. -/
  | null
  /-- The words `true` and `false`. -/
  | bool (value : Bool)
  /-- A number. -/
  | number (value : Number)
  /-- A text. -/
  | string (text : String)
  /-- A list of values. -/
  | array (items : List Value)
  /-- A list of keys with values, in written order. -/
  | object (members : List (String × Value))
  deriving Repr, Inhabited

namespace Value

/-- The text of a string value, and nothing for any other value. -/
def text? : Value → Option String
  | .string text => some text
  | _ => none

/-- The value of the last member with a key. -/
def last? (members : List (String × Value)) (key : String) : Option Value :=
  (members.reverse.find? fun member => member.1 == key).map (·.2)

/-- Put a member at its place among ascending members, instead of one with the
same key. -/
def place (key : String) (value : Value) :
    List (String × Value) → List (String × Value)
  | [] => [(key, value)]
  | member :: rest =>
    if key = member.1 then (key, value) :: rest
    else if key < member.1 then (key, value) :: member :: rest
    else member :: place key value rest

/-- Ascending members, each with the last value of its key. -/
def settle (members : List (String × Value)) : List (String × Value) :=
  members.foldl (fun settled member => place member.1 member.2 settled) []

mutual

/-- The value with the members of every object settled. -/
def canonical : Value → Value
  | .array items => .array (canonicalItems items)
  | .object members => .object (settle (canonicalMembers members))
  | value => value

/-- The canonical forms of a list of values. -/
def canonicalItems : List Value → List Value
  | [] => []
  | item :: rest => canonical item :: canonicalItems rest

/-- The members with the canonical forms of their values. -/
def canonicalMembers : List (String × Value) → List (String × Value)
  | [] => []
  | (key, value) :: rest => (key, canonical value) :: canonicalMembers rest

end

end Value

end ProxyFilter.Json
