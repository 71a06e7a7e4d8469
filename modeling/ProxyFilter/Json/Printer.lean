import ProxyFilter.Json.Value

/-!
# Compact JSON text

A value is written without any blank. In strings only the quote, the backslash
and the characters below U+0020 are escaped.
-/

namespace ProxyFilter.Json

/-- One character of a string as it is written. -/
def escape (char : Char) : List Char :=
  if char = '"' then ['\\', '"']
  else if char = '\\' then ['\\', '\\']
  else if char = '\x08' then ['\\', 'b']
  else if char = '\x0c' then ['\\', 'f']
  else if char = '\n' then ['\\', 'n']
  else if char = '\r' then ['\\', 'r']
  else if char = '\t' then ['\\', 't']
  else if char.toNat < 0x20 then
    ['\\', 'u', '0', '0', Nat.digitChar (char.toNat / 16), Nat.digitChar (char.toNat % 16)]
  else [char]

/-- A string between its quotes. -/
def quoted (text : String) : List Char := '"' :: text.toList.flatMap escape ++ ['"']

namespace Value

mutual

/-- The text of a value without any blank, members in the order they have. -/
def compact : Value → List Char
  | .null => ['n', 'u', 'l', 'l']
  | .bool true => ['t', 'r', 'u', 'e']
  | .bool false => ['f', 'a', 'l', 's', 'e']
  | .number value => value.text
  | .string text => quoted text
  | .array [] => ['[', ']']
  | .array (item :: rest) => '[' :: compact item ++ compactItems rest
  | .object [] => ['\x7b', '\x7d']
  | .object ((key, value) :: rest) =>
    '\x7b' :: quoted key ++ ':' :: compact value ++ compactMembers rest

/-- The further items of a list and its end. -/
def compactItems : List Value → List Char
  | [] => [']']
  | item :: rest => ',' :: compact item ++ compactItems rest

/-- The further members of an object and its end. -/
def compactMembers : List (String × Value) → List Char
  | [] => ['\x7d']
  | (key, value) :: rest => ',' :: quoted key ++ ':' :: compact value ++ compactMembers rest

end

/-- The text by which a value is named in a message: compact and canonical. -/
def echo (value : Value) : List Char := compact (canonical value)

end Value

end ProxyFilter.Json
