import ProxyFilter.Bytes

/-!
# Failures of reading a JSON text

A reader fails with a cause and the bytes that lie after the place it is
reported at. Against the whole text this gives a line and a column.
-/

namespace ProxyFilter.Json

/-- Why a text is not a JSON value. -/
inductive Cause where
  /-- The text ends where a value or a further part of one is due. -/
  | endInValue
  /-- The text ends where an item or the end of a list is due. -/
  | endInList
  /-- The text ends where a key, a colon or the end of an object is due. -/
  | endInObject
  /-- The text ends inside a string. -/
  | endInString
  /-- A word is none of `null`, `true` and `false`. -/
  | unknownWord
  /-- No value starts with this byte. -/
  | noValue
  /-- Lists and objects lie too deep inside one another. -/
  | nestedTooDeep
  /-- An item is followed by neither a comma nor a bracket. -/
  | noListSeparator
  /-- A member is followed by neither a comma nor a brace. -/
  | noObjectSeparator
  /-- A key is not followed by a colon. -/
  | noColon
  /-- A member does not start with a quote. -/
  | keyNotString
  /-- A comma is followed by the end of its list or object. -/
  | trailingComma
  /-- Something follows the value. -/
  | trailingCharacters
  /-- A digit is missing, or one follows a leading zero. -/
  | invalidNumber
  /-- A number is infinite when it is rounded. -/
  | numberOutOfRange
  /-- A control character stands in a string by itself. -/
  | controlCharacter
  /-- A backslash starts no escape. -/
  | invalidEscape
  /-- A half of a pair stands alone or in the wrong place. -/
  | loneSurrogate
  /-- The first half of a pair is not followed by an escape. -/
  | endOfHexEscape
  /-- The decoded bytes of a string are not UTF-8. -/
  | invalidCodePoint
  deriving DecidableEq, Repr

/-- The wording of a cause. -/
def Cause.text : Cause → String
  | .endInValue => "EOF while parsing a value"
  | .endInList => "EOF while parsing a list"
  | .endInObject => "EOF while parsing an object"
  | .endInString => "EOF while parsing a string"
  | .unknownWord => "expected ident"
  | .noValue => "expected value"
  | .nestedTooDeep => "recursion limit exceeded"
  | .noListSeparator => "expected `,` or `]`"
  | .noObjectSeparator => "expected `,` or `\x7d`"
  | .noColon => "expected `:`"
  | .keyNotString => "key must be a string"
  | .trailingComma => "trailing comma"
  | .trailingCharacters => "trailing characters"
  | .invalidNumber => "invalid number"
  | .numberOutOfRange => "number out of range"
  | .controlCharacter =>
    "control character (\\u0000-\\u001F) found while parsing a string"
  | .invalidEscape => "invalid escape"
  | .loneSurrogate => "lone leading surrogate in hex escape"
  | .endOfHexEscape => "unexpected end of hex escape"
  | .invalidCodePoint => "invalid unicode code point"

/-- A failure as a reader reports it, without knowledge of the whole text. -/
structure Fault where
  /-- What went wrong. -/
  cause : Cause
  /-- The bytes after the place the failure is reported at. -/
  rest : Bytes
  /-- How far the reported column lies before that place. -/
  back : Nat
  deriving DecidableEq, Repr

/-- A failure with its place in the whole text. -/
structure SyntaxError where
  /-- What went wrong. -/
  cause : Cause
  /-- The line, counted from one. -/
  line : Nat
  /-- The bytes of that line up to the place. -/
  column : Nat
  deriving DecidableEq, Repr

namespace Fault

/-- Fail with the given bytes after the place. -/
def raise {α : Type} (cause : Cause) (rest : Bytes) : Except Fault α :=
  .error ⟨cause, rest, 0⟩

/-- The place of a failure in the text that was read. -/
def locate (whole : Bytes) (fault : Fault) : SyntaxError :=
  let before := whole.take (whole.length - fault.rest.length)
  let line := 1 + before.count 0x0A
  let column := (before.reverse.takeWhile (· != 0x0A)).length
  ⟨fault.cause, line, column - fault.back⟩

end Fault

/-- The wording of a failure with its place. -/
def SyntaxError.message (error : SyntaxError) : String :=
  s!"{error.cause.text} at line {error.line} column {error.column}"

end ProxyFilter.Json
