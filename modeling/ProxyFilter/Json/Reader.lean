import ProxyFilter.Json.Fault
import ProxyFilter.Json.Value
import ProxyFilter.Text.Utf8

/-!
# Reading JSON texts

A reader takes the bytes before it and gives a result with the bytes after it.
Strings are read by a machine that looks at one byte at a time. Lists and
objects are read with the reader for the values inside them, and the number of
such readers is the depth to which values may be nested. The rounds of a list or
object are counted by a fuel that is at least the length of the whole text.
-/

namespace ProxyFilter.Json

open Text

/-- A step from the bytes ahead to a result and the bytes after it. -/
abbrev Reader (α : Type) := Bytes → Except Fault (α × Bytes)

/-- The four bytes that may stand between tokens. -/
def isSpace (byte : UInt8) : Bool :=
  byte == 0x20 || byte == 0x0A || byte == 0x0D || byte == 0x09

/-- The bytes from the next token on. -/
def skipSpace (bytes : Bytes) : Bytes := bytes.dropWhile isSpace

/-- The bytes of the ten decimal digits. -/
def isDigit (byte : UInt8) : Bool := 0x30 ≤ byte && byte ≤ 0x39

/-- The values of a run of digits. -/
def digitValues (digits : Bytes) : List Nat := digits.map fun digit => digit.toNat - 0x30

/-- The value of a hexadecimal digit of either case. -/
def hexDigit? (byte : UInt8) : Option Nat :=
  if isDigit byte then some (byte.toNat - 0x30)
  else if 0x41 ≤ byte && byte ≤ 0x46 then some (byte.toNat - 0x37)
  else if 0x61 ≤ byte && byte ≤ 0x66 then some (byte.toNat - 0x57)
  else none

/-! ## Strings -/

/-- Where the reader of a string stands. -/
inductive Place where
  /-- Between characters. -/
  | plain
  /-- After a backslash. -/
  | escaped
  /-- Inside the four digits of an escape, which may be the second half of a
  pair. The value is lost once a byte is no digit. -/
  | digits (high : Option Nat) (further : Nat) (value : Option Nat)
  /-- After the first half of a pair. -/
  | paired (high : Nat)
  /-- After the first half of a pair and a backslash. -/
  | pairEscaped (high : Nat)
  deriving DecidableEq, Repr

/-- The bytes that an escape of four digits stands for, and the place after it.
Halves of a pair are accepted only together. -/
def codeUnit (high : Option Nat) (unit : Nat) : Except Cause (Bytes × Place) :=
  let isLow : Bool := 0xDC00 ≤ unit && unit ≤ 0xDFFF
  match high with
  | some first =>
    if isLow then
      let point := 0x10000 + (first - 0xD800) * 0x400 + (unit - 0xDC00)
      .ok (Utf8.encode [Char.ofNat point], .plain)
    else .error .loneSurrogate
  | none =>
    if isLow then .error .loneSurrogate
    else if 0xD800 ≤ unit && unit ≤ 0xDBFF then .ok ([], .paired unit)
    else .ok (Utf8.encode [Char.ofNat unit], .plain)

/-- What a single byte after a backslash stands for. -/
def shortEscape? (byte : UInt8) : Option UInt8 :=
  if byte = '"'.toUInt8 || byte = '\\'.toUInt8 || byte = '/'.toUInt8 then some byte
  else if byte = 'b'.toUInt8 then some 0x08
  else if byte = 'f'.toUInt8 then some 0x0C
  else if byte = 'n'.toUInt8 then some 0x0A
  else if byte = 'r'.toUInt8 then some 0x0D
  else if byte = 't'.toUInt8 then some 0x09
  else none

/-- One byte of a string: the bytes it completes and the place after it. -/
def Place.step : Place → UInt8 → Except Cause (Bytes × Place)
  | .plain, byte =>
    if byte < 0x20 then .error .controlCharacter
    else if byte = '\\'.toUInt8 then .ok ([], .escaped)
    else .ok ([byte], .plain)
  | .escaped, byte =>
    if byte = 'u'.toUInt8 then .ok ([], .digits none 3 (some 0))
    else
      match shortEscape? byte with
      | some decoded => .ok ([decoded], .plain)
      | none => .error .invalidEscape
  | .digits high further value, byte =>
    let extended : Option Nat := do
      let unit ← value
      let digit ← hexDigit? byte
      return unit * 16 + digit
    match further, extended with
    | further + 1, _ => .ok ([], .digits high further extended)
    | 0, some unit => codeUnit high unit
    | 0, none => .error .invalidEscape
  | .paired high, byte =>
    if byte = '\\'.toUInt8 then .ok ([], .pairEscaped high) else .error .endOfHexEscape
  | .pairEscaped high, byte =>
    if byte = 'u'.toUInt8 then .ok ([], .digits (some high) 3 (some 0))
    else .error .endOfHexEscape

/-- The decoded bytes up to the closing quote. The bytes decoded so far are
held in reverse order. -/
def stringBytes : Place → Bytes → Reader Bytes
  | _, _, [] => Fault.raise .endInString []
  | place, decoded, byte :: rest =>
    if place = .plain ∧ byte = '"'.toUInt8 then .ok (decoded.reverse, rest)
    else
      match place.step byte with
      | .error cause => Fault.raise cause rest
      | .ok (completed, next) => stringBytes next (completed.reverse ++ decoded) rest

/-- A string after its opening quote. Its decoded bytes must be well-formed; the
column of a failure moves back over the decoded bytes that are not. -/
def string : Reader String := fun bytes => do
  let (decoded, rest) ← stringBytes .plain [] bytes
  match Utf8.strict? decoded with
  | some text => return (String.ofList text, rest)
  | none => .error ⟨.invalidCodePoint, rest, decoded.length - Utf8.soundLength decoded⟩

/-! ## Numbers -/

/-- The digits before the point. A leading zero stands alone. -/
def wholeDigits : Reader Bytes
  | [] => Fault.raise .endInValue []
  | byte :: rest =>
    if !isDigit byte then Fault.raise .invalidNumber rest
    else if byte = '0'.toUInt8 then
      match rest with
      | next :: after =>
        if isDigit next then Fault.raise .invalidNumber after else .ok ([byte], rest)
      | [] => .ok ([byte], [])
    else .ok (byte :: rest.takeWhile isDigit, rest.dropWhile isDigit)

/-- The digits after a point, if there is a point. -/
def fractionDigits : Reader (Option Bytes)
  | [] => .ok (none, [])
  | byte :: rest =>
    if byte = '.'.toUInt8 then
      match rest with
      | [] => Fault.raise .endInValue []
      | next :: after =>
        if isDigit next then .ok (some (rest.takeWhile isDigit), rest.dropWhile isDigit)
        else Fault.raise .invalidNumber after
    else .ok (none, byte :: rest)

/-- The power of ten after its letter. -/
structure Power where
  /-- Whether the power is below zero. -/
  negative : Bool
  /-- Its digits as a number. -/
  value : Nat
  deriving DecidableEq, Repr

/-- The power with its sign. -/
def Power.exponent (power : Power) : Int := if power.negative then -power.value else power.value

/-- The greatest power that is read to its end. -/
def powerLimit : Nat := Nat.pow 2 31 - 1

/-- Continue the digits of a power, up to and with the first one that carries
it over the limit. -/
def powerDigits : Nat → Bytes → Nat × Bytes
  | value, [] => (value, [])
  | value, byte :: rest =>
    if isDigit byte then
      let next := value * 10 + (byte.toNat - 0x30)
      if powerLimit < next then (next, rest) else powerDigits next rest
    else (value, byte :: rest)

/-- The power of ten, if there is its letter. -/
def power : Reader (Option Power)
  | [] => .ok (none, [])
  | byte :: rest =>
    if byte = 'e'.toUInt8 || byte = 'E'.toUInt8 then
      let negative := rest.head? == some '-'.toUInt8
      let unsigned :=
        if negative || rest.head? == some '+'.toUInt8 then rest.drop 1 else rest
      match unsigned with
      | [] => Fault.raise .endInValue []
      | first :: after =>
        if isDigit first then
          let (value, rest) := powerDigits 0 unsigned
          .ok (some ⟨negative, value⟩, rest)
        else Fault.raise .invalidNumber after
    else .ok (none, byte :: rest)

/-- The number with a fraction or power. A power over the limit settles the
value by itself: it is out of range, or zero. -/
def scientific (negative : Bool) (whole fraction : List Nat) (power : Power) : Reader Number :=
  fun rest =>
    if powerLimit < power.value then
      if (Number.parts whole fraction).1 ≠ 0 ∧ power.negative = false then
        Fault.raise .numberOutOfRange rest
      else .ok (.real negative .zero, rest.dropWhile isDigit)
    else
      match Number.real? negative whole fraction power.exponent with
      | some number => .ok (number, rest)
      | none => Fault.raise .numberOutOfRange rest

/-- A number after its sign. -/
def number (negative : Bool) : Reader Number := fun bytes => do
  let (whole, rest) ← wholeDigits bytes
  let (fraction, rest) ← fractionDigits rest
  let (power, rest) ← power rest
  match fraction, power with
  | none, none =>
    match Number.ofWhole? negative (digitValues whole) with
    | some number => return (number, rest)
    | none => Fault.raise .numberOutOfRange rest
  | fraction, power =>
    scientific negative (digitValues whole) (digitValues (fraction.getD []))
      (power.getD ⟨false, 0⟩) rest

/-! ## Lists and objects -/

/-- The items after one that has been read. Every round uses up one of the fuel
and at least one byte. -/
def moreItems (item : Reader Value) : Nat → List Value → Reader (List Value)
  | 0, _, bytes => Fault.raise .endInList bytes
  | fuel + 1, items, bytes =>
    match skipSpace bytes with
    | [] => Fault.raise .endInList []
    | byte :: rest =>
      if byte = ']'.toUInt8 then .ok (items.reverse, rest)
      else if byte = ','.toUInt8 then
        match skipSpace rest with
        | [] => Fault.raise .endInValue []
        | next :: after =>
          if next = ']'.toUInt8 then Fault.raise .trailingComma after
          else do
            let (value, rest) ← item (next :: after)
            moreItems item fuel (value :: items) rest
      else Fault.raise .noListSeparator rest

/-- The items of a list after its opening bracket. -/
def items (fuel : Nat) (item : Reader Value) : Reader (List Value) := fun bytes =>
  match skipSpace bytes with
  | [] => Fault.raise .endInList []
  | byte :: rest =>
    if byte = ']'.toUInt8 then .ok ([], rest)
    else do
      let (value, rest) ← item (byte :: rest)
      moreItems item fuel [value] rest

/-- A member of an object after the opening quote of its key. -/
def member (item : Reader Value) : Reader (String × Value) := fun bytes => do
  let (key, rest) ← string bytes
  match skipSpace rest with
  | [] => Fault.raise .endInObject []
  | byte :: rest =>
    if byte = ':'.toUInt8 then
      let (value, rest) ← item rest
      return ((key, value), rest)
    else Fault.raise .noColon rest

/-- The members after one that has been read, with fuel as for the items of a
list. -/
def moreMembers (item : Reader Value) :
    Nat → List (String × Value) → Reader (List (String × Value))
  | 0, _, bytes => Fault.raise .endInObject bytes
  | fuel + 1, members, bytes =>
    match skipSpace bytes with
    | [] => Fault.raise .endInObject []
    | byte :: rest =>
      if byte = '\x7d'.toUInt8 then .ok (members.reverse, rest)
      else if byte = ','.toUInt8 then
        match skipSpace rest with
        | [] => Fault.raise .endInValue []
        | next :: after =>
          if next = '"'.toUInt8 then do
            let (read, rest) ← member item after
            moreMembers item fuel (read :: members) rest
          else if next = '\x7d'.toUInt8 then Fault.raise .trailingComma after
          else Fault.raise .keyNotString after
      else Fault.raise .noObjectSeparator rest

/-- The members of an object after its opening brace. -/
def members (fuel : Nat) (item : Reader Value) : Reader (List (String × Value)) := fun bytes =>
  match skipSpace bytes with
  | [] => Fault.raise .endInObject []
  | byte :: rest =>
    if byte = '\x7d'.toUInt8 then .ok ([], rest)
    else if byte = '"'.toUInt8 then do
      let (read, rest) ← member item rest
      moreMembers item fuel [read] rest
    else Fault.raise .keyNotString rest

/-! ## Values -/

/-- The remaining letters of a word. -/
def word (value : Value) : Bytes → Reader Value
  | [], bytes => .ok (value, bytes)
  | _ :: _, [] => Fault.raise .endInValue []
  | letter :: letters, byte :: rest =>
    if byte = letter then word value letters rest else Fault.raise .unknownWord rest

/-- A value, given the reader for the values inside it if there may be any. -/
def valueWith (fuel : Nat) (inner : Option (Reader Value)) : Reader Value := fun bytes =>
  match skipSpace bytes with
  | [] => Fault.raise .endInValue []
  | byte :: rest =>
    if byte = 'n'.toUInt8 then word .null (Utf8.encode ['u', 'l', 'l']) rest
    else if byte = 't'.toUInt8 then word (.bool true) (Utf8.encode ['r', 'u', 'e']) rest
    else if byte = 'f'.toUInt8 then
      word (.bool false) (Utf8.encode ['a', 'l', 's', 'e']) rest
    else if byte = '"'.toUInt8 then do
      let (text, rest) ← string rest
      return (.string text, rest)
    else if byte = '-'.toUInt8 then do
      let (value, rest) ← number true rest
      return (.number value, rest)
    else if isDigit byte then do
      let (value, rest) ← number false (byte :: rest)
      return (.number value, rest)
    else if byte = '['.toUInt8 then
      match inner with
      | none => Fault.raise .nestedTooDeep rest
      | some item => do
        let (read, rest) ← items fuel item rest
        return (.array read, rest)
    else if byte = '\x7b'.toUInt8 then
      match inner with
      | none => Fault.raise .nestedTooDeep rest
      | some item => do
        let (read, rest) ← members fuel item rest
        return (.object read, rest)
    else Fault.raise .noValue rest

/-- A value with at most the given number of lists and objects inside one
another. -/
def value (fuel : Nat) : Nat → Reader Value
  | 0 => valueWith fuel none
  | depth + 1 => valueWith fuel (some (value fuel depth))

/-- The greatest nesting of a text that is read. -/
def depthLimit : Nat := 127

/-- The value of a whole text, or the failure with its place. -/
def Value.parse (bytes : Bytes) : Except SyntaxError Value :=
  match value bytes.length depthLimit bytes with
  | .error fault => .error (fault.locate bytes)
  | .ok (read, rest) =>
    match skipSpace rest with
    | [] => .ok read
    | _ :: after => .error (Fault.locate bytes ⟨.trailingCharacters, after, 0⟩)

end ProxyFilter.Json
