import Mathlib.Algebra.Field.Rat
import ProxyFilter.Json.Reader

/-!
# The grammar of JSON texts

A text is one value between white space. What is a value, and which value it is, is told here
piece by piece, without a reader: the characters of a string and how each may be spelled, the
parts of a number, and lists and objects as rows of parts between commas. Values are nested to
a given depth at most.
-/

namespace ProxyFilter.Json.Grammar

open Text

/-- White space: blanks, tabs, line feeds and carriage returns. -/
def IsBlank (bytes : Bytes) : Prop :=
  ∀ byte ∈ bytes, byte = 0x20 ∨ byte = 0x09 ∨ byte = 0x0A ∨ byte = 0x0D

/-! ## Strings -/

/-- The letters behind a backslash, and what each of them stands for. -/
def shortEscapes : List (Char × Char) :=
  [('"', '"'), ('\\', '\\'), ('/', '/'), ('b', '\x08'), ('f', '\x0C'), ('n', '\n'), ('r', '\r'),
    ('t', '\t')]

/-- A hexadecimal digit of either case, and its value. -/
inductive IsHexDigit : UInt8 → Nat → Prop
  /-- The ten digits stand for the numbers from zero on. -/
  | decimal {byte : UInt8} (h : 0x30 ≤ byte.toNat ∧ byte.toNat ≤ 0x39) :
    IsHexDigit byte (byte.toNat - 0x30)
  /-- The capitals from `A` to `F` stand for those from ten on. -/
  | capital {byte : UInt8} (h : 0x41 ≤ byte.toNat ∧ byte.toNat ≤ 0x46) :
    IsHexDigit byte (byte.toNat - 0x41 + 10)
  /-- So do the small letters. -/
  | small {byte : UInt8} (h : 0x61 ≤ byte.toNat ∧ byte.toNat ≤ 0x66) :
    IsHexDigit byte (byte.toNat - 0x61 + 10)

/-- Four hexadecimal digits, and the number that they write. -/
inductive IsHex : Bytes → Nat → Prop
  /-- The value of each digit counts sixteen times that of the next one. -/
  | four {a b c d : UInt8} {i j k l : Nat} (ha : IsHexDigit a i) (hb : IsHexDigit b j)
      (hc : IsHexDigit c k) (hd : IsHexDigit d l) :
    IsHex [a, b, c, d] (((i * 16 + j) * 16 + k) * 16 + l)

/-- The escapes that may stand for a character in a string. -/
inductive IsEscape : Bytes → Char → Prop
  /-- A backslash and a letter. -/
  | short (letter c : Char) (h : (letter, c) ∈ shortEscapes) :
    IsEscape (Utf8.encode ['\\', letter]) c
  /-- A backslash, the letter `u` and the number of the character, if that is no half of a
  pair. -/
  | unit (digits : Bytes) (unit : Nat) (hdigits : IsHex digits unit)
      (hunit : unit < 0xD800 ∨ 0xDFFF < unit) :
    IsEscape (Utf8.encode ['\\', 'u'] ++ digits) (Char.ofNat unit)
  /-- The two halves of a pair, each behind a backslash and the letter `u`. -/
  | pair (digits more : Bytes) (high low : Nat) (hdigits : IsHex digits high)
      (hmore : IsHex more low) (hhigh : 0xD800 ≤ high ∧ high ≤ 0xDBFF)
      (hlow : 0xDC00 ≤ low ∧ low ≤ 0xDFFF) :
    IsEscape (Utf8.encode ['\\', 'u'] ++ digits ++ (Utf8.encode ['\\', 'u'] ++ more))
      (Char.ofNat (0x10000 + (high - 0xD800) * 0x400 + (low - 0xDC00)))

/-- The bytes that may stand for a character in a string. -/
inductive Spells : Bytes → Char → Prop
  /-- The character itself, unless it is a control character, a quote or a backslash. -/
  | plain (c : Char) (hcontrol : 0x20 ≤ c.toNat) (hquote : c ≠ '"') (hbackslash : c ≠ '\\') :
    Spells (Utf8.encode [c]) c
  /-- An escape of the character. -/
  | escape {spelling : Bytes} {c : Char} (h : IsEscape spelling c) : Spells spelling c

/-- What may stand between the quotes of a string with some characters. -/
inductive IsInside : Bytes → List Char → Prop
  /-- Nothing stands for no character. -/
  | nil : IsInside [] []
  /-- One character stands before the others. -/
  | cons {spelling rest : Bytes} {c : Char} {text : List Char} (hfirst : Spells spelling c)
      (hrest : IsInside rest text) : IsInside (spelling ++ rest) (c :: text)

/-- A string in quotes. -/
inductive IsString : Bytes → String → Prop
  /-- The quotes stand around the characters. -/
  | quoted {inside : Bytes} {text : List Char} (h : IsInside inside text) :
    IsString (Utf8.encode ['"'] ++ inside ++ Utf8.encode ['"']) (String.ofList text)

/-! ## Numbers -/

/-- A power of ten behind its letter. -/
structure PowerLiteral where
  /-- The letter, small or capital. -/
  letter : Char
  /-- The sign, if there is one. -/
  sign : Option Char
  /-- The digits. -/
  digits : Bytes

/-- A number by the parts that are written. -/
structure Literal where
  /-- Whether it begins with a minus. -/
  negative : Bool
  /-- The digits before the point. -/
  whole : Bytes
  /-- The digits behind the point, if there is one. -/
  fraction : Option Bytes
  /-- The power of ten, if there is one. -/
  power : Option PowerLiteral

/-- One digit or more, from `0` to `9`. -/
def AreDigits (digits : Bytes) : Prop :=
  digits ≠ [] ∧ ∀ digit ∈ digits, 0x30 ≤ digit.toNat ∧ digit.toNat ≤ 0x39

namespace PowerLiteral

/-- The parts are of the right kind. -/
structure WellFormed (power : PowerLiteral) : Prop where
  /-- The letter is the one for powers. -/
  letter : power.letter = 'e' ∨ power.letter = 'E'
  /-- The sign is one. -/
  sign : ∀ sign ∈ power.sign, sign = '+' ∨ sign = '-'
  /-- There are digits. -/
  digits : AreDigits power.digits

/-- The bytes of a power. -/
def bytes (power : PowerLiteral) : Bytes :=
  Utf8.encode (power.letter :: power.sign.toList) ++ power.digits

/-- The power as it is read. -/
def power (power : PowerLiteral) : Power :=
  ⟨power.sign == some '-', Digits.value (digitValues power.digits)⟩

end PowerLiteral

namespace Literal

/-- The parts are of the right kind. -/
structure WellFormed (literal : Literal) : Prop where
  /-- There are digits before the point. -/
  whole : AreDigits literal.whole
  /-- A leading zero stands alone. -/
  zero : literal.whole.head? = some '0'.toUInt8 → literal.whole = ['0'.toUInt8]
  /-- There are digits behind a point. -/
  fraction : ∀ digits ∈ literal.fraction, AreDigits digits
  /-- A power is well-formed. -/
  power : ∀ power ∈ literal.power, power.WellFormed

/-- The bytes of a number behind its sign. -/
def unsigned (literal : Literal) : Bytes :=
  literal.whole ++ (literal.fraction.elim [] fun digits => '.'.toUInt8 :: digits) ++
    literal.power.elim [] PowerLiteral.bytes

/-- The bytes of a number. -/
def bytes (literal : Literal) : Bytes :=
  if literal.negative then '-'.toUInt8 :: literal.unsigned else literal.unsigned

/-- The power of ten, which is zero where none is written. -/
def scale (literal : Literal) : Power :=
  (literal.power.map PowerLiteral.power).getD ⟨false, 0⟩

/-- The magnitude that is written. -/
def written (literal : Literal) : ℚ :=
  let places := literal.fraction.getD []
  Digits.value (digitValues (literal.whole ++ places)) *
    10 ^ (literal.scale.exponent - places.length)

/-- The number with a fraction or power as it is kept, unless it is out of range. A power over the
limit makes it zero or puts it out of range. -/
def scientific? (negative : Bool) (whole fraction : List Nat) (power : Power) : Option Number :=
  if powerLimit < power.value then
    if (Number.parts whole fraction).1 ≠ 0 ∧ power.negative = false then none
    else some (.real negative .zero)
  else Number.real? negative whole fraction power.exponent

/-- The number as it is kept, unless it is out of range. -/
def value? (literal : Literal) : Option Number :=
  match literal.fraction, literal.power with
  | none, none => Number.ofWhole? literal.negative (digitValues literal.whole)
  | fraction, _ =>
    scientific? literal.negative (digitValues literal.whole) (digitValues (fraction.getD []))
      literal.scale

end Literal

/-! ## Values -/

/-- Something between white space. -/
inductive Padded {α : Type} (Part : Bytes → α → Prop) : Bytes → α → Prop
  /-- White space stands on both sides. -/
  | between {before part after : Bytes} {value : α} (hbefore : IsBlank before)
      (hpart : Part part value) (hafter : IsBlank after) :
    Padded Part (before ++ part ++ after) value

/-- One part or more, with commas between them. -/
inductive Separated {α : Type} (Part : Bytes → α → Prop) : Bytes → List α → Prop
  /-- There is one part. -/
  | one {part : Bytes} {value : α} (h : Part part value) : Separated Part part [value]
  /-- A comma stands behind the first part. -/
  | more {part rest : Bytes} {value : α} {values : List α} (hfirst : Part part value)
      (hrest : Separated Part rest values) :
    Separated Part (part ++ ','.toUInt8 :: rest) (value :: values)

/-- What stands between the brackets of a list or the braces of an object. -/
inductive IsRow {α : Type} (Part : Bytes → α → Prop) : Bytes → List α → Prop
  /-- Only white space stands there if there is no part. -/
  | empty {blank : Bytes} (h : IsBlank blank) : IsRow Part blank []
  /-- The parts stand between white space and commas. -/
  | parts {body : Bytes} {values : List α} (h : Separated (Padded Part) body values) :
    IsRow Part body values

/-- A member of an object: a key, a colon and a value. -/
inductive IsMember (Inner : Bytes → Value → Prop) : Bytes → String × Value → Prop
  /-- White space may stand around the colon. -/
  | colon {key before after part : Bytes} {name : String} {value : Value}
      (hkey : IsString key name) (hbefore : IsBlank before) (hafter : IsBlank after)
      (hvalue : Inner part value) :
    IsMember Inner (key ++ (before ++ ':'.toUInt8 :: (after ++ part))) (name, value)

/-- A value without lists and objects. -/
inductive IsScalar : Bytes → Value → Prop
  /-- The word for nothing. -/
  | null : IsScalar (Utf8.encode ['n', 'u', 'l', 'l']) .null
  /-- The word for what is so. -/
  | truth : IsScalar (Utf8.encode ['t', 'r', 'u', 'e']) (.bool true)
  /-- The word for what is not. -/
  | falsehood : IsScalar (Utf8.encode ['f', 'a', 'l', 's', 'e']) (.bool false)
  /-- A string. -/
  | string {bytes : Bytes} {text : String} (h : IsString bytes text) :
    IsScalar bytes (.string text)
  /-- A number. One that is out of range may be taken for any number. -/
  | number (literal : Literal) (number : Number) (h : literal.WellFormed)
      (hvalue : ∀ kept, literal.value? = some kept → number = kept) :
    IsScalar literal.bytes (.number number)

/-- A list or an object, given what is a value inside it. -/
inductive IsCompound (Inner : Bytes → Value → Prop) : Bytes → Value → Prop
  /-- A list of values in brackets. -/
  | list {body : Bytes} {items : List Value} (h : IsRow Inner body items) :
    IsCompound Inner ('['.toUInt8 :: (body ++ [']'.toUInt8])) (.array items)
  /-- An object of members in braces. -/
  | object {body : Bytes} {members : List (String × Value)}
      (h : IsRow (IsMember Inner) body members) :
    IsCompound Inner ('\x7b'.toUInt8 :: (body ++ ['\x7d'.toUInt8])) (.object members)

/-- A value with at most a number of lists and objects inside one another. -/
def IsValue : Nat → Bytes → Value → Prop
  | 0, bytes, value => IsScalar bytes value
  | depth + 1, bytes, value => IsScalar bytes value ∨ IsCompound (IsValue depth) bytes value

/-- A JSON text: white space, one value with at most 127 lists and objects inside one another,
and white space. -/
def IsText (bytes : Bytes) (value : Value) : Prop := Padded (IsValue 127) bytes value

/-! ## Admitted numbers -/

namespace Literal

/-- The number is kept. -/
def IsKept (literal : Literal) : Prop := literal.value? ≠ none

/-- The number is written with a magnitude that is safely finite. The greatest finite binary64
magnitude is a little greater, and so are some numbers that are kept. -/
structure IsInRange (literal : Literal) : Prop where
  /-- The magnitude is at most 1.797e308. -/
  magnitude : literal.written ≤ 1797 * 10 ^ 305
  /-- A positive power of 2^31 or more stands behind zeros only. -/
  power : 2 ^ 31 ≤ literal.scale.value → literal.scale.negative = false → literal.written = 0

/-- The number is written as an integer that fits 64 bits, with or without a sign. A zero with a
minus is none. -/
structure IsInteger (literal : Literal) : Prop where
  /-- There is no point. -/
  fraction : literal.fraction = none
  /-- There is no power. -/
  power : literal.power = none
  /-- Without a minus the number is less than 2^64. -/
  unsigned : literal.negative = false → Digits.value (digitValues literal.whole) < Nat.pow 2 64
  /-- With a minus it is no less than -2^63, and not zero. -/
  signed : literal.negative = true → 0 < Digits.value (digitValues literal.whole) ∧
    Digits.value (digitValues literal.whole) ≤ Nat.pow 2 63

end Literal

/-- A value without lists and objects, given which numbers are admitted. -/
inductive IsScalarOf (Admits : Literal → Prop) : Bytes → Value → Prop
  /-- A word or a string. -/
  | other {bytes : Bytes} {value : Value} (h : IsScalar bytes value)
      (hother : ∀ number, value ≠ .number number) : IsScalarOf Admits bytes value
  /-- An admitted number. One that is out of range may be taken for any number. -/
  | number (literal : Literal) (number : Number) (h : literal.WellFormed)
      (hadmits : Admits literal) (hvalue : ∀ kept, literal.value? = some kept → number = kept) :
    IsScalarOf Admits literal.bytes (.number number)

/-- A value with at most a number of lists and objects inside one another, and with admitted
numbers only. -/
def IsValueOf (Admits : Literal → Prop) : Nat → Bytes → Value → Prop
  | 0, bytes, value => IsScalarOf Admits bytes value
  | depth + 1, bytes, value =>
    IsScalarOf Admits bytes value ∨ IsCompound (IsValueOf Admits depth) bytes value

/-- A JSON text with admitted numbers only. -/
def IsTextOf (Admits : Literal → Prop) (bytes : Bytes) (value : Value) : Prop :=
  Padded (IsValueOf Admits 127) bytes value

section

variable {α : Type} {Part Other : Bytes → α → Prop} {Inner Outer : Bytes → Value → Prop}
  {Admits Allows : Literal → Prop} {depth : Nat} {bytes : Bytes} {value : Value}

/-- What stands between white space may be told in another way. -/
theorem Padded.imp {value : α} (himp : ∀ bytes value, Part bytes value → Other bytes value)
    (h : Padded Part bytes value) : Padded Other bytes value := by
  cases h with
  | between hbefore hpart hafter => exact .between hbefore (himp _ _ hpart) hafter

/-- White space need not stand anywhere. -/
theorem Padded.bare {value : α} (h : Part bytes value) : Padded Part bytes value := by
  have hnone : IsBlank [] := nofun
  have hbetween := Padded.between hnone h hnone
  rwa [List.nil_append, List.append_nil] at hbetween

/-- The parts between commas may be told in another way. -/
theorem Separated.imp {values : List α} (himp : ∀ bytes value, Part bytes value → Other bytes value)
    (h : Separated Part bytes values) : Separated Other bytes values := by
  induction h with
  | one h => exact .one (himp _ _ h)
  | more hfirst _ ih => exact .more (himp _ _ hfirst) ih

/-- So may the parts of a row. -/
theorem IsRow.imp {values : List α} (himp : ∀ bytes value, Part bytes value → Other bytes value)
    (h : IsRow Part bytes values) : IsRow Other bytes values := by
  cases h with
  | empty h => exact .empty h
  | parts h => exact .parts (h.imp fun _ _ => Padded.imp himp)

/-- Every value of a row is that of a part. -/
theorem IsRow.exists_part {values : List α} (h : IsRow Part bytes values) :
    ∀ value ∈ values, ∃ part, Part part value := by
  have hpadded : ∀ {bytes : Bytes} {value : α}, Padded Part bytes value →
      ∃ part, Part part value := by
    rintro _ _ ⟨_, hpart, _⟩
    exact ⟨_, hpart⟩
  cases h with
  | empty h => exact nofun
  | parts h =>
    induction h with
    | one h => exact List.forall_mem_singleton.mpr (hpadded h)
    | more hfirst _ ih => exact List.forall_mem_cons.mpr ⟨hpadded hfirst, ih⟩

/-- No white space need stand around the colon of a member. -/
theorem IsMember.bare {key part : Bytes} {name : String} (hkey : IsString key name)
    (hvalue : Inner part value) : IsMember Inner (key ++ ':'.toUInt8 :: part) (name, value) := by
  have hnone : IsBlank [] := nofun
  exact .colon hkey hnone hnone hvalue

/-- The value of a member may be told in another way. -/
theorem IsMember.imp {member : String × Value}
    (himp : ∀ bytes value, Inner bytes value → Outer bytes value)
    (h : IsMember Inner bytes member) : IsMember Outer bytes member := by
  cases h with
  | colon hkey hbefore hafter hvalue => exact .colon hkey hbefore hafter (himp _ _ hvalue)

/-- So may the values inside a list or object. -/
theorem IsCompound.imp (himp : ∀ bytes value, Inner bytes value → Outer bytes value)
    (h : IsCompound Inner bytes value) : IsCompound Outer bytes value := by
  cases h with
  | list h => exact .list (h.imp himp)
  | object h => exact .object (h.imp fun _ _ => IsMember.imp himp)

/-- The word for nothing has no number. -/
theorem IsScalarOf.null : IsScalarOf Admits (Utf8.encode ['n', 'u', 'l', 'l']) .null :=
  .other .null nofun

/-- Nor has the word for what is so. -/
theorem IsScalarOf.truth : IsScalarOf Admits (Utf8.encode ['t', 'r', 'u', 'e']) (.bool true) :=
  .other .truth nofun

/-- Nor has the word for what is not. -/
theorem IsScalarOf.falsehood :
    IsScalarOf Admits (Utf8.encode ['f', 'a', 'l', 's', 'e']) (.bool false) :=
  .other .falsehood nofun

/-- Nor has a string. -/
theorem IsScalarOf.string {text : String} (h : IsString bytes text) :
    IsScalarOf Admits bytes (.string text) :=
  .other (.string h) nofun

/-- A value without lists and objects is one at every depth. -/
theorem IsScalarOf.isValueOf (h : IsScalarOf Admits bytes value) :
    IsValueOf Admits depth bytes value := by
  cases depth with
  | zero => exact h
  | succ depth => exact .inl h

/-- A word, a string or an admitted number is a value without lists and objects. -/
theorem IsScalarOf.isScalar (h : IsScalarOf Admits bytes value) : IsScalar bytes value := by
  cases h with
  | other h => exact h
  | number literal number h _ hvalue => exact .number literal number h hvalue

/-- Every number may be admitted. -/
theorem IsScalar.admitted (h : IsScalar bytes value) : IsScalarOf (fun _ => True) bytes value := by
  cases h with
  | null => exact .null
  | truth => exact .truth
  | falsehood => exact .falsehood
  | string h => exact .string h
  | number literal number h hvalue => exact .number literal number h trivial hvalue

/-- What is admitted may be allowed. -/
theorem IsScalarOf.imp (himp : ∀ literal, literal.WellFormed → Admits literal → Allows literal)
    (h : IsScalarOf Admits bytes value) : IsScalarOf Allows bytes value := by
  cases h with
  | other h hother => exact .other h hother
  | number literal number h hadmits hvalue =>
    exact .number literal number h (himp literal h hadmits) hvalue

/-- So it may at every depth. -/
theorem IsValueOf.imp (himp : ∀ literal, literal.WellFormed → Admits literal → Allows literal)
    (h : IsValueOf Admits depth bytes value) : IsValueOf Allows depth bytes value := by
  induction depth generalizing bytes value with
  | zero => exact IsScalarOf.imp himp h
  | succ depth ih =>
    exact Or.imp (IsScalarOf.imp himp) (IsCompound.imp fun _ _ => ih) h

/-- A value with admitted numbers only is a value. -/
theorem IsValueOf.isValue (h : IsValueOf Admits depth bytes value) : IsValue depth bytes value := by
  induction depth generalizing bytes value with
  | zero => exact IsScalarOf.isScalar h
  | succ depth ih => exact Or.imp IsScalarOf.isScalar (IsCompound.imp fun _ _ => ih) h

/-- In a value every number may be admitted. -/
theorem IsValue.admitted (h : IsValue depth bytes value) :
    IsValueOf (fun _ => True) depth bytes value := by
  induction depth generalizing bytes value with
  | zero => exact IsScalar.admitted h
  | succ depth ih => exact Or.imp IsScalar.admitted (IsCompound.imp fun _ _ => ih) h

end

end ProxyFilter.Json.Grammar
