import ProxyFilter.Binary64.Shortest
import ProxyFilter.Digits

/-!
# Numbers of a JSON text

A number is kept exactly when it is written as a whole number that fits 64 bits.
Every other number is kept as a binary64 value.
-/

namespace ProxyFilter.Json

/-- A number as it is kept after reading. -/
inductive Number where
  /-- A whole number that fits 64 bits, with or without a sign. -/
  | integer (value : Int)
  /-- A sign and a finite binary64 magnitude. Zero has a sign too. -/
  | real (negative : Bool) (magnitude : Binary64)
  deriving DecidableEq, Repr

namespace Number

/-- The whole number written by a sign and digits, if it fits 64 bits. One with
more than twenty digits never does, and zero with a sign is none. -/
def integer? (negative : Bool) (digits : List Nat) : Option Int :=
  if 20 < digits.length then none
  else
    let size := Digits.value digits
    if !negative && size < Nat.pow 2 64 then some size
    else if negative && 0 < size && size ≤ Nat.pow 2 63 then some (-size)
    else none

/-- The digits of a number that count, as a whole number and the power of ten of
its last digit. Digits that do not fit 64 bits count as places before the point
and not at all behind it. -/
def parts (whole fraction : List Nat) : Nat × Int :=
  let (leading, dropped) := Digits.gather 0 whole
  let (significand, ignored) := Digits.gather leading fraction
  (significand, dropped.length + ignored.length - fraction.length)

/-- The number `± whole.fraction · 10 ^ power` as a binary64 value, or nothing
when it is infinite. -/
def real? (negative : Bool) (whole fraction : List Nat) (power : Int) : Option Number :=
  let (significand, exponent) := parts whole fraction
  (Binary64.scaled? significand (exponent + power)).map (.real negative)

/-- The number written by a sign and digits alone. What is no whole number of 64
bits is a binary64 value. -/
def ofWhole? (negative : Bool) (digits : List Nat) : Option Number :=
  match integer? negative digits with
  | some value => some (.integer value)
  | none => real? negative digits [] 0

/-- How a decimal is laid out: positional, always with a fraction, from 1e-5 up
to but not including 1e16, and otherwise one digit before the point and a
signed power of ten. -/
def layout (d : Decimal) : List Char :=
  let digits := Nat.toDigits 10 d.digits
  let point : Int := digits.length + d.exponent
  if -5 < point ∧ point ≤ 0 then
    ['0', '.'] ++ List.replicate (-point).toNat '0' ++ digits
  else if 0 < point ∧ point ≤ 16 then
    if digits.length ≤ point.toNat then
      digits ++ List.replicate (point.toNat - digits.length) '0' ++ ['.', '0']
    else digits.take point.toNat ++ '.' :: digits.drop point.toNat
  else
    let fraction := if digits.length = 1 then [] else '.' :: digits.drop 1
    let power := point - 1
    let sign := if power < 0 then '-' else '+'
    digits.take 1 ++ fraction ++ ['e', sign] ++ Nat.toDigits 10 power.natAbs

/-- The written form of a whole number. -/
def whole : Int → List Char
  | .ofNat n => Nat.toDigits 10 n
  | .negSucc n => '-' :: Nat.toDigits 10 (n + 1)

/-- The written form of a number. -/
def text : Number → List Char
  | .integer value => whole value
  | .real negative magnitude =>
    let sign := if negative then ['-'] else []
    if magnitude.mantissa = 0 then sign ++ ['0', '.', '0']
    else sign ++ layout (Decimal.shortest magnitude)

end Number

end ProxyFilter.Json
