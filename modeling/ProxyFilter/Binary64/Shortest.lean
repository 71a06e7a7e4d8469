import ProxyFilter.Binary64

/-!
# The shortest decimal of a binary64 magnitude

Every decimal between the two half way points around a magnitude is read back
as that magnitude. Among them the one with the fewest digits is chosen, and
among those the nearest one, where a tie goes to the even digit.
-/

namespace ProxyFilter

/-- The decimal value `digits · 10 ^ exponent`. -/
structure Decimal where
  /-- The digits as one number. -/
  digits : Nat
  /-- The power of ten of the last digit. -/
  exponent : Int
  deriving DecidableEq, Repr

namespace Decimal

/-- Whether `a · 2 ^ i` is at most `b · 10 ^ j`, by exact products. -/
def binaryLe (a : Nat) (i : Int) (b : Nat) (j : Int) : Bool :=
  a * Nat.pow 2 i.toNat * Nat.pow 10 (-j).toNat ≤ b * Nat.pow 10 j.toNat * Nat.pow 2 (-i).toNat

/-- Whether `b · 10 ^ j` is at most `a · 2 ^ i`, by exact products. -/
def decimalLe (b : Nat) (j : Int) (a : Nat) (i : Int) : Bool :=
  b * Nat.pow 10 j.toNat * Nat.pow 2 (-i).toNat ≤ a * Nat.pow 2 i.toNat * Nat.pow 10 (-j).toNat

/-- Whether a decimal is read back as the magnitude. The end points belong to
an even mantissa, and below a power of two the lower one is closer. -/
def readsBack (x : Binary64) (d : Decimal) : Bool :=
  let unit := x.exponent - 2
  let upper := 4 * x.mantissa + 2
  let lower :=
    4 * x.mantissa - if x.mantissa = Nat.pow 2 52 ∧ -1074 < x.exponent then 1 else 2
  if x.mantissa % 2 = 0 then
    binaryLe lower unit d.digits d.exponent && decimalLe d.digits d.exponent upper unit
  else
    !decimalLe d.digits d.exponent lower unit && !binaryLe upper unit d.digits d.exponent

/-- How many digits a positive quotient has before the point; when it has
none, minus the count of zeros that follow the point. -/
def magnitudeOf (num den : Nat) : Int :=
  if den ≤ num then ((Nat.toDigits 10 (num / den)).length : Int)
  else
    let inverse := (den + num - 1) / num
    1 - ((Nat.toDigits 10 (inverse - 1)).length : Int)

/-- The multiple of `10 ^ unit` nearest to a positive magnitude `num / den`, if
one of its two neighbours among these multiples reads back. -/
def onGrid? (x : Binary64) (num den : Nat) (unit : Int) : Option Decimal :=
  let n := num * Nat.pow 10 (-unit).toNat
  let d := den * Nat.pow 10 unit.toNat
  let below : Decimal := ⟨n / d, unit⟩
  let above : Decimal := ⟨n / d + 1, unit⟩
  let nearer : Decimal := ⟨Binary64.roundDiv n d, unit⟩
  match readsBack x below, readsBack x above with
  | true, true => some nearer
  | true, false => some below
  | false, true => some above
  | false, false => none

/-- Drop the zeros at the end of the digits. The fuel bounds their number. -/
def dropZeros : Nat → Decimal → Decimal
  | 0, d => d
  | fuel + 1, d =>
    if d.digits % 10 = 0 then dropZeros fuel ⟨d.digits / 10, d.exponent + 1⟩ else d

/-- The shortest decimal that reads back as a positive magnitude. Seventeen
digits always suffice. -/
def shortest (x : Binary64) : Decimal :=
  let magnitude := magnitudeOf x.num x.den
  let grids := (List.range' 1 17).map fun (count : Nat) => magnitude - count
  dropZeros 17 ((grids.findSome? (onGrid? x x.num x.den)).getD ⟨0, 0⟩)

end Decimal

end ProxyFilter
