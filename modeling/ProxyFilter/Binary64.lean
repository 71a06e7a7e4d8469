/-!
# Finite binary64 magnitudes and rounding to them

A magnitude is a whole number times a power of two. Quotients are rounded to the
nearest magnitude by exact arithmetic on natural numbers, and one that lies half
way goes to the even neighbour. Decimal values are scaled with rounded powers of
ten.
-/

namespace ProxyFilter

/-- The magnitude `mantissa · 2 ^ exponent`. -/
structure Binary64 where
  /-- At most 53 bits. -/
  mantissa : Nat
  /-- The power of two of the last bit, at least -1074. -/
  exponent : Int
  deriving DecidableEq, Repr

namespace Binary64

/-- A quotient rounded to a whole number, where a half goes to the even
neighbour. -/
def roundDiv (num den : Nat) : Nat :=
  let twice := 2 * (num % den)
  if twice < den then num / den
  else if den < twice then num / den + 1
  else num / den + num / den % 2

/-- The quotient `num / (den · 2 ^ exponent)` as a numerator and denominator. -/
def inUnits (num den : Nat) (exponent : Int) : Nat × Nat :=
  (num * Nat.pow 2 (-exponent).toNat, den * Nat.pow 2 exponent.toNat)

/-- The zero magnitude. -/
def zero : Binary64 := ⟨0, -1074⟩

/-- The power of two of the last bit that a positive quotient keeps: 53 bits,
or fewer where the exponent can fall no further. -/
def unitOf (num den : Nat) : Int :=
  let lower := max ((Nat.log2 num : Int) - Nat.log2 den - 53) (-1074)
  let (n, d) := inUnits num den lower
  if Nat.pow 2 53 ≤ n / d then lower + 1 else lower

/-- The magnitude nearest to a quotient, or nothing when that is infinite. -/
def nearest? (num den : Nat) : Option Binary64 :=
  if num = 0 then some zero
  else
    let unit := unitOf num den
    let (n, d) := inUnits num den unit
    let mantissa := roundDiv n d
    let result := if mantissa = Nat.pow 2 53 then ⟨Nat.pow 2 52, unit + 1⟩ else ⟨mantissa, unit⟩
    if 971 < result.exponent then none else some result

/-- The magnitude as a numerator. -/
def num (x : Binary64) : Nat := x.mantissa * Nat.pow 2 x.exponent.toNat

/-- The denominator that goes with it. -/
def den (x : Binary64) : Nat := Nat.pow 2 (-x.exponent).toNat

/-! ## Powers of ten -/

/-- The greatest power of ten that is no infinite magnitude. -/
def tenLimit : Nat := 308

/-- The magnitude nearest to a power of ten. -/
def tenTo? (places : Nat) : Option Binary64 := nearest? (Nat.pow 10 places) 1

/-- The magnitude nearest to the product of two. -/
def times? (x y : Binary64) : Option Binary64 := nearest? (x.num * y.num) (x.den * y.den)

/-- The magnitude nearest to the quotient of two. -/
def over? (x y : Binary64) : Option Binary64 := nearest? (x.num * y.den) (x.den * y.num)

/-- Multiply by a power of ten. Beyond the limit only zero is left as it is. -/
def raise? (x : Binary64) (places : Nat) : Option Binary64 :=
  if places ≤ tenLimit then do x.times? (← tenTo? places)
  else if x.mantissa = 0 then some x
  else none

/-- Divide by a power of ten, where one beyond the limit is divided by in steps
until nothing is left. -/
def lower? (x : Binary64) (places : Nat) : Option Binary64 :=
  if places ≤ tenLimit then do x.over? (← tenTo? places)
  else if x.mantissa = 0 then some x
  else do lower? (← x.over? (← tenTo? tenLimit)) (places - tenLimit)
termination_by places
decreasing_by simp only [tenLimit] at *; omega

/-- The number `significand · 10 ^ exponent`. The significand, the power of ten
and what they give are rounded one after the other. -/
def scaled? (significand : Nat) (exponent : Int) : Option Binary64 := do
  let x ← nearest? significand 1
  if 0 ≤ exponent then x.raise? exponent.toNat else x.lower? (-exponent).toNat

end Binary64

end ProxyFilter
