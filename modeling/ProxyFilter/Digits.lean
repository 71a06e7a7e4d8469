/-!
# Runs of decimal digits

A run holds the digits of a whole number, the most significant one first. A long
run is gathered into a number of 64 bits up to the first digit that does not fit.
-/

namespace ProxyFilter.Digits

/-- The number that a run writes. -/
def value (digits : List Nat) : Nat :=
  digits.foldl (fun number digit => number * 10 + digit) 0

/-- Continue a number with the digits of a run as long as it fits 64 bits. The
digits that are left begin with the first one that does not fit. -/
def gather : Nat → List Nat → Nat × List Nat
  | number, [] => (number, [])
  | number, digit :: digits =>
    let next := number * 10 + digit
    if next < Nat.pow 2 64 then gather next digits else (number, digit :: digits)

end ProxyFilter.Digits
