import ProxyFilter.Bytes

/-!
# Functions that a scripted proxy offers

Each takes the bytes of its argument to the bytes of its result, or to no data
at all.
-/

namespace ProxyFilter

/-- A function of the proxy on bytes. -/
abbrev ForeignFunction := Bytes → Option Bytes

namespace ForeignFunction

/-- The bytes in reverse order. -/
def reverse : ForeignFunction := fun bytes => some bytes.reverse

/-- The bytes with ASCII small letters made capital. -/
def upper : ForeignFunction := fun bytes => some (bytes.map Bytes.upperByte)

/-- The bytes as they are. -/
def identity : ForeignFunction := some

/-- The bytes twice. -/
def double : ForeignFunction := fun bytes => some (bytes ++ bytes)

/-- The number of bytes in decimal digits. -/
def length : ForeignFunction := fun bytes => some (Bytes.ofNat bytes.length)

/-- The same bytes for every argument. -/
def constant (result : Bytes) : ForeignFunction := fun _ => some result

/-- No data for any argument. -/
def noData : ForeignFunction := fun _ => none

end ForeignFunction

end ProxyFilter
