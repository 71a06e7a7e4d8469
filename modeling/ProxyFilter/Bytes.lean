/-!
# Byte strings and windows into them

Buffers are read through a window of a start and a greatest size and are
rewritten by replacing such a window. A window never reaches past the end.
-/

namespace ProxyFilter

/-- A body, a property value or a configuration text, before decoding. -/
abbrev Bytes := List UInt8

namespace Bytes

/-- The bytes at `start` and after it, at most `size` of them. There is no
such window when `start` lies at or past the end, even for size zero. -/
def window? (buffer : Bytes) (start size : Nat) : Option Bytes :=
  if start < buffer.length then some ((buffer.drop start).take size) else none

/-- Put `value` in the place of the window of `size` bytes at `start`. What
reaches past the end is clipped, so a late start appends. -/
def splice (buffer : Bytes) (start size : Nat) (value : Bytes) : Bytes :=
  buffer.take start ++ value ++ buffer.drop (start + size)

/-- One byte with ASCII small letters made capital. -/
def upperByte (byte : UInt8) : UInt8 :=
  if 0x61 ≤ byte ∧ byte ≤ 0x7A then byte - 0x20 else byte

/-- The bytes of the decimal digits of a number. -/
def ofNat (n : Nat) : Bytes :=
  (Nat.toDigits 10 n).map fun digit => UInt8.ofNat digit.toNat

/-- The window at the start of a nonempty buffer is a leading piece of it. -/
theorem window?_zero {buffer : Bytes} (h : buffer ≠ []) (size : Nat) :
    window? buffer 0 size = some (buffer.take size) := by
  have hpos : 0 < buffer.length := List.length_pos_iff.mpr h
  simp [window?, hpos]

/-- Replacing the leading window keeps exactly what lies behind it. -/
theorem splice_zero (buffer : Bytes) (size : Nat) (value : Bytes) :
    splice buffer 0 size value = value ++ buffer.drop size := by
  simp [splice]

end Bytes

end ProxyFilter
