import ProxyFilter.Text.Extender

/-!
# Quoting a name for a message

A name is put between double quotes so that it stays on its line and can be
told from every other name. What would not show as itself is written by its
code point.
-/

namespace ProxyFilter.Text.Quoted

/-- The code point of a character in braces, in small hexadecimal digits
without padding. -/
def codePoint (char : Char) : List Char :=
  ['\\', 'u', '\x7b'] ++ Nat.toDigits 16 char.toNat ++ ['\x7d']

/-- One character as it stands between the quotes. -/
def escape (char : Char) : List Char :=
  if char = '\x00' then ['\\', '0']
  else if char = '\t' then ['\\', 't']
  else if char = '\r' then ['\\', 'r']
  else if char = '\n' then ['\\', 'n']
  else if char = '"' then ['\\', '"']
  else if char = '\\' then ['\\', '\\']
  else if isExtender char || isUnprintable char then codePoint char
  else [char]

/-- A name between double quotes. -/
def quote (name : List Char) : List Char := '"' :: name.flatMap escape ++ ['"']

end ProxyFilter.Text.Quoted
