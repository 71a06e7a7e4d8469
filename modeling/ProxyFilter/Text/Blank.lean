/-!
# White space of Unicode and trimming

The characters with the Unicode property `White_Space`, and the removal of them
from both ends of a text.
-/

namespace ProxyFilter.Text

/-- Membership in `White_Space`. -/
def isBlank (char : Char) : Bool :=
  let n := char.toNat
  (0x9 ≤ n && n ≤ 0xD) || n == 0x20 || n == 0x85 || n == 0xA0 || n == 0x1680 ||
    (0x2000 ≤ n && n ≤ 0x200A) || n == 0x2028 || n == 0x2029 || n == 0x202F ||
    n == 0x205F || n == 0x3000

/-- A text without the white space at its start. -/
def trimStart (text : List Char) : List Char := text.dropWhile isBlank

/-- A text without the white space at its end. -/
def trimEnd (text : List Char) : List Char := (trimStart text.reverse).reverse

/-- A text without the white space at both ends. -/
def trim (text : List Char) : List Char := trimEnd (trimStart text)

end ProxyFilter.Text
