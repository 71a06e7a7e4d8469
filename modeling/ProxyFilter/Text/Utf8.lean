import ProxyFilter.Bytes

/-!
# Reading bytes as UTF-8

Bytes are read by a machine that stands either between characters or inside an
opened one. It reports every well-formed character, and reports every maximal
ill-formed piece once. The lossy text, the strict text and the length of the
well-formed beginning are three views of that one report.
-/

namespace ProxyFilter.Text.Utf8

/-- A character whose first bytes have been read and whose last has not. -/
structure Opened where
  /-- Continuation bytes still owed after the next one. -/
  further : Nat
  /-- The least byte that continues the character. -/
  low : UInt8
  /-- The greatest byte that continues the character. -/
  high : UInt8
  /-- Payload bits read so far. -/
  bits : Nat
  deriving DecidableEq, Repr

/-- What a byte does between two characters. -/
inductive Lead where
  /-- The byte is a character by itself. -/
  | single (char : Char)
  /-- The byte opens a longer character. -/
  | opens (opened : Opened)
  /-- No character starts with the byte. -/
  | stray
  deriving DecidableEq, Repr

/-- The role of a first byte. The range of the second byte is narrower after
four leads, which keeps out overlong forms, surrogates and values above
U+10FFFF. -/
def lead (byte : UInt8) : Lead :=
  let n := byte.toNat
  if n < 0x80 then .single (Char.ofNat n)
  else if n < 0xC2 then .stray
  else if n < 0xE0 then .opens ⟨0, 0x80, 0xBF, n - 0xC0⟩
  else if n = 0xE0 then .opens ⟨1, 0xA0, 0xBF, 0⟩
  else if n = 0xED then .opens ⟨1, 0x80, 0x9F, 0xD⟩
  else if n < 0xF0 then .opens ⟨1, 0x80, 0xBF, n - 0xE0⟩
  else if n = 0xF0 then .opens ⟨2, 0x90, 0xBF, 0⟩
  else if n < 0xF4 then .opens ⟨2, 0x80, 0xBF, n - 0xF0⟩
  else if n = 0xF4 then .opens ⟨2, 0x80, 0x8F, 4⟩
  else .stray

/-- The report and the new position after a byte read between characters. -/
def start (byte : UInt8) : List (Option Char) × Option Opened :=
  match lead byte with
  | .single char => ([some char], none)
  | .opens opened => ([], some opened)
  | .stray => ([none], none)

/-- One byte. A byte that does not continue an opened character ends an
ill-formed piece before it and is then read between characters. -/
def step : Option Opened → UInt8 → List (Option Char) × Option Opened
  | none, byte => start byte
  | some opened, byte =>
    if opened.low ≤ byte ∧ byte ≤ opened.high then
      let bits := opened.bits * 64 + (byte.toNat - 0x80)
      match opened.further with
      | 0 => ([some (Char.ofNat bits)], none)
      | further + 1 => ([], some ⟨further, 0x80, 0xBF, bits⟩)
    else
      let (report, next) := start byte
      (none :: report, next)

/-- The report over all bytes from a given position. An opened character left
at the end is ill-formed. -/
def scan : Option Opened → Bytes → List (Option Char)
  | none, [] => []
  | some _, [] => [none]
  | position, byte :: rest =>
    let (report, next) := step position byte
    report ++ scan next rest

/-- The characters of a byte string in order, with `none` for each maximal
ill-formed piece. -/
def pieces (bytes : Bytes) : List (Option Char) := scan none bytes

/-- The character that stands for an ill-formed piece. -/
def replacement : Char := '\uFFFD'

/-- The text with each ill-formed piece replaced. -/
def lossy (bytes : Bytes) : List Char := (pieces bytes).map (·.getD replacement)

/-- The text of well-formed bytes, and nothing for ill-formed ones. -/
def strict? (bytes : Bytes) : Option (List Char) := (pieces bytes).mapM id

/-- How many bytes form whole characters before the first ill-formed piece. -/
def soundLength (bytes : Bytes) : Nat :=
  (((pieces bytes).takeWhile Option.isSome).filterMap id).foldl (· + ·.utf8Size) 0

/-- The bytes of a text. -/
def encode (text : List Char) : Bytes := text.flatMap String.utf8EncodeChar

end ProxyFilter.Text.Utf8
