import ProxyFilter.Proofs.Json.Grammar
import ProxyFilter.Proofs.Text.Utf8

/-!
# Strings are read exactly

The reader of strings takes bytes and escapes one after the other and looks only at the end
whether the bytes it has gathered are a text. A character that stands for itself may come from
several bytes, and an escape is always a whole character, so no character is made up of both.
-/

namespace ProxyFilter.Json

open Text Grammar

/-- What follows a result goes on with it. -/
theorem ok_bind {ε α β : Type} (value : α) (next : α → Except ε β) :
    ((Except.ok value : Except ε α) >>= next) = next value := rfl

/-- Behind a result there was another one. -/
theorem exists_of_bind {ε α β : Type} {result : Except ε α} {next : α → Except ε β} {last : β}
    (h : result >>= next = .ok last) : ∃ value, result = .ok value ∧ next value = .ok last := by
  cases result with
  | error fault => cases h
  | ok value => exact ⟨value, rfl, h⟩

/-! ## Digits -/

section

variable {byte : UInt8} {value : Nat}

/-- A byte lies between two others if its number does. -/
theorem between_iff (least most : UInt8) : (decide (least ≤ byte) && decide (byte ≤ most)) = true ↔
    least.toNat ≤ byte.toNat ∧ byte.toNat ≤ most.toNat := by
  rw [Bool.and_eq_true, decide_eq_true_eq, decide_eq_true_eq, UInt8.le_iff_toNat_le,
    UInt8.le_iff_toNat_le]

/-- The digits are the bytes from `0` to `9`. -/
theorem isDigit_iff : isDigit byte = true ↔ 0x30 ≤ byte.toNat ∧ byte.toNat ≤ 0x39 :=
  between_iff 0x30 0x39

/-- A hexadecimal digit is read as its value. -/
theorem hexDigit?_of_isHexDigit (h : IsHexDigit byte value) : hexDigit? byte = some value := by
  unfold hexDigit?
  cases h with
  | decimal h => rw [if_pos (isDigit_iff.mpr h)]
  | capital h =>
    have hdecimal : ¬ isDigit byte = true := fun hdigit => by
      have hmost := (isDigit_iff.mp hdigit).2
      omega
    have hvalue : byte.toNat - 0x37 = byte.toNat - 0x41 + 10 := by omega
    rw [if_neg hdecimal, if_pos ((between_iff 0x41 0x46).mpr h), hvalue]
  | small h =>
    have hdecimal : ¬ isDigit byte = true := fun hdigit => by
      have hmost := (isDigit_iff.mp hdigit).2
      omega
    have hcapital : ¬ (decide (0x41 ≤ byte) && decide (byte ≤ 0x46)) = true := fun hbetween => by
      have hmost : byte.toNat ≤ 0x46 := ((between_iff 0x41 0x46).mp hbetween).2
      omega
    have hvalue : byte.toNat - 0x57 = byte.toNat - 0x61 + 10 := by omega
    rw [if_neg hdecimal, if_neg hcapital, if_pos ((between_iff 0x61 0x66).mpr h), hvalue]

/-- What is read as a hexadecimal digit is one. -/
theorem isHexDigit_of_hexDigit? (h : hexDigit? byte = some value) : IsHexDigit byte value := by
  have hsome : ∃ read, IsHexDigit byte read := by
    unfold hexDigit? at h
    split at h
    · next hdecimal => exact ⟨_, .decimal (isDigit_iff.mp hdecimal)⟩
    split at h
    · next hcapital => exact ⟨_, .capital ((between_iff 0x41 0x46).mp hcapital)⟩
    split at h
    · next hsmall => exact ⟨_, .small ((between_iff 0x61 0x66).mp hsmall)⟩
    cases h
  obtain ⟨read, hread⟩ := hsome
  rw [hexDigit?_of_isHexDigit hread] at h
  rwa [← Option.some.inj h]

end

/-! ## Characters and escapes -/

/-- What the reader of strings takes at a time. -/
inductive Token where
  /-- A byte that stands for itself. -/
  | byte (byte : UInt8)
  /-- A character that is escaped. -/
  | escape (char : Char)

namespace Token

/-- The bytes that a token gives. -/
def decoded : Token → Bytes
  | .byte given => [given]
  | .escape given => Utf8.encode [given]

/-- How a token is written. -/
inductive Writes : Token → Bytes → Prop
  /-- A byte stands for itself, unless it is a control character, a quote or a backslash. -/
  | byte (byte : UInt8) (hcontrol : ¬ byte < 0x20) (hquote : byte ≠ '"'.toUInt8)
      (hbackslash : byte ≠ '\\'.toUInt8) : Writes (.byte byte) [byte]
  /-- A character stands behind a backslash. -/
  | escape {spelling : Bytes} {char : Char} (h : IsEscape spelling char) :
    Writes (.escape char) spelling

end Token

section

variable {decoded bytes rest : Bytes} {result : Bytes × Bytes}

/-- Any but the last digit of an escape is added to its value. -/
theorem stringBytes_digits_succ (high : Option Nat) (further : Nat) (value : Option Nat)
    (decoded : Bytes) (byte : UInt8) (rest : Bytes) :
    stringBytes (.digits high (further + 1) value) decoded (byte :: rest) =
      stringBytes (.digits high further (value.bind fun unit =>
        (hexDigit? byte).map (unit * 16 + ·))) decoded rest := by
  cases value with
  | none => rfl
  | some unit => cases hdigit : hexDigit? byte <;> simp [stringBytes, Place.step, hdigit]

/-- The last digit of an escape completes its value, unless that is lost. -/
theorem stringBytes_digits_zero (high : Option Nat) (value : Option Nat) (decoded : Bytes)
    (byte : UInt8) (rest : Bytes) :
    stringBytes (.digits high 0 value) decoded (byte :: rest) =
      match value.bind fun unit => (hexDigit? byte).map (unit * 16 + ·) with
      | none => Fault.raise .invalidEscape rest
      | some unit =>
        match codeUnit high unit with
        | .error cause => Fault.raise cause rest
        | .ok (completed, next) => stringBytes next (completed.reverse ++ decoded) rest := by
  cases value with
  | none => rfl
  | some unit =>
    cases hdigit : hexDigit? byte with
    | none => simp [stringBytes, Place.step, hdigit]
    | some digit =>
      simp only [stringBytes, Place.step, hdigit, reduceCtorEq, false_and, if_false]
      change (match codeUnit high (unit * 16 + digit) with
        | .error cause => Fault.raise cause rest
        | .ok (completed, next) => stringBytes next (completed.reverse ++ decoded) rest) = _
      rfl

/-- Four digits are read as the number that they write. -/
theorem stringBytes_hex {digits : Bytes} {unit : Nat} (h : IsHex digits unit)
    (high : Option Nat) (decoded rest : Bytes) :
    stringBytes (.digits high 3 (some 0)) decoded (digits ++ rest) =
      match codeUnit high unit with
      | .error cause => Fault.raise cause rest
      | .ok (completed, next) => stringBytes next (completed.reverse ++ decoded) rest := by
  cases h with
  | four ha hb hc hd =>
    simp only [List.cons_append, List.nil_append, stringBytes_digits_succ,
      stringBytes_digits_zero, hexDigit?_of_isHexDigit ha, hexDigit?_of_isHexDigit hb,
      hexDigit?_of_isHexDigit hc, hexDigit?_of_isHexDigit hd, Option.bind_some, Option.map_some,
      Nat.zero_mul, Nat.zero_add]

/-- An escape that is read to its end has four digits. -/
theorem hex_of_stringBytes {high : Option Nat}
    (h : stringBytes (.digits high 3 (some 0)) decoded bytes = .ok result) :
    ∃ digits unit tail, bytes = digits ++ tail ∧ IsHex digits unit := by
  obtain _ | ⟨a, _ | ⟨b, _ | ⟨c, _ | ⟨d, tail⟩⟩⟩⟩ := bytes
  · cases h
  · cases h
  · cases h
  · cases h
  simp only [stringBytes_digits_succ, stringBytes_digits_zero] at h
  cases ha : hexDigit? a with
  | none => simp [ha, Fault.raise] at h
  | some i =>
    cases hb : hexDigit? b with
    | none => simp [ha, hb, Fault.raise] at h
    | some j =>
      cases hc : hexDigit? c with
      | none => simp [ha, hb, hc, Fault.raise] at h
      | some k =>
        cases hd : hexDigit? d with
        | none => simp [ha, hb, hc, hd, Fault.raise] at h
        | some l =>
          exact ⟨[a, b, c, d], _, tail, rfl, .four (isHexDigit_of_hexDigit? ha)
            (isHexDigit_of_hexDigit? hb) (isHexDigit_of_hexDigit? hc) (isHexDigit_of_hexDigit? hd)⟩

/-- A backslash and the letter `u` open an escape of four digits. -/
theorem stringBytes_open (decoded rest : Bytes) :
    stringBytes .plain decoded (Utf8.encode ['\\', 'u'] ++ rest) =
      stringBytes (.digits none 3 (some 0)) decoded rest := rfl

/-- A backslash and the letter `u` open the second half of a pair. -/
theorem stringBytes_open_pair (high : Nat) (decoded rest : Bytes) :
    stringBytes (.paired high) decoded (Utf8.encode ['\\', 'u'] ++ rest) =
      stringBytes (.digits (some high) 3 (some 0)) decoded rest := rfl

/-- A number outside two bounds fails the test of them. -/
theorem between_eq_false {least most unit : Nat} (h : ¬ (least ≤ unit ∧ unit ≤ most)) :
    (decide (least ≤ unit) && decide (unit ≤ most)) = false := by
  rw [Bool.and_eq_false_iff, decide_eq_false_iff_not, decide_eq_false_iff_not]
  omega

/-- The number of a character by itself. -/
theorem codeUnit_unit {unit : Nat} (h : unit < 0xD800 ∨ 0xDFFF < unit) :
    codeUnit none unit = .ok (Utf8.encode [Char.ofNat unit], .plain) := by
  have hlow : ¬ (0xDC00 ≤ unit ∧ unit ≤ 0xDFFF) := by omega
  have hhigh : ¬ (0xD800 ≤ unit ∧ unit ≤ 0xDBFF) := by omega
  simp only [codeUnit, between_eq_false hlow, between_eq_false hhigh]
  rfl

/-- The first half of a pair. -/
theorem codeUnit_high {unit : Nat} (h : 0xD800 ≤ unit ∧ unit ≤ 0xDBFF) :
    codeUnit none unit = .ok ([], .paired unit) := by
  have hlow : ¬ (0xDC00 ≤ unit ∧ unit ≤ 0xDFFF) := by omega
  simp only [codeUnit, between_eq_false hlow, decide_eq_true h.1, decide_eq_true h.2]
  rfl

/-- The second half of a pair completes it. -/
theorem codeUnit_low {unit : Nat} (high : Nat) (h : 0xDC00 ≤ unit ∧ unit ≤ 0xDFFF) :
    codeUnit (some high) unit =
      .ok (Utf8.encode [Char.ofNat (0x10000 + (high - 0xD800) * 0x400 + (unit - 0xDC00))],
        .plain) := by
  simp only [codeUnit, decide_eq_true h.1, decide_eq_true h.2]
  rfl

/-- A second half without a first one is refused. -/
theorem codeUnit_lone_low {unit : Nat} (h : 0xDC00 ≤ unit ∧ unit ≤ 0xDFFF) :
    codeUnit none unit = .error .loneSurrogate := by
  simp only [codeUnit, decide_eq_true h.1, decide_eq_true h.2]
  rfl

/-- A first half before anything but a second one is refused. -/
theorem codeUnit_lone_high {unit : Nat} (high : Nat) (h : ¬ (0xDC00 ≤ unit ∧ unit ≤ 0xDFFF)) :
    codeUnit (some high) unit = .error .loneSurrogate := by
  simp only [codeUnit, between_eq_false h]
  rfl

/-- The letters behind a backslash are bytes that are known. -/
theorem shortEscape?_of_mem {letter c : Char} (h : (letter, c) ∈ shortEscapes) :
    ∃ byte given, Utf8.encode [letter] = [byte] ∧ byte ≠ 'u'.toUInt8 ∧
      shortEscape? byte = some given ∧ Utf8.encode [c] = [given] := by
  simp only [shortEscapes, List.mem_cons, Prod.mk.injEq, List.not_mem_nil, or_false] at h
  rcases h with ⟨rfl, rfl⟩ | ⟨rfl, rfl⟩ | ⟨rfl, rfl⟩ | ⟨rfl, rfl⟩ | ⟨rfl, rfl⟩ | ⟨rfl, rfl⟩ |
    ⟨rfl, rfl⟩ | ⟨rfl, rfl⟩ <;> exact ⟨_, _, rfl, by decide, rfl, rfl⟩

/-- No other letter stands behind a backslash. -/
theorem mem_of_shortEscape? {byte given : UInt8} (h : shortEscape? byte = some given) :
    ∃ letter c, (letter, c) ∈ shortEscapes ∧ Utf8.encode [letter] = [byte] ∧
      Utf8.encode [c] = [given] := by
  unfold shortEscape? at h
  split at h
  · next hself =>
    simp only [Bool.or_eq_true, decide_eq_true_eq] at hself
    cases h
    rcases hself with (rfl | rfl) | rfl
    · exact ⟨'"', '"', by decide, rfl, rfl⟩
    · exact ⟨'\\', '\\', by decide, rfl, rfl⟩
    · exact ⟨'/', '/', by decide, rfl, rfl⟩
  split at h
  · next hbyte =>
    cases h
    cases hbyte
    exact ⟨'b', '\x08', by decide, rfl, rfl⟩
  split at h
  · next hbyte =>
    cases h
    cases hbyte
    exact ⟨'f', '\x0C', by decide, rfl, rfl⟩
  split at h
  · next hbyte =>
    cases h
    cases hbyte
    exact ⟨'n', '\n', by decide, rfl, rfl⟩
  split at h
  · next hbyte =>
    cases h
    cases hbyte
    exact ⟨'r', '\r', by decide, rfl, rfl⟩
  split at h
  · next hbyte =>
    cases h
    cases hbyte
    exact ⟨'t', '\t', by decide, rfl, rfl⟩
  · cases h

/-- A backslash and another letter are read as one byte. -/
theorem stringBytes_short {byte given : UInt8} (hother : byte ≠ 'u'.toUInt8)
    (hescape : shortEscape? byte = some given) (decoded rest : Bytes) :
    stringBytes .plain decoded ('\\'.toUInt8 :: byte :: rest) =
      stringBytes .plain (given :: decoded) rest := by
  have hopen : stringBytes .plain decoded ('\\'.toUInt8 :: byte :: rest) =
    stringBytes .escaped decoded (byte :: rest) := rfl
  rw [hopen]
  simp [stringBytes, Place.step, hother, hescape]

/-- A token is read as what it gives. -/
theorem stringBytes_writes {spelling : Bytes} {token : Token} (h : token.Writes spelling)
    (decoded rest : Bytes) :
    stringBytes .plain decoded (spelling ++ rest) =
      stringBytes .plain (token.decoded.reverse ++ decoded) rest := by
  cases h with
  | byte byte hcontrol hquote hbackslash =>
    simp [stringBytes, Place.step, hcontrol, hquote, hbackslash, Token.decoded]
  | escape h =>
    cases h with
    | short letter c h =>
      obtain ⟨byte, given, hletter, hother, hescape, hgiven⟩ := shortEscape?_of_mem h
      have hspelling : Utf8.encode ['\\', letter] = ['\\'.toUInt8, byte] :=
        congrArg ('\\'.toUInt8 :: ·) hletter
      rw [hspelling, Token.decoded, hgiven]
      exact stringBytes_short hother hescape decoded rest
    | unit digits unit hdigits hunit =>
      rw [List.append_assoc, stringBytes_open, stringBytes_hex hdigits, codeUnit_unit hunit]
      rfl
    | pair digits more high low hdigits hmore hhigh hlow =>
      rw [List.append_assoc, List.append_assoc, stringBytes_open, stringBytes_hex hdigits,
        codeUnit_high hhigh]
      dsimp only
      rw [List.append_assoc, stringBytes_open_pair, stringBytes_hex hmore, codeUnit_low high hlow]
      rfl

/-- A first half that is read to the end is followed by a second one. -/
theorem low_of_stringBytes {high : Nat}
    (h : stringBytes (.paired high) decoded bytes = .ok result) :
    ∃ more low tail, bytes = Utf8.encode ['\\', 'u'] ++ more ++ tail ∧ IsHex more low ∧
      0xDC00 ≤ low ∧ low ≤ 0xDFFF := by
  obtain _ | ⟨first, _ | ⟨second, rest⟩⟩ := bytes
  · cases h
  · by_cases hfirst : first = '\\'.toUInt8
    · cases hfirst
      cases h
    · simp [stringBytes, Place.step, hfirst, Fault.raise] at h
  by_cases hfirst : first = '\\'.toUInt8
  · by_cases hsecond : second = 'u'.toUInt8
    · cases hfirst
      cases hsecond
      change stringBytes (.digits (some high) 3 (some 0)) decoded rest = _ at h
      obtain ⟨more, low, tail, rfl, hmore⟩ := hex_of_stringBytes h
      rw [stringBytes_hex hmore] at h
      refine ⟨more, low, tail, rfl, hmore, ?_⟩
      by_cases hlow : 0xDC00 ≤ low ∧ low ≤ 0xDFFF
      · exact hlow
      · rw [codeUnit_lone_high high hlow] at h
        cases h
    · cases hfirst
      simp [stringBytes, Place.step, hsecond, Fault.raise] at h
  · simp [stringBytes, Place.step, hfirst, Fault.raise] at h

/-- A row of bytes that is read as a string begins with a quote or a token. -/
theorem token_of_stringBytes (h : stringBytes .plain decoded bytes = .ok result) :
    bytes = '"'.toUInt8 :: result.2 ∧ result.1 = decoded.reverse ∨
      ∃ token spelling tail, bytes = spelling ++ tail ∧ Token.Writes token spelling := by
  cases bytes with
  | nil => cases h
  | cons byte rest =>
    by_cases hquote : byte = '"'.toUInt8
    · cases hquote
      cases h
      exact .inl ⟨rfl, rfl⟩
    refine .inr ?_
    by_cases hbackslash : byte = '\\'.toUInt8
    · cases hbackslash
      change stringBytes .escaped decoded rest = _ at h
      cases rest with
      | nil => cases h
      | cons letter rest =>
        by_cases hunit : letter = 'u'.toUInt8
        · cases hunit
          change stringBytes (.digits none 3 (some 0)) decoded rest = _ at h
          obtain ⟨digits, unit, tail, rfl, hdigits⟩ := hex_of_stringBytes h
          rw [stringBytes_hex hdigits] at h
          by_cases hlow : 0xDC00 ≤ unit ∧ unit ≤ 0xDFFF
          · rw [codeUnit_lone_low hlow] at h
            cases h
          by_cases hhigh : 0xD800 ≤ unit ∧ unit ≤ 0xDBFF
          · rw [codeUnit_high hhigh] at h
            obtain ⟨more, low, tail, rfl, hmore, hpair⟩ := low_of_stringBytes h
            refine ⟨.escape _, _, tail, ?_,
              .escape (.pair digits more unit low hdigits hmore hhigh hpair)⟩
            simp only [List.append_assoc]
            rfl
          · refine ⟨.escape _, _, tail, ?_, .escape (.unit digits unit hdigits (by omega))⟩
            simp only [List.append_assoc]
            rfl
        · cases hescape : shortEscape? letter with
          | none => simp [stringBytes, Place.step, hunit, hescape, Fault.raise] at h
          | some given =>
            obtain ⟨named, c, hmem, hletter, -⟩ := mem_of_shortEscape? hescape
            refine ⟨.escape c, _, rest, ?_, .escape (.short named c hmem)⟩
            exact congrArg ('\\'.toUInt8 :: · ++ rest) hletter.symm
    · by_cases hcontrol : byte < 0x20
      · simp [stringBytes, Place.step, hquote, hcontrol, Fault.raise] at h
      · exact ⟨.byte byte, [byte], rest, rfl, .byte byte hcontrol hquote hbackslash⟩

/-- A row of tokens. -/
inductive AreTokens : Bytes → List Token → Prop
  /-- There is none. -/
  | nil : AreTokens [] []
  /-- One stands before the others. -/
  | cons {token : Token} {spelling rest : Bytes} {tokens : List Token}
      (hfirst : token.Writes spelling) (hrest : AreTokens rest tokens) :
    AreTokens (spelling ++ rest) (token :: tokens)

/-- A token is written with one byte at least. -/
theorem Token.Writes.length_pos {token : Token} {spelling : Bytes} (h : token.Writes spelling) :
    0 < spelling.length := by
  cases h with
  | byte => exact Nat.one_pos
  | escape h =>
    cases h with
    | short | unit | pair => exact Nat.succ_pos _

/-- Tokens in front of a quote are read as what they give. -/
theorem stringBytes_of_tokens {inside : Bytes} {tokens : List Token}
    (h : AreTokens inside tokens) (decoded rest : Bytes) :
    stringBytes .plain decoded (inside ++ '"'.toUInt8 :: rest) =
      .ok (decoded.reverse ++ tokens.flatMap Token.decoded, rest) := by
  induction h generalizing decoded with
  | nil =>
    rw [List.flatMap_nil, List.append_nil]
    rfl
  | cons hfirst hrest ih =>
    rw [List.append_assoc, stringBytes_writes hfirst, ih, List.reverse_append, List.reverse_reverse,
      List.flatMap_cons, List.append_assoc]

/-- What is read as a string is tokens in front of a quote. -/
theorem tokens_of_stringBytes (h : stringBytes .plain decoded bytes = .ok result) :
    ∃ inside tokens, bytes = inside ++ '"'.toUInt8 :: result.2 ∧ AreTokens inside tokens ∧
      result.1 = decoded.reverse ++ tokens.flatMap Token.decoded := by
  induction hlength : bytes.length using Nat.strongRecOn generalizing decoded bytes with
  | ind length ih =>
    obtain ⟨hquote, hdecoded⟩ | ⟨token, spelling, tail, rfl, hwrites⟩ := token_of_stringBytes h
    · exact ⟨[], [], hquote, .nil, by rw [hdecoded, List.flatMap_nil, List.append_nil]⟩
    · have hpos := hwrites.length_pos
      rw [List.length_append] at hlength
      rw [stringBytes_writes hwrites] at h
      obtain ⟨inside, tokens, rfl, htokens, hresult⟩ := ih tail.length (by omega) h rfl
      refine ⟨spelling ++ inside, token :: tokens, (List.append_assoc ..).symm,
        .cons hwrites htokens, ?_⟩
      rw [hresult, List.reverse_append, List.reverse_reverse, List.flatMap_cons, List.append_assoc]

end

/-- The bytes that tokens give. -/
def decodedOf (tokens : List Token) : Bytes := tokens.flatMap Token.decoded

section

variable {inside : Bytes} {tokens : List Token} {c : Char} {text : List Char}

/-- A character that stands for itself does so by bytes that do. -/
theorem plain_bytes (hcontrol : 0x20 ≤ c.toNat) (hquote : c ≠ '"') (hbackslash : c ≠ '\\') :
    ∀ byte ∈ Utf8.encode [c], Token.Writes (.byte byte) [byte] := by
  intro byte hbyte
  rw [Utf8.encode, List.flatMap_singleton] at hbyte
  have hleast : (0x20 : UInt8).toNat = 0x20 := rfl
  by_cases hone : c.toNat < 0x80
  · rw [Utf8.encodeChar_of_lt hone, List.mem_singleton] at hbyte
    have hvalue : byte.toNat = c.toNat := by rw [hbyte, Utf8.toNat_ofNat (by omega)]
    have hne : ∀ other : Char, c ≠ other → other.toNat < 0x80 → byte ≠ other.toUInt8 := by
      rintro other hother hlt rfl
      refine hother (Char.ext (UInt32.toNat_inj.mp ?_))
      have hself : other.toUInt8.toNat = other.toNat := by
        rw [Char.toUInt8, UInt32.toNat_toUInt8]
        exact Nat.mod_eq_of_lt (by
          change other.toNat < 256
          omega)
      exact (hvalue.symm.trans hself)
    refine .byte byte ?_ (hne _ hquote (by decide)) (hne _ hbackslash (by decide))
    rw [UInt8.lt_iff_toNat_lt]
    omega
  · obtain ⟨first, rest, hbytes, hfirst, hrest⟩ := Utf8.encodeChar_of_le (Nat.le_of_not_lt hone)
    rw [hbytes, List.mem_cons] at hbyte
    have hlarge : 0x80 ≤ byte.toNat := by
      rcases hbyte with rfl | hmem
      · omega
      · exact (hrest byte hmem).1
    refine .byte byte ?_ ?_ ?_
    · rw [UInt8.lt_iff_toNat_lt]
      omega
    · rintro rfl
      exact absurd hlarge (by decide)
    · rintro rfl
      exact absurd hlarge (by decide)

/-- Bytes that stand for themselves are tokens. -/
theorem areTokens_append {bytes : Bytes}
    (hbytes : ∀ byte ∈ bytes, Token.Writes (.byte byte) [byte]) (h : AreTokens inside tokens) :
    ∃ more, AreTokens (bytes ++ inside) more ∧ decodedOf more = bytes ++ decodedOf tokens := by
  induction bytes with
  | nil => exact ⟨tokens, h, rfl⟩
  | cons byte bytes ih =>
    obtain ⟨hfirst, hrest⟩ := List.forall_mem_cons.mp hbytes
    obtain ⟨more, hmore, hdecoded⟩ := ih hrest
    have hcons : AreTokens ([byte] ++ (bytes ++ inside)) (.byte byte :: more) :=
      .cons hfirst hmore
    exact ⟨.byte byte :: more, hcons, congrArg (byte :: ·) hdecoded⟩

/-- The inside of a string is tokens that give its characters. -/
theorem tokens_of_inside (h : IsInside inside text) :
    ∃ tokens, AreTokens inside tokens ∧ decodedOf tokens = Utf8.encode text := by
  induction h with
  | nil => exact ⟨[], .nil, rfl⟩
  | @cons spelling rest c text hfirst hrest ih =>
    obtain ⟨tokens, htokens, hdecoded⟩ := ih
    cases hfirst with
    | plain c hcontrol hquote hbackslash =>
      obtain ⟨more, hmore, hgiven⟩ :=
        areTokens_append (plain_bytes hcontrol hquote hbackslash) htokens
      refine ⟨more, hmore, ?_⟩
      rw [hgiven, hdecoded, ← Utf8.encode_cons]
    | escape h =>
      refine ⟨.escape c :: tokens, .cons (.escape h) htokens, ?_⟩
      rw [decodedOf, List.flatMap_cons, ← decodedOf, hdecoded, Utf8.encode_cons]
      rfl

/-- An escaped character does not begin with a byte that continues one. -/
theorem escape_ne_continuation {given : Char} {byte : UInt8} {left right : Bytes}
    (hbyte : 0x80 ≤ byte.toNat ∧ byte.toNat < 0xC0) :
    Token.decoded (.escape given) ++ left ≠ byte :: right := by
  intro h
  rw [Token.decoded, Utf8.encode, List.flatMap_singleton] at h
  by_cases hone : given.toNat < 0x80
  · rw [Utf8.encodeChar_of_lt hone, List.singleton_append, List.cons.injEq] at h
    have hvalue := Utf8.toNat_ofNat (show given.toNat < 256 by omega)
    rw [h.1] at hvalue
    omega
  · obtain ⟨first, rest, hbytes, hfirst, -⟩ := Utf8.encodeChar_of_le (Nat.le_of_not_lt hone)
    rw [hbytes, List.cons_append, List.cons.injEq] at h
    rw [h.1] at hfirst
    omega

/-- Bytes that continue a character stand for themselves. -/
theorem continuation_of_tokens {given : Bytes} {decoded : Bytes} (htokens : AreTokens inside tokens)
    (hgiven : ∀ byte ∈ given, 0x80 ≤ byte.toNat ∧ byte.toNat < 0xC0)
    (hdecoded : decodedOf tokens = given ++ decoded) :
    ∃ rest more, inside = given ++ rest ∧ AreTokens rest more ∧ decodedOf more = decoded := by
  induction given generalizing inside tokens with
  | nil => exact ⟨inside, tokens, rfl, htokens, hdecoded⟩
  | cons byte given ih =>
    obtain ⟨hbyte, hothers⟩ := List.forall_mem_cons.mp hgiven
    cases htokens with
    | nil => cases hdecoded
    | cons hfirst hrest =>
      cases hfirst with
      | escape h => exact absurd hdecoded (escape_ne_continuation hbyte)
      | byte same =>
        obtain ⟨rfl, hgiving⟩ := List.cons.inj hdecoded
        obtain ⟨rest, more, rfl, hmore, hrest⟩ := ih hrest hothers hgiving
        exact ⟨rest, more, rfl, hmore, hrest⟩

/-- A character whose first byte stands for itself may stand for itself. -/
theorem spells_of_byte {byte : UInt8} {rest : Bytes} (hfirst : Token.Writes (.byte byte) [byte])
    (hbytes : Utf8.encode [c] = byte :: rest) : Spells (byte :: rest) c := by
  rw [← hbytes]
  rw [Utf8.encode, List.flatMap_singleton] at hbytes
  by_cases hone : c.toNat < 0x80
  · rw [Utf8.encodeChar_of_lt hone, List.cons.injEq] at hbytes
    cases hfirst with
    | byte _ hcontrol hquote hbackslash =>
      have hvalue := Utf8.toNat_ofNat (show c.toNat < 256 by omega)
      rw [hbytes.1] at hvalue
      rw [UInt8.lt_iff_toNat_lt, hvalue] at hcontrol
      refine .plain c (Nat.le_of_not_lt hcontrol) ?_ ?_
      · rintro rfl
        exact hquote hbytes.1.symm
      · rintro rfl
        exact hbackslash hbytes.1.symm
  · refine .plain c (by omega) ?_ ?_
    · rintro rfl
      exact hone (by decide)
    · rintro rfl
      exact hone (by decide)

/-- A token that gives no byte is none. -/
theorem decoded_ne_nil (token : Token) : token.decoded ≠ [] := by
  cases token with
  | byte given => exact List.cons_ne_nil given []
  | escape given =>
    obtain ⟨first, rest, hbytes, -⟩ := Utf8.encode_singleton given
    rw [Token.decoded, hbytes]
    exact List.cons_ne_nil _ _

/-- Tokens that give the bytes of a text are the inside of a string with that text. -/
theorem inside_of_tokens (htokens : AreTokens inside tokens)
    (hdecoded : decodedOf tokens = Utf8.encode text) : IsInside inside text := by
  induction text generalizing inside tokens with
  | nil =>
    cases htokens with
    | nil => exact .nil
    | @cons token =>
      exact absurd (List.append_eq_nil_iff.mp hdecoded).1 (decoded_ne_nil token)
  | cons c text ih =>
    rw [Utf8.encode_cons] at hdecoded
    obtain ⟨first, given, hgiven, hrange⟩ := Utf8.encode_singleton c
    cases htokens with
    | nil =>
      rw [hgiven] at hdecoded
      cases hdecoded
    | @cons token spelling rest more hfirst hrest =>
      cases hfirst with
      | @escape _ taken h =>
        have hboth : Utf8.encode [taken] ++ decodedOf more = Utf8.encode [c] ++ Utf8.encode text :=
          hdecoded
        obtain rfl : taken = c := Utf8.encode_append_inj hboth
        exact .cons (.escape h) (ih hrest (List.append_cancel_left hboth))
      | byte byte hcontrol hquote hbackslash =>
        rw [hgiven] at hdecoded
        obtain ⟨rfl, hmore⟩ := List.cons.inj hdecoded
        obtain ⟨inside, tokens, rfl, htokens, htext⟩ := continuation_of_tokens hrest hrange hmore
        have hspells := spells_of_byte (.byte byte hcontrol hquote hbackslash) hgiven
        have hcons : IsInside (byte :: given ++ inside) (c :: text) :=
          .cons hspells (ih htokens htext)
        exact hcons

end

/-- A string behind its opening quote is read exactly if it is one, and then as its text. -/
theorem string_eq_ok_iff {bytes rest : Bytes} {text : String} :
    string bytes = .ok (text, rest) ↔
      ∃ inside, bytes = inside ++ '"'.toUInt8 :: rest ∧ IsInside inside text.toList := by
  constructor
  · intro h
    obtain ⟨⟨decoded, tail⟩, hread, hstrict⟩ := exists_of_bind h
    obtain ⟨inside, tokens, hbytes, htokens, hdecoded⟩ := tokens_of_stringBytes hread
    dsimp only at hstrict
    cases htext : Utf8.strict? decoded with
    | none =>
      rw [htext] at hstrict
      cases hstrict
    | some read =>
      rw [htext] at hstrict
      cases hstrict
      have hencode := hdecoded.symm.trans (Utf8.strict?_eq_some_iff.mp htext)
      rw [String.toList_ofList]
      exact ⟨inside, hbytes, inside_of_tokens htokens hencode⟩
  · rintro ⟨inside, rfl, hinside⟩
    obtain ⟨tokens, htokens, hdecoded⟩ := tokens_of_inside hinside
    have hstrict : Utf8.strict? (decodedOf tokens) = some text.toList :=
      Utf8.strict?_eq_some_iff.mpr hdecoded
    have hread : stringBytes .plain [] (inside ++ '"'.toUInt8 :: rest) =
      .ok (decodedOf tokens, rest) := stringBytes_of_tokens htokens [] rest
    rw [string, hread, ok_bind]
    dsimp only
    rw [hstrict]
    dsimp only
    rw [String.ofList_toList]
    rfl

/-- What is read as a string is one, with its opening quote. -/
theorem isString_of_string {bytes rest : Bytes} {text : String}
    (h : string bytes = .ok (text, rest)) :
    ∃ part, '"'.toUInt8 :: bytes = part ++ rest ∧ IsString part text := by
  obtain ⟨inside, rfl, hinside⟩ := string_eq_ok_iff.mp h
  have hquoted := IsString.quoted hinside
  rw [String.ofList_toList] at hquoted
  refine ⟨_, ?_, hquoted⟩
  simp only [List.append_assoc]
  rfl

/-- A string is read behind its opening quote. -/
theorem string_of_isString {part : Bytes} {text : String} (h : IsString part text) :
    ∃ inside, part = '"'.toUInt8 :: inside ∧
      ∀ rest, string (inside ++ rest) = .ok (text, rest) := by
  cases h with
  | @quoted inside text hinside =>
    rw [← @String.toList_ofList text] at hinside
    refine ⟨inside ++ Utf8.encode ['"'], rfl, fun rest =>
      string_eq_ok_iff.mpr ⟨inside, ?_, hinside⟩⟩
    rw [List.append_assoc]
    rfl

end ProxyFilter.Json
