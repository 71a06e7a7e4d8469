import ProxyFilter.Text.Utf8

/-!
# UTF-8 is read exactly

Reading the bytes of a text gives the text back, and only the bytes of a text are read
without an ill-formed piece. Both directions go character by character: the bytes of one
character take the machine from between characters to between characters.
-/

namespace ProxyFilter.Text.Utf8

/-- A number below 256 is the value of its byte. -/
theorem toNat_ofNat {n : Nat} (h : n < 256) : (UInt8.ofNat n).toNat = n := by
  rw [UInt8.toNat_ofNat', Nat.mod_eq_of_lt h]

/-- The value of a character is no surrogate and lies in the range of Unicode. -/
theorem char_range (c : Char) :
    c.val.toNat < 0xD800 ∨ 0xDFFF < c.val.toNat ∧ c.val.toNat < 0x110000 := c.valid

section

variable {byte low high : UInt8} {bits further : Nat}

/-- A byte below 0x80 is a character. -/
theorem lead_one (h : byte.toNat < 0x80) : lead byte = .single (Char.ofNat byte.toNat) := by
  simp only [lead, if_pos h]

/-- The first byte of a character of two bytes. -/
theorem lead_two (hlow : 0xC2 ≤ byte.toNat) (hhigh : byte.toNat < 0xE0) :
    lead byte = .opens ⟨0, 0x80, 0xBF, byte.toNat - 0xC0⟩ := by
  unfold lead
  dsimp only
  rw [if_neg (by omega), if_neg (by omega), if_pos hhigh]

/-- The first byte of a character of three bytes. -/
theorem lead_three (hlow : 0xE0 ≤ byte.toNat) (hhigh : byte.toNat < 0xF0) :
    lead byte = .opens ⟨1, if byte.toNat = 0xE0 then 0xA0 else 0x80,
      if byte.toNat = 0xED then 0x9F else 0xBF, byte.toNat - 0xE0⟩ := by
  unfold lead
  dsimp only
  rw [if_neg (by omega), if_neg (by omega), if_neg (by omega)]
  by_cases hfirst : byte.toNat = 0xE0
  · rw [if_pos hfirst, if_pos hfirst, if_neg (by omega), hfirst]
  · rw [if_neg hfirst, if_neg hfirst]
    by_cases hsurrogate : byte.toNat = 0xED
    · rw [if_pos hsurrogate, if_pos hsurrogate, hsurrogate]
    · rw [if_neg hsurrogate, if_neg hsurrogate, if_pos hhigh]

/-- The first byte of a character of four bytes. -/
theorem lead_four (hlow : 0xF0 ≤ byte.toNat) (hhigh : byte.toNat < 0xF5) :
    lead byte = .opens ⟨2, if byte.toNat = 0xF0 then 0x90 else 0x80,
      if byte.toNat = 0xF4 then 0x8F else 0xBF, byte.toNat - 0xF0⟩ := by
  unfold lead
  dsimp only
  rw [if_neg (by omega), if_neg (by omega), if_neg (by omega), if_neg (by omega),
    if_neg (by omega), if_neg (by omega)]
  by_cases hfirst : byte.toNat = 0xF0
  · rw [if_pos hfirst, if_pos hfirst, if_neg (by omega), hfirst]
  · rw [if_neg hfirst, if_neg hfirst]
    by_cases hlast : byte.toNat = 0xF4
    · rw [if_neg (by omega), if_pos hlast, if_pos hlast, hlast]
    · rw [if_pos (by omega), if_neg hlast]

/-- No character begins with any other byte. -/
theorem lead_stray (h : 0x80 ≤ byte.toNat ∧ byte.toNat < 0xC2 ∨ 0xF5 ≤ byte.toNat) :
    lead byte = .stray := by
  unfold lead
  dsimp only
  rw [if_neg (by omega)]
  by_cases hlow : byte.toNat < 0xC2
  · rw [if_pos hlow]
  · rw [if_neg hlow, if_neg (by omega), if_neg (by omega), if_neg (by omega), if_neg (by omega),
      if_neg (by omega), if_neg (by omega), if_neg (by omega)]

/-- A character of one byte is read at once. -/
theorem scan_single {char : Char} (h : lead byte = .single char) (rest : Bytes) :
    scan none (byte :: rest) = some char :: scan none rest := by
  simp only [scan, step, start, h]
  rfl

/-- The first byte of a longer character opens it. -/
theorem scan_opens {opened : Opened} (h : lead byte = .opens opened) (rest : Bytes) :
    scan none (byte :: rest) = scan (some opened) rest := by
  simp only [scan, step, start, h]
  rfl

/-- The last byte of an opened character completes it. -/
theorem scan_last (hlow : low.toNat ≤ byte.toNat) (hhigh : byte.toNat ≤ high.toNat)
    (rest : Bytes) :
    scan (some ⟨0, low, high, bits⟩) (byte :: rest) =
      some (Char.ofNat (bits * 64 + (byte.toNat - 0x80))) :: scan none rest := by
  have hrange : low ≤ byte ∧ byte ≤ high :=
    ⟨UInt8.le_iff_toNat_le.mpr hlow, UInt8.le_iff_toNat_le.mpr hhigh⟩
  simp only [scan, step, if_pos hrange]
  rfl

/-- Any other byte of an opened character adds its bits to it. -/
theorem scan_more (hlow : low.toNat ≤ byte.toNat) (hhigh : byte.toNat ≤ high.toNat)
    (rest : Bytes) :
    scan (some ⟨further + 1, low, high, bits⟩) (byte :: rest) =
      scan (some ⟨further, 0x80, 0xBF, bits * 64 + (byte.toNat - 0x80)⟩) rest := by
  have hrange : low ≤ byte ∧ byte ≤ high :=
    ⟨UInt8.le_iff_toNat_le.mpr hlow, UInt8.le_iff_toNat_le.mpr hhigh⟩
  simp only [scan, step, if_pos hrange]
  rfl

end

/-- Six bits in the last byte of an opened character complete it. -/
theorem scan_last_bits {low high : UInt8} {digit bits : Nat} (hdigit : digit < 64)
    (hlow : low.toNat ≤ digit + 0x80) (hhigh : digit + 0x80 ≤ high.toNat) (rest : Bytes) :
    scan (some ⟨0, low, high, bits⟩) (UInt8.ofNat (digit + 0x80) :: rest) =
      some (Char.ofNat (bits * 64 + digit)) :: scan none rest := by
  have hbyte : (UInt8.ofNat (digit + 0x80)).toNat = digit + 0x80 := toNat_ofNat (by omega)
  rw [scan_last (by omega) (by omega), hbyte, Nat.add_sub_cancel]

/-- Six bits in any other byte of an opened character are added to it. -/
theorem scan_more_bits {low high : UInt8} {digit bits further : Nat} (hdigit : digit < 64)
    (hlow : low.toNat ≤ digit + 0x80) (hhigh : digit + 0x80 ≤ high.toNat) (rest : Bytes) :
    scan (some ⟨further + 1, low, high, bits⟩) (UInt8.ofNat (digit + 0x80) :: rest) =
      scan (some ⟨further, 0x80, 0xBF, bits * 64 + digit⟩) rest := by
  have hbyte : (UInt8.ofNat (digit + 0x80)).toNat = digit + 0x80 := toNat_ofNat (by omega)
  rw [scan_more (by omega) (by omega), hbyte, Nat.add_sub_cancel]

/-- The bytes of a character that has two of them. -/
theorem scan_two {n : Nat} (hlow : 0x7F < n) (hhigh : n ≤ 0x7FF) (rest : Bytes) :
    scan none (UInt8.ofNat (n / 64 % 0x20 + 0xC0) :: UInt8.ofNat (n % 0x40 + 0x80) :: rest) =
      some (Char.ofNat n) :: scan none rest := by
  have hleast : (0x80 : UInt8).toNat = 0x80 := rfl
  have hmost : (0xBF : UInt8).toNat = 0xBF := rfl
  have hfirst : (UInt8.ofNat (n / 64 % 0x20 + 0xC0)).toNat = n / 64 + 0xC0 := by
    rw [toNat_ofNat (by omega)]
    omega
  have hvalue : (n / 64 + 0xC0 - 0xC0) * 64 + n % 0x40 = n := by omega
  rw [scan_opens (lead_two (by omega) (by omega)), scan_last_bits (by omega) (by omega) (by omega),
    hfirst, hvalue]

/-- The bytes of a character that has three of them. -/
theorem scan_three {n : Nat} (hlow : 0x7FF < n) (hhigh : n ≤ 0xFFFF)
    (hrange : n < 0xD800 ∨ 0xDFFF < n) (rest : Bytes) :
    scan none (UInt8.ofNat (n / 4096 % 0x10 + 0xE0) :: UInt8.ofNat (n / 64 % 0x40 + 0x80) ::
      UInt8.ofNat (n % 0x40 + 0x80) :: rest) = some (Char.ofNat n) :: scan none rest := by
  have hbottom : (0x80 : UInt8).toNat = 0x80 := rfl
  have htop : (0xBF : UInt8).toNat = 0xBF := rfl
  have hfirst : (UInt8.ofNat (n / 4096 % 0x10 + 0xE0)).toNat = n / 4096 + 0xE0 := by
    rw [toNat_ofNat (by omega)]
    omega
  have hvalue : ((n / 4096 + 0xE0 - 0xE0) * 64 + n / 64 % 0x40) * 64 + n % 0x40 = n := by omega
  have hleast : (if n / 4096 + 0xE0 = 0xE0 then (0xA0 : UInt8) else 0x80).toNat ≤
      n / 64 % 0x40 + 0x80 := by
    split
    · change 0xA0 ≤ _
      omega
    · omega
  have hmost : n / 64 % 0x40 + 0x80 ≤
      (if n / 4096 + 0xE0 = 0xED then (0x9F : UInt8) else 0xBF).toNat := by
    split
    · change _ ≤ 0x9F
      omega
    · omega
  rw [scan_opens (lead_three (by omega) (by omega)), hfirst, scan_more_bits (by omega) hleast hmost,
    scan_last_bits (by omega) (by omega) (by omega), hvalue]

/-- The bytes of a character that has four of them. -/
theorem scan_four {n : Nat} (hlow : 0xFFFF < n) (hhigh : n < 0x110000) (rest : Bytes) :
    scan none (UInt8.ofNat (n / 262144 % 0x08 + 0xF0) :: UInt8.ofNat (n / 4096 % 0x40 + 0x80) ::
      UInt8.ofNat (n / 64 % 0x40 + 0x80) :: UInt8.ofNat (n % 0x40 + 0x80) :: rest) =
      some (Char.ofNat n) :: scan none rest := by
  have hbottom : (0x80 : UInt8).toNat = 0x80 := rfl
  have htop : (0xBF : UInt8).toNat = 0xBF := rfl
  have hfirst : (UInt8.ofNat (n / 262144 % 0x08 + 0xF0)).toNat = n / 262144 + 0xF0 := by
    rw [toNat_ofNat (by omega)]
    omega
  have hvalue : (((n / 262144 + 0xF0 - 0xF0) * 64 + n / 4096 % 0x40) * 64 + n / 64 % 0x40) * 64 +
      n % 0x40 = n := by omega
  have hleast : (if n / 262144 + 0xF0 = 0xF0 then (0x90 : UInt8) else 0x80).toNat ≤
      n / 4096 % 0x40 + 0x80 := by
    split
    · change 0x90 ≤ _
      omega
    · omega
  have hmost : n / 4096 % 0x40 + 0x80 ≤
      (if n / 262144 + 0xF0 = 0xF4 then (0x8F : UInt8) else 0xBF).toNat := by
    split
    · change _ ≤ 0x8F
      omega
    · omega
  rw [scan_opens (lead_four (by omega) (by omega)), hfirst, scan_more_bits (by omega) hleast hmost,
    scan_more_bits (by omega) (by omega) (by omega),
    scan_last_bits (by omega) (by omega) (by omega), hvalue]

/-- The bytes of a character are read as that character. -/
theorem scan_encodeChar (c : Char) (rest : Bytes) :
    scan none (String.utf8EncodeChar c ++ rest) = some c :: scan none rest := by
  have hrange := char_range c
  have hself : Char.ofNat c.val.toNat = c := Char.ofNat_toNat c
  unfold String.utf8EncodeChar
  generalize c.val.toNat = n at hrange hself
  dsimp only
  rw [← hself]
  by_cases hone : n ≤ 0x7F
  · have hbyte : (UInt8.ofNat n).toNat = n := toNat_ofNat (by omega)
    rw [if_pos hone, List.singleton_append, scan_single (lead_one (by omega)), hbyte]
  rw [if_neg hone]
  by_cases htwo : n ≤ 0x7FF
  · rw [if_pos htwo]
    exact scan_two (by omega) htwo rest
  rw [if_neg htwo]
  by_cases hthree : n ≤ 0xFFFF
  · rw [if_pos hthree]
    exact scan_three (by omega) hthree (by omega) rest
  rw [if_neg hthree]
  exact scan_four (by omega) (by omega) rest

/-- The bytes of a character stand before those of the text behind it. -/
theorem encode_cons (c : Char) (text : List Char) :
    encode (c :: text) = encode [c] ++ encode text := by
  rw [encode, encode, List.flatMap_cons, List.flatMap_singleton]
  rfl

/-- So do those of a text before those of another one. -/
theorem encode_append (text more : List Char) :
    encode (text ++ more) = encode text ++ encode more :=
  List.flatMap_append

/-- What follows the bytes of a text is read as if it stood alone. -/
theorem scan_encode (text : List Char) (rest : Bytes) :
    scan none (encode text ++ rest) = text.map some ++ scan none rest := by
  induction text with
  | nil => rfl
  | cons c text ih =>
    rw [encode, List.flatMap_cons, List.append_assoc, scan_encodeChar]
    exact congrArg (some c :: ·) ih

/-- A number that is no surrogate and lies in the range of Unicode is the value of its
character. -/
theorem toNat_charOfNat {n : Nat} (h : n < 0xD800 ∨ 0xDFFF < n ∧ n < 0x110000) :
    (Char.ofNat n).val.toNat = n := by
  rw [Char.ofNat, dif_pos h]
  rfl

/-- An opened character that is not ill-formed goes on with a byte of its range. -/
theorem exists_continuation {further bits : Nat} {low high : UInt8} {bytes : Bytes}
    (h : none ∉ scan (some ⟨further, low, high, bits⟩) bytes) :
    ∃ byte rest, bytes = byte :: rest ∧ low.toNat ≤ byte.toNat ∧ byte.toNat ≤ high.toNat := by
  cases bytes with
  | nil => exact absurd List.mem_cons_self h
  | cons byte rest =>
    refine ⟨byte, rest, rfl, ?_⟩
    rw [← UInt8.le_iff_toNat_le, ← UInt8.le_iff_toNat_le]
    by_cases hrange : low ≤ byte ∧ byte ≤ high
    · exact hrange
    · refine absurd ?_ h
      simp only [scan, step, if_neg hrange, List.cons_append]
      exact List.mem_cons_self

/-- Bytes that are the last ones of a character, by their values. -/
theorem eq_ofNat {byte : UInt8} {n : Nat} (hn : n < 256) (h : byte.toNat = n) :
    UInt8.ofNat n = byte := by
  rw [← UInt8.toNat_inj, toNat_ofNat hn, h]

/-- A least byte that is greater in one case is a bound in every case. -/
theorem least_of_ite {p : Prop} [Decidable p] {a b byte : UInt8}
    (h : (if p then a else b).toNat ≤ byte.toNat) (hab : b.toNat ≤ a.toNat) :
    b.toNat ≤ byte.toNat ∧ (p → a.toNat ≤ byte.toNat) := by
  by_cases hp : p
  · rw [if_pos hp] at h
    exact ⟨Nat.le_trans hab h, fun _ => h⟩
  · rw [if_neg hp] at h
    exact ⟨h, fun hcase => absurd hcase hp⟩

/-- A greatest byte that is less in one case is a bound in every case. -/
theorem most_of_ite {p : Prop} [Decidable p] {a b byte : UInt8}
    (h : byte.toNat ≤ (if p then a else b).toNat) (hab : a.toNat ≤ b.toNat) :
    byte.toNat ≤ b.toNat ∧ (p → byte.toNat ≤ a.toNat) := by
  by_cases hp : p
  · rw [if_pos hp] at h
    exact ⟨Nat.le_trans h hab, fun _ => h⟩
  · rw [if_neg hp] at h
    exact ⟨h, fun hcase => absurd hcase hp⟩

section

variable {byte : UInt8} {rest : Bytes}

/-- The bytes of a character of two bytes are found behind the first one. -/
theorem exists_two (hlow : 0xC2 ≤ byte.toNat) (hhigh : byte.toNat < 0xE0)
    (h : none ∉ scan none (byte :: rest)) :
    ∃ c tail, byte :: rest = String.utf8EncodeChar c ++ tail := by
  have hbottom : (0x80 : UInt8).toNat = 0x80 := rfl
  have htop : (0xBF : UInt8).toNat = 0xBF := rfl
  rw [scan_opens (lead_two hlow hhigh)] at h
  obtain ⟨second, tail, rfl, hleast, hmost⟩ := exists_continuation h
  let n := (byte.toNat - 0xC0) * 64 + (second.toNat - 0x80)
  have hn : n = (byte.toNat - 0xC0) * 64 + (second.toNat - 0x80) := rfl
  refine ⟨Char.ofNat n, tail, ?_⟩
  rw [String.utf8EncodeChar, toNat_charOfNat (by omega), if_neg (by omega), if_pos (by omega),
    eq_ofNat (by omega) (by omega : byte.toNat = _),
    eq_ofNat (by omega) (by omega : second.toNat = _)]
  rfl

/-- The bytes of a character of three bytes are found behind the first one. -/
theorem exists_three (hlow : 0xE0 ≤ byte.toNat) (hhigh : byte.toNat < 0xF0)
    (h : none ∉ scan none (byte :: rest)) :
    ∃ c tail, byte :: rest = String.utf8EncodeChar c ++ tail := by
  have hbottom : (0x80 : UInt8).toNat = 0x80 := rfl
  have htop : (0xBF : UInt8).toNat = 0xBF := rfl
  rw [scan_opens (lead_three hlow hhigh)] at h
  obtain ⟨second, tail, rfl, hleast, hmost⟩ := exists_continuation h
  rw [scan_more hleast hmost] at h
  obtain ⟨third, tail, rfl, hleast', hmost'⟩ := exists_continuation h
  let n := ((byte.toNat - 0xE0) * 64 + (second.toNat - 0x80)) * 64 + (third.toNat - 0x80)
  have hn : n = ((byte.toNat - 0xE0) * 64 + (second.toNat - 0x80)) * 64 +
    (third.toNat - 0x80) := rfl
  have hsecond := least_of_ite hleast (by decide)
  have hsecond' := most_of_ite hmost (by decide)
  simp only [UInt8.reduceToNat] at hsecond hsecond'
  refine ⟨Char.ofNat n, tail, ?_⟩
  rw [String.utf8EncodeChar, toNat_charOfNat (by omega), if_neg (by omega), if_neg (by omega),
    if_pos (by omega), eq_ofNat (by omega) (by omega : byte.toNat = _),
    eq_ofNat (by omega) (by omega : second.toNat = _),
    eq_ofNat (by omega) (by omega : third.toNat = _)]
  rfl

/-- The bytes of a character of four bytes are found behind the first one. -/
theorem exists_four (hlow : 0xF0 ≤ byte.toNat) (hhigh : byte.toNat < 0xF5)
    (h : none ∉ scan none (byte :: rest)) :
    ∃ c tail, byte :: rest = String.utf8EncodeChar c ++ tail := by
  have hbottom : (0x80 : UInt8).toNat = 0x80 := rfl
  have htop : (0xBF : UInt8).toNat = 0xBF := rfl
  rw [scan_opens (lead_four hlow hhigh)] at h
  obtain ⟨second, tail, rfl, hleast, hmost⟩ := exists_continuation h
  rw [scan_more hleast hmost] at h
  obtain ⟨third, tail, rfl, hleast', hmost'⟩ := exists_continuation h
  rw [scan_more hleast' hmost'] at h
  obtain ⟨fourth, tail, rfl, hleast'', hmost''⟩ := exists_continuation h
  have hsecond := least_of_ite hleast (by decide)
  have hsecond' := most_of_ite hmost (by decide)
  simp only [UInt8.reduceToNat] at hsecond hsecond'
  let n := (((byte.toNat - 0xF0) * 64 + (second.toNat - 0x80)) * 64 + (third.toNat - 0x80)) * 64 +
    (fourth.toNat - 0x80)
  have hn : n = (((byte.toNat - 0xF0) * 64 + (second.toNat - 0x80)) * 64 +
    (third.toNat - 0x80)) * 64 + (fourth.toNat - 0x80) := rfl
  refine ⟨Char.ofNat n, tail, ?_⟩
  rw [String.utf8EncodeChar, toNat_charOfNat (by omega), if_neg (by omega), if_neg (by omega),
    if_neg (by omega), eq_ofNat (by omega) (by omega : byte.toNat = _),
    eq_ofNat (by omega) (by omega : second.toNat = _),
    eq_ofNat (by omega) (by omega : third.toNat = _),
    eq_ofNat (by omega) (by omega : fourth.toNat = _)]
  rfl

/-- What is read without an ill-formed piece begins with the bytes of a character. -/
theorem exists_encodeChar (h : none ∉ scan none (byte :: rest)) :
    ∃ c tail, byte :: rest = String.utf8EncodeChar c ++ tail := by
  have hbound := UInt8.toNat_lt byte
  by_cases hone : byte.toNat < 0x80
  · refine ⟨Char.ofNat byte.toNat, rest, ?_⟩
    rw [String.utf8EncodeChar, toNat_charOfNat (by omega), if_pos (by omega), List.singleton_append,
      eq_ofNat hbound rfl]
  by_cases hstray : byte.toNat < 0xC2 ∨ 0xF5 ≤ byte.toNat
  · have hlead : lead byte = .stray := lead_stray (by omega)
    refine absurd ?_ h
    simp only [scan, step, start, hlead, List.cons_append]
    exact List.mem_cons_self
  by_cases htwo : byte.toNat < 0xE0
  · exact exists_two (by omega) htwo h
  by_cases hthree : byte.toNat < 0xF0
  · exact exists_three (by omega) hthree h
  · exact exists_four (by omega) (by omega) h

end

/-- What is read without an ill-formed piece is the bytes of a text. -/
theorem exists_encode (bytes : Bytes) (h : none ∉ scan none bytes) :
    ∃ text, bytes = encode text := by
  induction hlength : bytes.length using Nat.strongRecOn generalizing bytes with
  | ind length ih =>
    cases bytes with
    | nil => exact ⟨[], rfl⟩
    | cons byte rest =>
      obtain ⟨c, tail, heq⟩ := exists_encodeChar h
      rw [heq] at h hlength
      rw [scan_encodeChar, List.mem_cons, not_or] at h
      have hpos := List.length_pos_iff.mpr (@String.utf8EncodeChar_ne_nil c)
      rw [List.length_append] at hlength
      obtain ⟨text, rfl⟩ := ih tail.length (by omega) tail h.2 rfl
      exact ⟨c :: text, heq⟩

/-- A row of pieces is a text if none of them is ill-formed. -/
theorem mapM_id_eq_some_iff {pieces : List (Option Char)} {text : List Char} :
    pieces.mapM id = some text ↔ pieces = text.map some := by
  induction pieces generalizing text with
  | nil => cases text <;> simp
  | cons piece rest ih =>
    rw [List.mapM_cons]
    cases text with
    | nil => cases piece <;> simp [Option.bind_eq_some_iff]
    | cons first text => cases piece <;> simp [Option.bind_eq_some_iff, ih, and_left_comm]

/-- Bytes are read strictly exactly if they are the bytes of a text, and then as that text. -/
theorem strict?_eq_some_iff {bytes : Bytes} {text : List Char} :
    strict? bytes = some text ↔ bytes = encode text := by
  have hself : ∀ text, pieces (encode text) = text.map some := fun text => by
    have hscan := scan_encode text []
    rw [List.append_nil] at hscan
    exact hscan.trans (List.append_nil _)
  rw [strict?, mapM_id_eq_some_iff]
  constructor
  · intro h
    obtain ⟨read, rfl⟩ := exists_encode bytes (by
      change none ∉ pieces bytes
      simp [h])
    rw [hself, List.map_inj_right fun _ _ => Option.some.inj] at h
    rw [h]
  · rintro rfl
    exact hself text

/-- A character below 0x80 is one byte. -/
theorem encodeChar_of_lt {c : Char} (h : c.toNat < 0x80) :
    String.utf8EncodeChar c = [UInt8.ofNat c.toNat] := by
  change c.val.toNat < 0x80 at h
  rw [String.utf8EncodeChar, if_pos (by omega)]
  rfl

/-- The bytes of a longer character: the first one opens it, and the others continue it. -/
theorem encodeChar_of_le {c : Char} (h : 0x80 ≤ c.toNat) :
    ∃ first rest, String.utf8EncodeChar c = first :: rest ∧ 0xC0 ≤ first.toNat ∧
      ∀ byte ∈ rest, 0x80 ≤ byte.toNat ∧ byte.toNat < 0xC0 := by
  change 0x80 ≤ c.val.toNat at h
  have hrange := char_range c
  have hnext : ∀ n, 0x80 ≤ (UInt8.ofNat (n % 0x40 + 0x80)).toNat ∧
      (UInt8.ofNat (n % 0x40 + 0x80)).toNat < 0xC0 := fun n => by
    rw [toNat_ofNat (by omega)]
    omega
  rw [String.utf8EncodeChar, if_neg (by omega)]
  generalize c.val.toNat = n at *
  split
  · refine ⟨_, _, rfl, ?_, ?_⟩
    · rw [toNat_ofNat (by omega)]
      omega
    · simp only [List.mem_singleton, forall_eq]
      exact hnext n
  split
  · refine ⟨_, _, rfl, ?_, ?_⟩
    · rw [toNat_ofNat (by omega)]
      omega
    · simp only [List.mem_cons, List.not_mem_nil, or_false, forall_eq_or_imp, forall_eq]
      exact ⟨hnext _, hnext n⟩
  · refine ⟨_, _, rfl, ?_, ?_⟩
    · rw [toNat_ofNat (by omega)]
      omega
    · simp only [List.mem_cons, List.not_mem_nil, or_false, forall_eq_or_imp, forall_eq]
      exact ⟨hnext _, hnext _, hnext n⟩

/-- Only the first byte of a character does not continue it. -/
theorem encode_singleton (c : Char) :
    ∃ first rest, encode [c] = first :: rest ∧
      ∀ byte ∈ rest, 0x80 ≤ byte.toNat ∧ byte.toNat < 0xC0 := by
  rw [encode, List.flatMap_singleton]
  by_cases hone : c.toNat < 0x80
  · exact ⟨_, [], encodeChar_of_lt hone, fun _ hmem => absurd hmem List.not_mem_nil⟩
  · obtain ⟨first, rest, hbytes, -, hrest⟩ := encodeChar_of_le (Nat.le_of_not_lt hone)
    exact ⟨first, rest, hbytes, hrest⟩

/-- Bytes tell which character they begin with. -/
theorem encode_append_inj {c d : Char} {left right : Bytes}
    (h : encode [c] ++ left = encode [d] ++ right) : c = d := by
  have hscan := congrArg (scan none) h
  rw [scan_encode, scan_encode] at hscan
  exact Option.some.inj (List.cons.inj hscan).1

/-- The digits of a number are those of ASCII. -/
theorem digit_range {n : Nat} {digit : Char} (h : digit ∈ Nat.toDigits 10 n) :
    0x30 ≤ digit.toNat ∧ digit.toNat ≤ 0x39 :=
  Char.isDigit_iff_toNat.mp (Nat.isDigit_of_mem_toDigits (Nat.succ_pos 9) (Nat.le_refl 10) h)

/-- A decimal digit is one byte, so the bytes of a number are those of its decimal. -/
theorem ofNat_eq_encode (n : Nat) : Bytes.ofNat n = encode (toString n).toList := by
  rw [Nat.toString_eq_repr, Nat.toList_repr, Bytes.ofNat, encode, List.map_eq_flatMap]
  refine congrArg List.flatten (List.map_congr_left fun digit hdigit => ?_)
  have hsmall : digit.toNat < 0x80 := Nat.lt_of_le_of_lt (digit_range hdigit).2 (by decide)
  exact (encodeChar_of_lt hsmall).symm

end ProxyFilter.Text.Utf8
