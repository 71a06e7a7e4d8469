import ProxyFilter.Property
import ProxyFilter.Proofs.Text.Blank
import ProxyFilter.Proofs.Text.Utf8

/-!
# Lossy text keeps what is ASCII

Reading bytes as text puts one replacement in the place of each ill-formed piece. That makes up
no ASCII character and swallows none, since an opened character can only come to a longer one
and only goes on with bytes that are not ASCII. So the text of bytes may be put together from
those of two parts wherever the second part does not continue a character, and what is ASCII in
the text stands in the bytes as it is.
-/

namespace ProxyFilter.Text.Utf8

/-- Whether an opened character can come to a value: its leading bits are those read so far, and
the next ones fit the range of the next byte. -/
def Opened.Comes (opened : Opened) (value : Nat) : Prop :=
  opened.bits * 64 + (opened.low.toNat - 0x80) ≤ value / Nat.pow 64 opened.further ∧
    value / Nat.pow 64 opened.further ≤ opened.bits * 64 + (opened.high.toNat - 0x80)

/-- What holds of every opened character that is reached. -/
structure Opened.Sound (opened : Opened) : Prop where
  /-- It goes on with no byte below those that continue a character. -/
  low_le : 0x80 ≤ opened.low.toNat
  /-- It goes on with no byte above those that continue a character. -/
  high_le : opened.high.toNat ≤ 0xBF
  /-- It comes to characters of more than one byte only. -/
  comes : ∀ value, opened.Comes value →
    0x80 ≤ value ∧ (value < 0xD800 ∨ 0xDFFF < value ∧ value < 0x110000)

/-- Whether bytes do not continue a character at their beginning. -/
def Begins (bytes : Bytes) : Prop :=
  ∀ byte ∈ bytes.head?, byte.toNat < 0x80 ∨ 0xBF < byte.toNat

/-- Whether a character is one byte by itself. -/
def isAscii (char : Char) : Bool := char.toNat < 0x80

section

variable {byte low high : UInt8} {bits further : Nat} {opened : Opened} {position : Option Opened}

/-- Only an ASCII byte is a character by itself. -/
theorem lt_of_lead {char : Char} (h : lead byte = .single char) : byte.toNat < 0x80 := by
  by_cases hone : byte.toNat < 0x80
  · exact hone
  · unfold lead at h
    dsimp only at h
    rw [if_neg hone] at h
    repeat' split at h
    all_goals cases h

/-- What a first byte opens is sound. -/
theorem sound_of_lead (h : lead byte = .opens opened) : opened.Sound := by
  have hbound := UInt8.toNat_lt byte
  by_cases hone : byte.toNat < 0x80
  · rw [lead_one hone] at h
    cases h
  by_cases hstray : byte.toNat < 0xC2 ∨ 0xF5 ≤ byte.toNat
  · rw [lead_stray (by omega)] at h
    cases h
  by_cases htwo : byte.toNat < 0xE0
  · rw [lead_two (by omega) htwo] at h
    cases h
    refine ⟨Nat.le_refl 0x80, Nat.le_refl 0xBF, fun value hvalue => ?_⟩
    simp only [Opened.Comes, Nat.pow_eq, UInt8.reduceToNat] at hvalue
    omega
  by_cases hthree : byte.toNat < 0xF0
  · rw [lead_three (by omega) hthree] at h
    cases h
    refine ⟨by dsimp only; split <;> decide, by dsimp only; split <;> decide, fun value hvalue => ?_⟩
    simp only [Opened.Comes, Nat.pow_eq] at hvalue
    split at hvalue <;> split at hvalue <;> simp only [UInt8.reduceToNat] at hvalue <;> omega
  · rw [lead_four (by omega) (by omega)] at h
    cases h
    refine ⟨by dsimp only; split <;> decide, by dsimp only; split <;> decide, fun value hvalue => ?_⟩
    simp only [Opened.Comes, Nat.pow_eq] at hvalue
    split at hvalue <;> split at hvalue <;> simp only [UInt8.reduceToNat] at hvalue <;> omega

/-- A byte that an opened character goes on with, but does not end with, leaves it sound. -/
theorem Opened.Sound.more (h : Sound ⟨further + 1, low, high, bits⟩) (hlow : low ≤ byte)
    (hhigh : byte ≤ high) : Sound ⟨further, 0x80, 0xBF, bits * 64 + (byte.toNat - 0x80)⟩ := by
  rw [UInt8.le_iff_toNat_le] at hlow hhigh
  refine ⟨Nat.le_refl 0x80, Nat.le_refl 0xBF, fun value hvalue => h.comes value ?_⟩
  have hread : value / 64 ^ (further + 1) = value / 64 ^ further / 64 := by
    rw [Nat.div_div_eq_div_mul, Nat.pow_succ]
  simp only [Comes, Nat.pow_eq, UInt8.reduceToNat] at hvalue
  simp only [Comes, Nat.pow_eq, hread]
  omega

/-- What an opened character ends with is not ASCII. -/
theorem Opened.Sound.last (h : Sound ⟨0, low, high, bits⟩) (hlow : low ≤ byte)
    (hhigh : byte ≤ high) : isAscii (Char.ofNat (bits * 64 + (byte.toNat - 0x80))) = false := by
  rw [UInt8.le_iff_toNat_le] at hlow hhigh
  obtain ⟨hlong, hvalid⟩ := h.comes (bits * 64 + (byte.toNat - 0x80)) (by
    simp only [Comes, Nat.pow_eq, Nat.pow_zero, Nat.div_one]
    omega)
  have hvalue : (Char.ofNat (bits * 64 + (byte.toNat - 0x80))).toNat = _ := toNat_charOfNat hvalid
  rw [isAscii, hvalue]
  exact decide_eq_false (Nat.not_lt.mpr hlong)

/-- Between characters nothing is opened. -/
theorem sound_none : ∀ opened ∈ (none : Option Opened), opened.Sound :=
  fun _ hopened => (Option.not_mem_none _ hopened).elim

/-- What is opened behind a byte is sound. -/
theorem sound_step (hposition : ∀ opened ∈ position, opened.Sound) :
    ∀ opened ∈ (step position byte).2, opened.Sound := by
  have hstart : ∀ opened ∈ (start byte).2, opened.Sound := by
    unfold start
    split
    · exact sound_none
    · next hlead =>
      rintro opened ⟨⟩
      exact sound_of_lead hlead
    · exact sound_none
  unfold step
  split
  · exact hstart
  · next opened =>
    have hsound := hposition opened rfl
    obtain ⟨further, low, high, bits⟩ := opened
    split
    · next hrange =>
      cases further with
      | zero => exact sound_none
      | succ further =>
        rintro opened ⟨⟩
        exact hsound.more hrange.1 hrange.2
    · exact hstart

/-- Reading goes on behind the first byte. -/
theorem scan_cons (position : Option Opened) (byte : UInt8) (rest : Bytes) :
    scan position (byte :: rest) =
      (step position byte).1 ++ scan (step position byte).2 rest := by
  cases position <;> rfl

/-- A byte that an opened character does not go on with ends it as an ill-formed piece, and is read
from between characters. -/
theorem step_of_off (hoff : ¬(opened.low ≤ byte ∧ byte ≤ opened.high)) :
    step (some opened) byte = (none :: (start byte).1, (start byte).2) := by
  simp only [step, if_neg hoff]

/-- Behind an opened character that is cut off, bytes that do not continue it are read from
between characters. -/
theorem scan_some_of_begins (h : opened.Sound) {rest : Bytes} (hrest : Begins rest) :
    scan (some opened) rest = none :: scan none rest := by
  cases rest with
  | nil => rfl
  | cons byte rest =>
    have hoff : ¬(opened.low ≤ byte ∧ byte ≤ opened.high) := by
      rw [UInt8.le_iff_toNat_le, UInt8.le_iff_toNat_le]
      have hfirst := hrest byte rfl
      have hlow := h.low_le
      have hhigh := h.high_le
      omega
    rw [scan_cons, scan_cons, step_of_off hoff]
    rfl

/-- Bytes may be cut before what does not continue a character: both parts are read alone. -/
theorem scan_append (hposition : ∀ opened ∈ position, opened.Sound) (first : Bytes) {rest : Bytes}
    (hrest : Begins rest) : scan position (first ++ rest) = scan position first ++ scan none rest := by
  induction first generalizing position with
  | nil =>
    cases position with
    | none => rfl
    | some opened => exact scan_some_of_begins (hposition opened rfl) hrest
  | cons byte first ih =>
    rw [List.cons_append, scan_cons, scan_cons, ih (sound_step hposition), List.append_assoc]

/-- Some piece is reported of an opened character, whatever follows. -/
theorem scan_some_ne_nil (opened : Opened) (bytes : Bytes) : scan (some opened) bytes ≠ [] := by
  induction bytes generalizing opened with
  | nil => exact List.cons_ne_nil _ _
  | cons byte rest ih =>
    obtain ⟨further, low, high, bits⟩ := opened
    rw [scan_cons]
    by_cases hrange : low ≤ byte ∧ byte ≤ high
    · simp only [step, if_pos hrange]
      cases further with
      | zero => exact List.cons_ne_nil _ _
      | succ further => exact ih _
    · rw [step_of_off hrange]
      exact List.cons_ne_nil _ _

/-- Nothing is reported of no bytes only. -/
theorem scan_eq_nil_iff {bytes : Bytes} : scan none bytes = [] ↔ bytes = [] := by
  constructor
  · intro h
    cases bytes with
    | nil => rfl
    | cons byte rest =>
      rw [scan_cons] at h
      simp only [step, start] at h
      split at h
      · exact absurd h (List.cons_ne_nil _ _)
      · exact absurd h (scan_some_ne_nil _ _)
      · exact absurd h (List.cons_ne_nil _ _)
  · rintro rfl
    rfl

/-- The ASCII characters of what is reported of a byte between characters: the byte itself, if it
is one. -/
theorem filter_start (byte : UInt8) :
    ((start byte).1.map (·.getD replacement)).filter isAscii =
      if byte.toNat < 0x80 then [Char.ofNat byte.toNat] else [] := by
  by_cases hone : byte.toNat < 0x80
  · have hchar : (Char.ofNat byte.toNat).toNat = byte.toNat := toNat_charOfNat (by omega)
    have hself : isAscii (Char.ofNat byte.toNat) = true := by
      rw [isAscii, hchar]
      exact decide_eq_true hone
    rw [start, lead_one hone, if_pos hone]
    exact List.filter_cons_of_pos hself
  · rw [if_neg hone, start]
    split
    · next char hsingle => exact absurd (lt_of_lead hsingle) hone
    · rfl
    · rfl

/-- What is reported of a byte has the byte itself as its only ASCII character, if it is one. -/
theorem filter_step (hposition : ∀ opened ∈ position, opened.Sound) :
    ((step position byte).1.map (·.getD replacement)).filter isAscii =
      if byte.toNat < 0x80 then [Char.ofNat byte.toNat] else [] := by
  cases position with
  | none => exact filter_start byte
  | some opened =>
    have hsound := hposition opened rfl
    obtain ⟨further, low, high, bits⟩ := opened
    by_cases hrange : low ≤ byte ∧ byte ≤ high
    · have hlow : low.toNat ≤ byte.toNat := UInt8.le_iff_toNat_le.mp hrange.1
      rw [if_neg (Nat.not_lt.mpr (Nat.le_trans hsound.low_le hlow))]
      simp only [step, if_pos hrange]
      cases further with
      | zero =>
        have hlong := hsound.last hrange.1 hrange.2
        simp only [List.map_cons, List.map_nil, Option.getD_some, List.filter_cons, hlong]
        rfl
      | succ further => rfl
    · rw [step_of_off hrange]
      exact filter_start byte

/-- What is reported has the ASCII characters that are bytes by themselves, in order. -/
theorem filter_scan (hposition : ∀ opened ∈ position, opened.Sound) (bytes : Bytes) :
    ((scan position bytes).map (·.getD replacement)).filter isAscii =
      (bytes.filter fun byte => byte.toNat < 0x80).map fun byte => Char.ofNat byte.toNat := by
  induction bytes generalizing position with
  | nil => cases position <;> rfl
  | cons byte rest ih =>
    rw [scan_cons, List.map_append, List.filter_append, filter_step hposition,
      ih (sound_step hposition), List.filter_cons]
    by_cases hone : byte.toNat < 0x80
    · simp only [hone, if_true, decide_true]
      rfl
    · simp only [hone, if_false, decide_false]
      rfl

end

/-- The text of bytes is empty only if there are none. -/
theorem lossy_eq_nil_iff {bytes : Bytes} : lossy bytes = [] ↔ bytes = [] := by
  rw [lossy, List.map_eq_nil_iff]
  exact scan_eq_nil_iff

/-- The text of two parts is that of both, if the second does not continue a character. -/
theorem lossy_append (first : Bytes) {rest : Bytes} (hrest : Begins rest) :
    lossy (first ++ rest) = lossy first ++ lossy rest := by
  rw [lossy, pieces, scan_append sound_none first hrest, List.map_append]
  rfl

/-- The text of well-formed bytes, and of what follows them, is the one that they stand for. -/
theorem lossy_encode_append (text : List Char) (rest : Bytes) :
    lossy (encode text ++ rest) = text ++ lossy rest := by
  rw [lossy, pieces, scan_encode, List.map_append, List.map_map]
  exact congrArg (· ++ lossy rest) (List.map_id text)

/-- The ASCII characters of a text are the ASCII bytes, in order. -/
theorem filter_lossy (bytes : Bytes) :
    (lossy bytes).filter isAscii =
      (bytes.filter fun byte => byte.toNat < 0x80).map fun byte => Char.ofNat byte.toNat :=
  filter_scan sound_none bytes

section

variable {char : Char} {bytes : Bytes} {text : List Char}

/-- An ASCII character is one byte. -/
theorem encode_of_isAscii (hascii : isAscii char = true) :
    encode [char] = [UInt8.ofNat char.toNat] := by
  rw [encode, List.flatMap_singleton, encodeChar_of_lt (of_decide_eq_true hascii)]

/-- The byte of an ASCII character is one. -/
theorem toNat_of_isAscii (hascii : isAscii char = true) :
    (UInt8.ofNat char.toNat).toNat = char.toNat ∧ char.toNat < 0x80 := by
  have hsmall : char.toNat < 0x80 := of_decide_eq_true hascii
  exact ⟨toNat_ofNat (by omega), hsmall⟩

/-- The text behind an ASCII character is that of the bytes behind it. -/
theorem lossy_cons (hascii : isAscii char = true) (rest : Bytes) :
    lossy (UInt8.ofNat char.toNat :: rest) = char :: lossy rest := by
  have hbytes := lossy_encode_append [char] rest
  rwa [encode_of_isAscii hascii] at hbytes

/-- An ASCII character is in the text if its byte is one of the bytes. -/
theorem mem_lossy_iff (hascii : isAscii char = true) :
    char ∈ lossy bytes ↔ UInt8.ofNat char.toNat ∈ bytes := by
  obtain ⟨hbyte, hsmall⟩ := toNat_of_isAscii hascii
  have hfilter : char ∈ lossy bytes ↔ char ∈ (lossy bytes).filter isAscii := by
    rw [List.mem_filter, hascii, and_iff_left rfl]
  rw [hfilter, filter_lossy, List.mem_map]
  constructor
  · rintro ⟨byte, hmem, rfl⟩
    obtain ⟨hmem, hone⟩ := List.mem_filter.mp hmem
    have hchar : (Char.ofNat byte.toNat).toNat = byte.toNat :=
      toNat_charOfNat (.inl (Nat.lt_trans (of_decide_eq_true hone) (by decide)))
    rwa [hchar, UInt8.ofNat_toNat]
  · intro hmem
    refine ⟨_, List.mem_filter.mpr ⟨hmem, ?_⟩, ?_⟩
    · rw [hbyte]
      exact decide_eq_true hsmall
    · rw [hbyte]
      exact Char.ofNat_toNat char

/-- Up to an ASCII character a text is that of the bytes up to its byte. -/
theorem takeWhile_lossy (hascii : isAscii char = true) (bytes : Bytes) :
    (lossy bytes).takeWhile (· != char) =
      lossy (bytes.takeWhile (· != UInt8.ofNat char.toNat)) := by
  obtain ⟨hnone, hrest⟩ := cut_at (UInt8.ofNat char.toNat) bytes
  have hsplit := bytes.takeWhile_append_dropWhile (p := (· != UInt8.ofNat char.toNat))
  generalize bytes.takeWhile (· != UInt8.ofNat char.toNat) = first at hnone hsplit ⊢
  generalize bytes.dropWhile (· != UInt8.ofNat char.toNat) = rest at hrest hsplit
  rw [← mem_lossy_iff hascii] at hnone
  have hbegins : Begins rest := by
    rcases hrest with rfl | hhead
    · intro byte hbyte
      cases hbyte
    · obtain ⟨hbyte, hsmall⟩ := toNat_of_isAscii hascii
      intro byte hmem
      rw [hhead] at hmem
      cases hmem
      rw [hbyte]
      exact .inl hsmall
  have hstop : lossy rest = [] ∨ (lossy rest).head? = some char := by
    rcases hrest with rfl | hhead
    · exact .inl rfl
    · obtain ⟨tail, rfl⟩ := List.head?_eq_some_iff.mp hhead
      rw [lossy_cons hascii]
      exact .inr rfl
  rw [← hsplit, lossy_append first hbegins]
  exact takeWhile_of_cut hnone hstop

/-- A text begins with an ASCII character exactly if the bytes begin with its byte. -/
theorem lossy_eq_cons_iff (hascii : isAscii char = true) :
    lossy bytes = char :: text ↔
      ∃ rest, bytes = UInt8.ofNat char.toNat :: rest ∧ lossy rest = text := by
  constructor
  · intro h
    have hnone : (lossy bytes).takeWhile (· != char) = [] := by
      rw [h]
      exact List.takeWhile_cons_of_neg (by simp)
    rw [takeWhile_lossy hascii, lossy_eq_nil_iff] at hnone
    cases bytes with
    | nil => cases h
    | cons byte rest =>
      by_cases hbyte : byte = UInt8.ofNat char.toNat
      · rw [hbyte, lossy_cons hascii] at h
        exact ⟨rest, congrArg (· :: rest) hbyte, (List.cons.inj h).2⟩
      · have hkept : (byte != UInt8.ofNat char.toNat) = true := bne_iff_ne.mpr hbyte
        simp only [List.takeWhile_cons, hkept] at hnone
        cases hnone
  · rintro ⟨rest, rfl, rfl⟩
    exact lossy_cons hascii rest

/-- A text begins with an ASCII text exactly if the bytes begin with its bytes. -/
theorem lossy_eq_append_iff (hascii : ∀ char ∈ text, isAscii char = true) {tail : List Char} :
    lossy bytes = text ++ tail ↔ ∃ rest, bytes = encode text ++ rest ∧ lossy rest = tail := by
  constructor
  · intro h
    induction text generalizing bytes with
    | nil => exact ⟨bytes, rfl, h⟩
    | cons char text ih =>
      obtain ⟨hfirst, hothers⟩ := List.forall_mem_cons.mp hascii
      obtain ⟨behind, rfl, hbehind⟩ := (lossy_eq_cons_iff hfirst).mp h
      obtain ⟨rest, rfl, hrest⟩ := ih hothers hbehind
      refine ⟨rest, ?_, hrest⟩
      rw [encode_cons, encode_of_isAscii hfirst]
      rfl
  · rintro ⟨rest, rfl, rfl⟩
    exact lossy_encode_append text rest

end

end ProxyFilter.Text.Utf8

namespace ProxyFilter.Property

open Text

/-- The bytes of a text are decoded to it. -/
theorem decode_encode (text : String) : decode (Utf8.encode text.toList) = text := by
  have hbytes := Utf8.lossy_encode_append text.toList []
  rw [List.append_nil] at hbytes
  rw [decode, hbytes]
  exact (congrArg String.ofList (List.append_nil _)).trans String.ofList_toList

/-- An ASCII text is decoded from its own bytes only. -/
theorem decode_eq_iff {bytes : Bytes} {text : String}
    (hascii : ∀ char ∈ text.toList, Utf8.isAscii char = true) :
    decode bytes = text ↔ bytes = Utf8.encode text.toList := by
  constructor
  · rintro rfl
    have hself : Utf8.lossy bytes = (decode bytes).toList ++ [] := by
      rw [decode, String.toList_ofList, List.append_nil]
    obtain ⟨rest, hbytes, hrest⟩ := (Utf8.lossy_eq_append_iff hascii).mp hself
    rwa [Utf8.lossy_eq_nil_iff.mp hrest, List.append_nil] at hbytes
  · rintro rfl
    exact decode_encode text

end ProxyFilter.Property
