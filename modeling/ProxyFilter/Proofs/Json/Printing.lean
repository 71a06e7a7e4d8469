import ProxyFilter.Json.Printer
import ProxyFilter.Proofs.Json.Canonical
import ProxyFilter.Proofs.Json.Texts

/-!
# Compact texts are read back

What is written for a value is a text of that value, as long as its numbers are integers and it is
not nested too deep. So reading gives the value back, and two such values are written alike only
if they are one.
-/

namespace ProxyFilter.Json

open Text Grammar

/-! ## Strings -/

/-- The hexadecimal digits below sixteen are single bytes that are read back. -/
theorem encode_digitChar : ∀ digit < 16,
    Utf8.encode [Nat.digitChar digit] = [UInt8.ofNat (Nat.digitChar digit).toNat] ∧
      hexDigit? (UInt8.ofNat (Nat.digitChar digit).toNat) = some digit := by
  decide

/-- They are the hexadecimal digits with these values. -/
theorem isHexDigit_digitChar {digit : Nat} (h : digit < 16) :
    IsHexDigit (UInt8.ofNat (Nat.digitChar digit).toNat) digit :=
  isHexDigit_of_hexDigit? (encode_digitChar digit h).2

/-- A control character is spelled by its number. -/
theorem isEscape_of_control {c : Char} (h : c.toNat < 0x20) :
    IsEscape (Utf8.encode ['\\', 'u', '0', '0', Nat.digitChar (c.toNat / 16),
      Nat.digitChar (c.toNat % 16)]) c := by
  have hsmall : c.toNat / 16 < 16 ∧ c.toNat % 16 < 16 := by omega
  obtain ⟨hhigh, -⟩ := encode_digitChar (c.toNat / 16) hsmall.1
  obtain ⟨hlow, -⟩ := encode_digitChar (c.toNat % 16) hsmall.2
  have hbytes : Utf8.encode ['\\', 'u', '0', '0', Nat.digitChar (c.toNat / 16),
      Nat.digitChar (c.toNat % 16)] = Utf8.encode ['\\', 'u'] ++
        [UInt8.ofNat (Nat.digitChar 0).toNat, UInt8.ofNat (Nat.digitChar 0).toNat,
          UInt8.ofNat (Nat.digitChar (c.toNat / 16)).toNat,
          UInt8.ofNat (Nat.digitChar (c.toNat % 16)).toNat] := by
    change Utf8.encode (['\\', 'u', '0', '0'] ++ ([Nat.digitChar (c.toNat / 16)] ++
      [Nat.digitChar (c.toNat % 16)])) = _
    rw [Utf8.encode_append, Utf8.encode_append, hhigh, hlow]
    rfl
  have hunit : ((0 * 16 + 0) * 16 + c.toNat / 16) * 16 + c.toNat % 16 = c.toNat := by omega
  have hzero := @isHexDigit_digitChar 0 (by decide)
  have hhex := IsHex.four hzero hzero (isHexDigit_digitChar hsmall.1)
    (isHexDigit_digitChar hsmall.2)
  have hescape := IsEscape.unit _ _ hhex (by omega)
  rwa [hunit, Char.ofNat_toNat, ← hbytes] at hescape

/-- What is written for a character stands for it in a string. -/
theorem spells_escape (c : Char) : Spells (Utf8.encode (escape c)) c := by
  have hshort : ∀ letter given, c = given → (letter, given) ∈ shortEscapes →
      Spells (Utf8.encode ['\\', letter]) c := fun letter given hc hmem =>
    hc ▸ .escape (.short letter given hmem)
  rw [escape]
  split
  · next hquote => exact hshort '"' '"' hquote (by decide)
  next hquote =>
  split
  · next hbackslash => exact hshort '\\' '\\' hbackslash (by decide)
  next hbackslash =>
  split
  · next hc => exact hshort 'b' '\x08' hc (by decide)
  split
  · next hc => exact hshort 'f' '\x0c' hc (by decide)
  split
  · next hc => exact hshort 'n' '\n' hc (by decide)
  split
  · next hc => exact hshort 'r' '\r' hc (by decide)
  split
  · next hc => exact hshort 't' '\t' hc (by decide)
  split
  · next hcontrol => exact .escape (isEscape_of_control hcontrol)
  next hcontrol => exact .plain c (Nat.le_of_not_lt hcontrol) hquote hbackslash

/-- What is written for characters stands for them in a string. -/
theorem isInside_escape (text : List Char) : IsInside (Utf8.encode (text.flatMap escape)) text := by
  induction text with
  | nil => exact .nil
  | cons c text ih =>
    rw [List.flatMap_cons, Utf8.encode_append]
    exact .cons (spells_escape c) ih

/-- What is written for a string is one. -/
theorem isString_quoted (text : String) : IsString (Utf8.encode (quoted text)) text := by
  have hstring := IsString.quoted (isInside_escape text.toList)
  rwa [← Utf8.encode_append, ← Utf8.encode_append, String.ofList_toList] at hstring

/-! ## Whole numbers -/

section

variable {literal : Literal} {n : Nat}

/-- A number that does not begin with a zero counts all the places behind its first digit. -/
theorem pow_le_value {first : UInt8} {others : Bytes} (hfirst : isDigit first = true)
    (hzero : first ≠ '0'.toUInt8) :
    Nat.pow 10 others.length ≤ Digits.value (digitValues (first :: others)) := by
  have hlow : 0x30 ≤ first := of_decide_eq_true (Bool.and_eq_true _ _ ▸ hfirst).1
  have hle : 0x30 ≤ first.toNat := UInt8.le_iff_toNat_le.mp hlow
  have hne : first.toNat ≠ 0x30 := fun heq => hzero (UInt8.toNat_inj.mp heq)
  have hplaces := pow_le_foldl_digits (digitValues others) (0 * 10 + (first.toNat - 0x30))
  rw [digitValues, List.length_map] at hplaces
  exact Nat.le_trans (Nat.le_mul_of_pos_left _ (by omega)) hplaces

/-- Below 2^64 a number has twenty digits at most. -/
theorem length_le_of_lt (h : literal.WellFormed)
    (hless : Digits.value (digitValues literal.whole) < Nat.pow 2 64) :
    (digitValues literal.whole).length ≤ 20 := by
  obtain ⟨first, others, hwhole, hfirst, -⟩ := exists_cons_of_areDigits h.whole
  rw [digitValues, List.length_map]
  by_cases hzero : first = '0'.toUInt8
  · rw [h.zero (by rw [hwhole, hzero]; rfl)]
    decide
  · rw [hwhole] at hless ⊢
    have hpow := @pow_le_value first others hfirst hzero
    by_contra hlong
    have hten : Nat.pow 10 20 ≤ Nat.pow 10 others.length :=
      Nat.pow_le_pow_right (by decide) (by rw [List.length_cons] at hlong; omega)
    have hbound : Nat.pow 2 64 < Nat.pow 10 20 := by decide
    omega

/-- The integer that the sign and the digits before the point write. -/
def Grammar.Literal.integer (literal : Literal) : Int :=
  if literal.negative then -(Digits.value (digitValues literal.whole) : Int)
  else Digits.value (digitValues literal.whole)

/-- An integer of 64 bits is kept as it is. -/
theorem value?_of_isInteger (h : literal.WellFormed) (hinteger : literal.IsInteger) :
    literal.value? = some (.integer literal.integer) := by
  have hlimit : Nat.pow 2 63 < Nat.pow 2 64 := by decide
  rw [Literal.value?, hinteger.fraction, hinteger.power]
  dsimp only
  rw [Number.ofWhole?, Number.integer?, Literal.integer]
  cases hsign : literal.negative with
  | false =>
    have hless := hinteger.unsigned hsign
    rw [if_neg (Nat.not_lt.mpr (length_le_of_lt h hless))]
    simp [hless]
  | true =>
    obtain ⟨hpositive, hle⟩ := hinteger.signed hsign
    rw [if_neg (Nat.not_lt.mpr (length_le_of_lt h (Nat.lt_of_le_of_lt hle hlimit)))]
    simp [hpositive, hle]

/-- Integers of 64 bits are kept. -/
theorem isKept_of_isInteger (h : literal.WellFormed) (hinteger : literal.IsInteger) :
    literal.IsKept := by
  rw [Literal.IsKept, value?_of_isInteger h hinteger]
  exact Option.some_ne_none _

/-- The literal of a whole number. -/
def Grammar.Literal.ofWhole (negative : Bool) (n : Nat) : Literal :=
  ⟨negative, Bytes.ofNat n, none, none⟩

/-- The digits of a number write it. -/
theorem value_ofNat (n : Nat) : Digits.value (digitValues (Bytes.ofNat n)) = n := by
  have hdigits : digitValues (Bytes.ofNat n) =
      (Nat.toDigits 10 n).map fun digit => digit.toNat - '0'.toNat := by
    rw [digitValues, Bytes.ofNat, List.map_map]
    refine List.map_congr_left fun digit hdigit => ?_
    have hrange := Utf8.digit_range hdigit
    rw [Function.comp_apply, Utf8.toNat_ofNat (by omega)]
    rfl
  calc Digits.value (digitValues (Bytes.ofNat n))
      = Nat.ofDigitChars 10 (Nat.toDigits 10 n) 0 := by
        rw [hdigits, Digits.value, List.foldl_map, Nat.ofDigitChars_eq_foldl]
        simp only [Nat.mul_comm 10]
    _ = n := Nat.ofDigitChars_ten_toDigits

/-- Only zero is written with a leading zero. -/
theorem ne_zero_of_head {digit : Char} (hn : n ≠ 0) (h : digit ∈ (Nat.toDigits 10 n).head?) :
    digit ≠ '0' := by
  induction n using Nat.strongRecOn with
  | ind n ih =>
    rw [Nat.toDigits_eq_if (by decide)] at h
    split at h
    · next hsmall =>
      obtain rfl : n.digitChar = digit := Option.some.inj h
      have hdigits : ∀ digit < 10, digit ≠ 0 → Nat.digitChar digit ≠ '0' := by decide
      exact hdigits n hsmall hn
    · next hlarge =>
      rw [List.head?_append_of_ne_nil _ Nat.toDigits_ne_nil] at h
      exact ih (n / 10) (by omega) (by omega) h

/-- The literal of a whole number is well-formed. -/
theorem wellFormed_ofWhole (negative : Bool) (n : Nat) :
    (Literal.ofWhole negative n).WellFormed where
  whole := by
    refine ⟨fun hnil => Nat.toDigits_ne_nil (List.map_eq_nil_iff.mp hnil), fun byte hbyte => ?_⟩
    obtain ⟨digit, hdigit, rfl⟩ := List.mem_map.mp hbyte
    have hrange := Utf8.digit_range hdigit
    have hvalue : (UInt8.ofNat digit.toNat).toNat = digit.toNat := Utf8.toNat_ofNat (by omega)
    rw [hvalue]
    exact hrange
  zero := by
    intro hhead
    by_cases hn : n = 0
    · rw [hn]
      rfl
    · change ((Nat.toDigits 10 n).map _).head? = _ at hhead
      rw [List.head?_map, Option.map_eq_some_iff] at hhead
      obtain ⟨digit, hdigit, hbyte⟩ := hhead
      have hrange := Utf8.digit_range (List.mem_of_head? hdigit)
      have hvalue := congrArg UInt8.toNat hbyte
      rw [Utf8.toNat_ofNat (by omega)] at hvalue
      exact absurd (Char.toNat_inj.mp hvalue) (ne_zero_of_head hn hdigit)
  fraction := nofun
  power := nofun

/-- The bytes of the literal of a whole number are its digits behind the sign. -/
theorem bytes_ofWhole (negative : Bool) (n : Nat) :
    (Literal.ofWhole negative n).bytes =
      Utf8.encode ((if negative then ['-'] else []) ++ Nat.toDigits 10 n) := by
  have hdigits : Utf8.encode (Nat.toDigits 10 n) = Bytes.ofNat n := by
    rw [Utf8.ofNat_eq_encode, Nat.toString_eq_repr, Nat.toList_repr]
  have hunsigned : (Literal.ofWhole negative n).unsigned = Bytes.ofNat n := by
    change Bytes.ofNat n ++ [] ++ [] = Bytes.ofNat n
    rw [List.append_nil, List.append_nil]
  rw [Literal.bytes, hunsigned, Utf8.encode_append, hdigits]
  cases negative <;> rfl

/-- The literal of a whole number writes it. -/
theorem value_ofWhole (negative : Bool) (n : Nat) :
    Digits.value (digitValues (Literal.ofWhole negative n).whole) = n := value_ofNat n

/-- An integer that fits 64 bits, with or without a sign. -/
def FitsWord (value : Int) : Prop := -(Nat.pow 2 63 : Int) ≤ value ∧ value < Nat.pow 2 64

/-- What is written for an integer of 64 bits is a literal of it. -/
theorem exists_literal {value : Int} (h : FitsWord value) :
    ∃ literal : Literal, literal.WellFormed ∧ literal.IsInteger ∧
      Utf8.encode (Number.whole value) = literal.bytes ∧
      literal.value? = some (.integer value) := by
  obtain ⟨hlow, hhigh⟩ := h
  cases value with
  | ofNat n =>
    have hwell := wellFormed_ofWhole false n
    have hinteger : (Literal.ofWhole false n).IsInteger :=
      ⟨rfl, rfl, fun _ => by rw [value_ofWhole]; exact Int.ofNat_lt.mp hhigh, nofun⟩
    refine ⟨_, hwell, hinteger, (bytes_ofWhole false n).symm, ?_⟩
    rw [value?_of_isInteger hwell hinteger, Literal.integer, value_ofWhole]
    rfl
  | negSucc n =>
    have hwell := wellFormed_ofWhole true (n + 1)
    have hinteger : (Literal.ofWhole true (n + 1)).IsInteger := by
      refine ⟨rfl, rfl, nofun, fun _ => ?_⟩
      rw [value_ofWhole]
      exact ⟨Nat.succ_pos n, by omega⟩
    refine ⟨_, hwell, hinteger, (bytes_ofWhole true (n + 1)).symm, ?_⟩
    rw [value?_of_isInteger hwell hinteger, Literal.integer, value_ofWhole]
    rfl

/-- The number that an integer literal writes fits 64 bits. -/
theorem fitsWord_of_isInteger (hinteger : literal.IsInteger) : FitsWord literal.integer := by
  unfold FitsWord Literal.integer
  cases hsign : literal.negative with
  | false =>
    have hless := hinteger.unsigned hsign
    rw [if_neg Bool.false_ne_true]
    omega
  | true =>
    obtain ⟨hpositive, hle⟩ := hinteger.signed hsign
    rw [if_pos rfl]
    omega

end

/-! ## Rows -/

/-- The parts of a row as they are written, with commas between them. -/
def row {α : Type} (write : α → List Char) : List α → List Char
  | [] => []
  | first :: rest => write first ++ rest.flatMap fun value => ',' :: write value

/-- A member of an object as it is written. -/
def memberText (member : String × Value) : List Char :=
  quoted member.1 ++ ':' :: member.2.compact

/-- A list is written as a row between brackets. -/
theorem compact_array (items : List Value) :
    Value.compact (.array items) = '[' :: (row Value.compact items ++ [']']) := by
  have hrest : ∀ rest : List Value, Value.compactItems rest =
      (rest.flatMap fun item => ',' :: item.compact) ++ [']'] := fun rest => by
    induction rest with
    | nil => rfl
    | cons item rest ih => rw [Value.compactItems, ih, List.flatMap_cons, List.append_assoc]
  cases items with
  | nil => rfl
  | cons item rest => rw [Value.compact, hrest, row, List.cons_append, List.append_assoc]

/-- An object is written as a row between braces. -/
theorem compact_object (members : List (String × Value)) :
    Value.compact (.object members) = '\x7b' :: (row memberText members ++ ['\x7d']) := by
  have hrest : ∀ rest : List (String × Value), Value.compactMembers rest =
      (rest.flatMap fun member => ',' :: memberText member) ++ ['\x7d'] := fun rest => by
    induction rest with
    | nil => rfl
    | cons member rest ih =>
      rw [Value.compactMembers, ih, List.flatMap_cons, List.append_assoc, memberText]
      simp only [List.cons_append, List.append_assoc]
  cases members with
  | nil => rfl
  | cons member rest =>
    rw [Value.compact, hrest, row, memberText]
    simp only [List.cons_append, List.append_assoc]

/-- Parts that are written one by one are written as a row. -/
theorem isRow_row {α : Type} {Part : Bytes → α → Prop} {write : α → List Char} {values : List α}
    (h : ∀ value ∈ values, Part (Utf8.encode (write value)) value) :
    IsRow Part (Utf8.encode (row write values)) values := by
  cases values with
  | nil => exact .empty nofun
  | cons first rest =>
    refine .parts ?_
    induction rest generalizing first with
    | nil =>
      rw [row, List.flatMap_nil, List.append_nil]
      exact .one (.bare (h first List.mem_cons_self))
    | cons second rest ih =>
      obtain ⟨hfirst, hrest⟩ := List.forall_mem_cons.mp h
      rw [row, List.flatMap_cons, Utf8.encode_append]
      exact .more (.bare hfirst) (ih second hrest)

/-! ## Values -/

/-- A value with at most a number of lists and objects inside one another whose numbers are
integers of 64 bits. -/
inductive Fits : Nat → Value → Prop
  /-- Nothing is one. -/
  | null {depth : Nat} : Fits depth .null
  /-- A truth value is one. -/
  | bool {depth : Nat} (value : Bool) : Fits depth (.bool value)
  /-- An integer is one. -/
  | integer {depth : Nat} {value : Int} (h : FitsWord value) :
    Fits depth (.number (.integer value))
  /-- A string is one. -/
  | string {depth : Nat} (text : String) : Fits depth (.string text)
  /-- A list of them is one, a step deeper. -/
  | array {depth : Nat} {items : List Value} (h : ∀ item ∈ items, Fits depth item) :
    Fits (depth + 1) (.array items)
  /-- An object of them is one, a step deeper. -/
  | object {depth : Nat} {members : List (String × Value)}
      (h : ∀ member ∈ members, Fits depth member.2) : Fits (depth + 1) (.object members)

section

variable {depth : Nat} {bytes : Bytes} {value other : Value}

/-- What a text with integers holds fits. -/
theorem fits_of_isValueOf (h : IsValueOf Literal.IsInteger depth bytes value) :
    Fits depth value := by
  have hscalar : ∀ {depth : Nat} {bytes : Bytes} {value : Value},
      IsScalarOf Literal.IsInteger bytes value → Fits depth value := by
    intro depth bytes value h
    cases h with
    | other h hother =>
      cases h with
      | null => exact .null
      | truth => exact .bool true
      | falsehood => exact .bool false
      | string h => exact .string _
      | number literal number => exact absurd rfl (hother number)
    | number literal number hwell hinteger hvalue =>
      rw [hvalue _ (value?_of_isInteger hwell hinteger)]
      exact .integer (fitsWord_of_isInteger hinteger)
  induction depth generalizing bytes value with
  | zero => exact hscalar h
  | succ depth ih =>
    rcases h with h | h
    · exact hscalar h
    · cases h with
      | list hrow =>
        refine .array fun item hitem => ?_
        obtain ⟨part, hpart⟩ := hrow.exists_part item hitem
        exact ih hpart
      | object hrow =>
        refine .object fun member hmember => ?_
        obtain ⟨part, hpart⟩ := hrow.exists_part member hmember
        cases hpart with
        | colon _ _ _ hvalue => exact ih hvalue

/-- So does its canonical form. -/
theorem Fits.canonical (h : Fits depth value) : Fits depth value.canonical := by
  induction h with
  | null => exact .null
  | bool value => exact .bool value
  | integer h => exact .integer h
  | string text => exact .string text
  | array _ ih =>
    rw [Value.canonical, Value.canonicalItems_eq]
    exact .array (List.forall_mem_map.mpr ih)
  | object _ ih =>
    rw [Value.canonical, Value.canonicalMembers_eq]
    refine .object fun member hmember => ?_
    obtain ⟨given, hgiven, rfl⟩ := List.mem_map.mp (Value.mem_of_mem_settle hmember)
    exact ih given hgiven

/-- What is written for such a value is one. -/
theorem isValueOf_compact (h : Fits depth value) :
    IsValueOf Literal.IsInteger depth (Utf8.encode value.compact) value := by
  have hclosed : ∀ (opening close : Char) (body : List Char),
      Utf8.encode (opening :: (body ++ [close])) =
        Utf8.encode [opening] ++ (Utf8.encode body ++ Utf8.encode [close]) :=
    fun opening close body => by rw [Utf8.encode_cons, Utf8.encode_append]
  induction h with
  | null => exact IsScalarOf.isValueOf .null
  | bool value =>
    cases value with
    | false => exact IsScalarOf.isValueOf .falsehood
    | true => exact IsScalarOf.isValueOf .truth
  | integer h =>
    obtain ⟨literal, hwell, hinteger, hbytes, hvalue⟩ := exists_literal h
    refine IsScalarOf.isValueOf ?_
    rw [Value.compact, Number.text, hbytes]
    refine .number literal _ hwell hinteger fun kept hkept => ?_
    rw [hvalue] at hkept
    exact Option.some.inj hkept
  | string text => exact IsScalarOf.isValueOf (.string (isString_quoted text))
  | array _ ih =>
    rw [compact_array, hclosed]
    exact .inr (.list (isRow_row ih))
  | object _ ih =>
    rw [compact_object, hclosed]
    refine .inr (.object (isRow_row fun member hmember => ?_))
    rw [memberText, Utf8.encode_append, Utf8.encode_cons]
    exact .bare (isString_quoted member.1) (ih member hmember)

/-- What is written for such a value is read back. -/
theorem parse_compact (h : Fits depthLimit value) :
    Value.parse (Utf8.encode value.compact) = .ok value := by
  have hvalue := (isValueOf_compact h).imp fun _ => isKept_of_isInteger
  exact parse_eq_ok_iff_isTextOf.mpr (.bare hvalue)

/-- Such values are written alike only if they are one. -/
theorem compact_inj (h : Fits depthLimit value) (hother : Fits depthLimit other) :
    value.compact = other.compact ↔ value = other := by
  refine ⟨fun heq => ?_, fun heq => heq ▸ rfl⟩
  have hread := parse_compact h
  rw [heq, parse_compact hother] at hread
  exact (Except.ok.inj hread).symm

end

/-! ## Control characters -/

/-- No character of a text is a control character of ASCII below the plain space. -/
def IsShown (text : List Char) : Prop := ∀ char ∈ text, 0x20 ≤ char.toNat

instance (text : List Char) : Decidable (IsShown text) :=
  decidable_of_iff (text.all fun char => decide (0x20 ≤ char.toNat))
    (by rw [List.all_eq_true]; exact forall₂_congr fun _ _ => decide_eq_true_iff)

section

variable {text more : List Char}

/-- Two texts are shown one after the other exactly if both are. -/
theorem isShown_append : IsShown (text ++ more) ↔ IsShown text ∧ IsShown more :=
  List.forall_mem_append

/-- A character is shown in front of a text if both are. -/
theorem isShown_cons {char : Char} :
    IsShown (char :: text) ↔ 0x20 ≤ char.toNat ∧ IsShown text :=
  List.forall_mem_cons

/-- The digits of a number are shown. -/
theorem isShown_toDigits (n : Nat) : IsShown (Nat.toDigits 10 n) := fun digit hdigit =>
  Nat.le_trans (by decide) (Utf8.digit_range hdigit).1

/-- Zeros are shown. -/
theorem isShown_zeros (n : Nat) : IsShown (List.replicate n '0') := fun char hchar => by
  rw [List.eq_of_mem_replicate hchar]
  decide

/-- Every way to lay out a decimal is shown. -/
theorem isShown_layout (decimal : Decimal) : IsShown (Number.layout decimal) := by
  have hempty : IsShown [] := nofun
  have hdigits := isShown_toDigits decimal.digits
  have htake : ∀ count, IsShown ((Nat.toDigits 10 decimal.digits).take count) :=
    fun count char hchar => hdigits char (List.mem_of_mem_take hchar)
  have hdrop : ∀ count, IsShown ((Nat.toDigits 10 decimal.digits).drop count) :=
    fun count char hchar => hdigits char (List.mem_of_mem_drop hchar)
  have hmarks : 0x20 ≤ '0'.toNat ∧ 0x20 ≤ '.'.toNat ∧ 0x20 ≤ 'e'.toNat := by decide
  unfold Number.layout
  dsimp only
  split
  · simp only [isShown_append, isShown_cons]
    exact ⟨⟨⟨hmarks.1, hmarks.2.1, hempty⟩, isShown_zeros _⟩, hdigits⟩
  split
  · split
    · simp only [isShown_append, isShown_cons]
      exact ⟨⟨hdigits, isShown_zeros _⟩, hmarks.2.1, hmarks.1, hempty⟩
    · simp only [isShown_append, isShown_cons]
      exact ⟨htake _, hmarks.2.1, hdrop _⟩
  · simp only [isShown_append, isShown_cons]
    refine ⟨⟨⟨htake 1, ?_⟩, hmarks.2.2, ?_, hempty⟩, isShown_toDigits _⟩
    · split
      · exact hempty
      · exact isShown_cons.mpr ⟨hmarks.2.1, hdrop 1⟩
    · split <;> decide

/-- Numbers are shown. -/
theorem isShown_number (number : Number) : IsShown number.text := by
  cases number with
  | integer value =>
    cases value with
    | ofNat n => exact isShown_toDigits n
    | negSucc n => exact isShown_cons.mpr ⟨by decide, isShown_toDigits (n + 1)⟩
  | real negative magnitude =>
    have hsign : IsShown (if negative then ['-'] else []) := by cases negative <;> decide
    rw [Number.text]
    split
    · exact isShown_append.mpr ⟨hsign, by decide⟩
    · exact isShown_append.mpr ⟨hsign, isShown_layout _⟩

/-- The escape of a character is shown. -/
theorem isShown_escape (c : Char) : IsShown (escape c) := by
  have hhex : ∀ digit < 16, 0x20 ≤ (Nat.digitChar digit).toNat := by decide
  rw [escape]
  split
  · decide
  split
  · decide
  split
  · decide
  split
  · decide
  split
  · decide
  split
  · decide
  split
  · decide
  split
  · next hcontrol =>
    simp only [isShown_cons]
    exact ⟨by decide, by decide, by decide, by decide, hhex _ (by omega),
      hhex _ (Nat.mod_lt _ (by decide)), nofun⟩
  next hcontrol => exact isShown_cons.mpr ⟨Nat.le_of_not_lt hcontrol, nofun⟩

/-- Strings are shown. -/
theorem isShown_quoted (text : String) : IsShown (quoted text) := by
  refine isShown_append.mpr ⟨isShown_cons.mpr ⟨by decide, fun char hchar => ?_⟩, by decide⟩
  obtain ⟨c, -, hescape⟩ := List.mem_flatMap.mp hchar
  exact isShown_escape c char hescape

/-- Rows are shown if their parts are. -/
theorem isShown_row {α : Type} {write : α → List Char} {values : List α}
    (h : ∀ value ∈ values, IsShown (write value)) : IsShown (row write values) := by
  cases values with
  | nil => exact nofun
  | cons first rest =>
    obtain ⟨hfirst, hrest⟩ := List.forall_mem_cons.mp h
    refine isShown_append.mpr ⟨hfirst, fun char hchar => ?_⟩
    obtain ⟨value, hvalue, hmem⟩ := List.mem_flatMap.mp hchar
    exact isShown_cons.mpr ⟨by decide, hrest value hvalue⟩ char hmem

/-- What is written for a value is shown. -/
theorem isShown_compact (value : Value) : IsShown value.compact := by
  induction value using Value.induction with
  | null => decide
  | bool value => cases value <;> decide
  | number value => exact isShown_number value
  | string text => exact isShown_quoted text
  | array items ih =>
    rw [compact_array]
    exact isShown_cons.mpr ⟨by decide, isShown_append.mpr ⟨isShown_row ih, by decide⟩⟩
  | object members ih =>
    rw [compact_object]
    refine isShown_cons.mpr ⟨by decide, isShown_append.mpr ⟨isShown_row fun member hmember => ?_,
      by decide⟩⟩
    exact isShown_append.mpr ⟨isShown_quoted member.1,
      isShown_cons.mpr ⟨by decide, ih member hmember⟩⟩

end

end ProxyFilter.Json
