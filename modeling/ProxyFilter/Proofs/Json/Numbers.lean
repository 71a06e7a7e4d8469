import ProxyFilter.Proofs.Json.Strings
import ProxyFilter.Proofs.Text.Blank

/-!
# Numbers are read exactly

A number is read as far as it goes: no digit stands behind it, and no point or power that it
could still have. What is read is the literal that is written, although a great power is only
read up to the digit that makes it too great.
-/

namespace ProxyFilter.Json

open Text Grammar

section

/-- Digits are what is read as digits. -/
theorem areDigits_iff {digits : Bytes} :
    AreDigits digits ↔ digits ≠ [] ∧ ∀ digit ∈ digits, isDigit digit = true := by
  simp only [AreDigits, isDigit_iff]

/-- A digit and the digits behind it are digits. -/
theorem areDigits_cons {first : UInt8} (hfirst : isDigit first = true) (bytes : Bytes) :
    AreDigits (first :: bytes.takeWhile isDigit) :=
  areDigits_iff.mpr
    ⟨List.cons_ne_nil _ _, List.forall_mem_cons.mpr ⟨hfirst, fun _ => List.mem_takeWhile_imp⟩⟩

/-- Digits begin with a digit. -/
theorem exists_cons_of_areDigits {digits : Bytes} (h : AreDigits digits) :
    ∃ first others, digits = first :: others ∧ isDigit first = true ∧
      ∀ digit ∈ others, isDigit digit = true := by
  obtain ⟨hne, hall⟩ := areDigits_iff.mp h
  obtain ⟨first, others, rfl⟩ := List.exists_cons_of_ne_nil hne
  obtain ⟨hfirst, hothers⟩ := List.forall_mem_cons.mp hall
  exact ⟨first, others, rfl, hfirst, hothers⟩

end

/-! ## The digits before and behind the point -/

section

variable {bytes rest whole : Bytes} {fraction : Option Bytes}

/-- What is read before the point are digits, up to where they stop. -/
theorem whole_of_wholeDigits (h : wholeDigits bytes = .ok (whole, rest)) :
    bytes = whole ++ rest ∧ AreDigits whole ∧
      (whole.head? = some '0'.toUInt8 → whole = ['0'.toUInt8]) ∧ Stops isDigit rest := by
  cases bytes with
  | nil => cases h
  | cons first others =>
    unfold wholeDigits at h
    dsimp only at h
    by_cases hdigit : isDigit first = true
    · have hrun := areDigits_cons hdigit others
      rw [if_neg (by simp [hdigit])] at h
      by_cases hzero : first = '0'.toUInt8
      · have hsingle : AreDigits [first] := areDigits_cons hdigit []
        rw [if_pos hzero] at h
        cases others with
        | nil =>
          cases h
          exact ⟨rfl, hsingle, fun _ => by rw [hzero], nofun⟩
        | cons next after =>
          dsimp only at h
          by_cases hnext : isDigit next = true
          · rw [if_pos hnext] at h
            cases h
          · rw [if_neg hnext] at h
            cases h
            refine ⟨rfl, hsingle, fun _ => by rw [hzero], fun byte hbyte => ?_⟩
            cases hbyte
            exact Bool.eq_false_iff.mpr hnext
      · rw [if_neg hzero] at h
        cases h
        refine ⟨?_, hrun, fun hhead => absurd (Option.some.inj hhead) hzero, stops_dropWhile _ _⟩
        rw [List.cons_append, List.takeWhile_append_dropWhile]
    · rw [if_pos (by simp [hdigit])] at h
      cases h

/-- Digits before the point are read up to where they stop. -/
theorem wholeDigits_of_whole (hdigits : AreDigits whole)
    (hzero : whole.head? = some '0'.toUInt8 → whole = ['0'.toUInt8]) (hrest : Stops isDigit rest) :
    wholeDigits (whole ++ rest) = .ok (whole, rest) := by
  obtain ⟨first, others, rfl, hfirst, hothers⟩ := exists_cons_of_areDigits hdigits
  by_cases hhead : first = '0'.toUInt8
  · obtain ⟨rfl, rfl⟩ := List.cons.inj (hzero (congrArg some hhead))
    cases rest with
    | nil => rfl
    | cons next after => exact if_neg (Bool.eq_false_iff.mp (hrest next rfl))
  · have hread : wholeDigits (first :: (others ++ rest)) =
        .ok (first :: (others ++ rest).takeWhile isDigit, (others ++ rest).dropWhile isDigit) := by
      simp [wholeDigits, hfirst, hhead]
    rw [List.cons_append, hread, takeWhile_of_stops hothers hrest, dropWhile_of_stops hothers hrest]

/-- What is read behind a point are digits, up to where they stop. -/
theorem fraction_of_fractionDigits (h : fractionDigits bytes = .ok (fraction, rest)) :
    bytes = (fraction.elim [] fun digits => '.'.toUInt8 :: digits) ++ rest ∧
      (∀ digits ∈ fraction, AreDigits digits) ∧ (Stops isDigit bytes → Stops isDigit rest) ∧
      (fraction = none → rest.head? ≠ some '.'.toUInt8) := by
  cases bytes with
  | nil =>
    cases h
    exact ⟨rfl, nofun, id, nofun⟩
  | cons byte others =>
    unfold fractionDigits at h
    dsimp only at h
    by_cases hpoint : byte = '.'.toUInt8
    · rw [if_pos hpoint] at h
      cases others with
      | nil => cases h
      | cons next after =>
        dsimp only at h
        by_cases hnext : isDigit next = true
        · rw [if_pos hnext, List.takeWhile_cons_of_pos hnext, List.dropWhile_cons_of_pos hnext] at h
          cases h
          refine ⟨?_, fun digits hdigits => ?_, fun _ => stops_dropWhile _ _, nofun⟩
          · rw [hpoint, Option.elim_some, List.cons_append, List.cons_append,
              List.takeWhile_append_dropWhile]
          · cases hdigits
            exact areDigits_cons hnext after
        · rw [if_neg hnext] at h
          cases h
    · rw [if_neg hpoint] at h
      cases h
      exact ⟨rfl, nofun, id, fun _ hhead => hpoint (Option.some.inj hhead)⟩

/-- Digits behind a point are read up to where they stop. -/
theorem fractionDigits_of_fraction (hdigits : ∀ digits ∈ fraction, AreDigits digits)
    (hrest : Stops isDigit rest) (hpoint : fraction = none → rest.head? ≠ some '.'.toUInt8) :
    fractionDigits ((fraction.elim [] fun digits => '.'.toUInt8 :: digits) ++ rest) =
      .ok (fraction, rest) := by
  cases fraction with
  | none =>
    cases rest with
    | nil => rfl
    | cons byte rest =>
      have hbyte : byte ≠ '.'.toUInt8 := fun heq => hpoint rfl (congrArg some heq)
      exact if_neg hbyte
  | some digits =>
    have hall := (areDigits_iff.mp (hdigits digits rfl)).2
    obtain ⟨first, others, rfl, hfirst, -⟩ := exists_cons_of_areDigits (hdigits digits rfl)
    have hread : fractionDigits ('.'.toUInt8 :: first :: others ++ rest) =
      if isDigit first then .ok (some ((first :: others ++ rest).takeWhile isDigit),
        (first :: others ++ rest).dropWhile isDigit)
      else Fault.raise .invalidNumber (others ++ rest) := rfl
    rw [Option.elim_some, hread, if_pos hfirst, takeWhile_of_stops hall hrest,
      dropWhile_of_stops hall hrest]

end

/-! ## The power of ten -/

/-- How a power that has been read stands for the one that is written: a power over the limit may
be cut off behind the digit that carries it over. -/
structure Settles (read : Power) (left : Bytes) (written : Power) (rest : Bytes) : Prop where
  /-- The signs are the same. -/
  negative : read.negative = written.negative
  /-- Only digits of the power are left. -/
  after : left.dropWhile isDigit = rest
  /-- A power within the limit is read to its end. -/
  within : written.value ≤ powerLimit → read.value = written.value ∧ left = rest
  /-- A power over the limit is read as one over the limit. -/
  beyond : powerLimit < written.value → powerLimit < read.value

section

variable {bytes rest digits : Bytes}

/-- Each of the digits behind a number makes it ten times as great at least. -/
theorem pow_le_foldl_digits (digits : List Nat) (value : Nat) :
    value * Nat.pow 10 digits.length ≤
      digits.foldl (fun number digit => number * 10 + digit) value := by
  induction digits generalizing value with
  | nil => exact Nat.le_of_eq (Nat.mul_one value)
  | cons digit digits ih =>
    rw [List.foldl_cons, List.length_cons]
    refine Nat.le_trans ?_ (ih (value * 10 + digit))
    calc value * Nat.pow 10 (digits.length + 1)
        = value * 10 * Nat.pow 10 digits.length := by
          rw [Nat.pow_eq, Nat.pow_eq, Nat.pow_succ, Nat.mul_comm _ 10, Nat.mul_assoc]
      _ ≤ (value * 10 + digit) * Nat.pow 10 digits.length :=
          Nat.mul_le_mul_right _ (Nat.le_add_right _ _)

/-- The number that digits write is no less than that in front of them. -/
theorem le_foldl_digits (digits : List Nat) (value : Nat) :
    value ≤ digits.foldl (fun number digit => number * 10 + digit) value :=
  Nat.le_trans (Nat.le_mul_of_pos_right value (Nat.pow_pos (Nat.succ_pos 9)))
    (pow_le_foldl_digits digits value)

/-- Digits of a power are read up to where they stop, or up to the one that carries it over the
limit. -/
theorem powerDigits_of_digits (hdigits : ∀ digit ∈ digits, isDigit digit = true)
    (hrest : Stops isDigit rest) (negative : Bool) {value : Nat} (hvalue : value ≤ powerLimit) :
    Settles ⟨negative, (powerDigits value (digits ++ rest)).1⟩
      (powerDigits value (digits ++ rest)).2
      ⟨negative, (digitValues digits).foldl (fun number digit => number * 10 + digit) value⟩
      rest := by
  induction digits generalizing value with
  | nil =>
    have hread : powerDigits value rest = (value, rest) := by
      cases rest with
      | nil => rfl
      | cons byte rest => exact if_neg (Bool.eq_false_iff.mp (hrest byte rfl))
    have hstop : rest.dropWhile isDigit = rest := @dropWhile_of_stops _ isDigit [] rest nofun hrest
    rw [List.nil_append, hread]
    exact ⟨rfl, hstop, fun _ => ⟨rfl, rfl⟩, fun hbeyond => hbeyond⟩
  | cons digit digits ih =>
    obtain ⟨hdigit, hothers⟩ := List.forall_mem_cons.mp hdigits
    have hread : powerDigits value (digit :: digits ++ rest) =
        if powerLimit < value * 10 + (digit.toNat - 0x30) then
          (value * 10 + (digit.toNat - 0x30), digits ++ rest)
        else powerDigits (value * 10 + (digit.toNat - 0x30)) (digits ++ rest) := if_pos hdigit
    have hwritten : (digitValues (digit :: digits)).foldl (fun number digit => number * 10 + digit)
        value = (digitValues digits).foldl (fun number digit => number * 10 + digit)
          (value * 10 + (digit.toNat - 0x30)) := rfl
    rw [hread, hwritten]
    by_cases hover : powerLimit < value * 10 + (digit.toNat - 0x30)
    · have hgrow := le_foldl_digits (digitValues digits) (value * 10 + (digit.toNat - 0x30))
      rw [if_pos hover]
      exact ⟨rfl, dropWhile_of_stops hothers hrest,
        fun hwithin => absurd (Nat.lt_of_lt_of_le hover (Nat.le_trans hgrow hwithin))
          (Nat.lt_irrefl _), fun _ => hover⟩
    · rw [if_neg hover]
      exact ih hothers (Nat.le_of_not_lt hover)

/-- The digits of a power are read behind its sign. -/
theorem power_of_unsigned {byte first : UInt8} {after : Bytes}
    (hbyte : (decide (byte = 'e'.toUInt8) || decide (byte = 'E'.toUInt8)) = true)
    (hunsigned : (if bytes.head? == some '-'.toUInt8 || bytes.head? == some '+'.toUInt8 then
      bytes.drop 1 else bytes) = first :: after) (hfirst : isDigit first = true) :
    power (byte :: bytes) =
      .ok (some ⟨bytes.head? == some '-'.toUInt8, (powerDigits 0 (first :: after)).1⟩,
        (powerDigits 0 (first :: after)).2) := by
  unfold power
  dsimp only
  rw [if_pos hbyte, hunsigned]
  exact if_pos hfirst

/-- A power behind its letter and sign is read by its digits. -/
theorem power_of_sign {letter : Char} (hletter : letter = 'e' ∨ letter = 'E') {sign : Option Char}
    (hsign : ∀ given ∈ sign, given = '+' ∨ given = '-') {first : UInt8}
    (hfirst : isDigit first = true) (after : Bytes) :
    power (Utf8.encode (letter :: sign.toList) ++ first :: after) =
      .ok (some ⟨sign == some '-', (powerDigits 0 (first :: after)).1⟩,
        (powerDigits 0 (first :: after)).2) := by
  cases sign with
  | none =>
    have hminus : (some first == some '-'.toUInt8) = false := beq_false_of_ne fun heq => by
      cases heq
      cases hfirst
    have hplus : (some first == some '+'.toUInt8) = false := beq_false_of_ne fun heq => by
      cases heq
      cases hfirst
    have hunsigned : (if (first :: after).head? == some '-'.toUInt8 ||
        (first :: after).head? == some '+'.toUInt8 then (first :: after).drop 1
      else first :: after) = first :: after := by
      rw [List.head?_cons, hminus, hplus]
      rfl
    have hread := fun byte hbyte =>
      @power_of_unsigned (first :: after) byte _ _ hbyte hunsigned hfirst
    rw [List.head?_cons, hminus] at hread
    rcases hletter with rfl | rfl
    · exact hread _ rfl
    · exact hread _ rfl
  | some given =>
    rcases hletter with rfl | rfl <;> rcases hsign given rfl with rfl | rfl <;>
      exact power_of_unsigned rfl rfl hfirst

/-- In front of the digits of a power there may be a sign. -/
theorem exists_sign (bytes : Bytes) :
    ∃ sign : Option Char, (∀ given ∈ sign, given = '+' ∨ given = '-') ∧
      bytes = Utf8.encode sign.toList ++
        (if bytes.head? == some '-'.toUInt8 || bytes.head? == some '+'.toUInt8 then bytes.drop 1
          else bytes) := by
  cases bytes with
  | nil => exact ⟨none, nofun, rfl⟩
  | cons byte bytes =>
    by_cases hminus : byte = '-'.toUInt8
    · cases hminus
      exact ⟨some '-', fun _ hgiven => .inr (Option.some.inj hgiven).symm, rfl⟩
    by_cases hplus : byte = '+'.toUInt8
    · cases hplus
      exact ⟨some '+', fun _ hgiven => .inl (Option.some.inj hgiven).symm, rfl⟩
    · refine ⟨none, nofun, ?_⟩
      rw [if_neg (by simp [hminus, hplus])]
      rfl

/-- The letters of powers are their bytes. -/
theorem exists_letter {byte : UInt8}
    (h : (decide (byte = 'e'.toUInt8) || decide (byte = 'E'.toUInt8)) = true) :
    ∃ letter : Char, (letter = 'e' ∨ letter = 'E') ∧ Utf8.encode [letter] = [byte] := by
  rw [Bool.or_eq_true, decide_eq_true_eq, decide_eq_true_eq] at h
  rcases h with rfl | rfl
  · exact ⟨'e', .inl rfl, rfl⟩
  · exact ⟨'E', .inr rfl, rfl⟩

/-- What is read as a power is one. -/
theorem power_of_read {read : Power} (h : power bytes = .ok (some read, rest)) :
    ∃ (written : PowerLiteral) (tail : Bytes), written.WellFormed ∧
      bytes = written.bytes ++ tail ∧ Stops isDigit tail := by
  cases bytes with
  | nil => cases h
  | cons byte bytes =>
    unfold power at h
    dsimp only at h
    by_cases hbyte : (decide (byte = 'e'.toUInt8) || decide (byte = 'E'.toUInt8)) = true
    · rw [if_pos hbyte] at h
      obtain ⟨letter, hletter, hencode⟩ := exists_letter hbyte
      obtain ⟨sign, hsign, hbytes⟩ := exists_sign bytes
      generalize (if bytes.head? == some '-'.toUInt8 || bytes.head? == some '+'.toUInt8 then
        bytes.drop 1 else bytes) = unsigned at h hbytes
      cases unsigned with
      | nil => cases h
      | cons first after =>
        dsimp only at h
        by_cases hfirst : isDigit first = true
        · refine ⟨⟨letter, sign, first :: after.takeWhile isDigit⟩, after.dropWhile isDigit,
            ⟨hletter, hsign, areDigits_cons hfirst after⟩, ?_, stops_dropWhile _ _⟩
          have hrun : first :: after =
              first :: after.takeWhile isDigit ++ after.dropWhile isDigit :=
            congrArg (first :: ·) List.takeWhile_append_dropWhile.symm
          rw [hbytes, PowerLiteral.bytes, Utf8.encode_cons, hencode, List.append_assoc,
            List.append_assoc]
          exact congrArg (fun run => byte :: (Utf8.encode sign.toList ++ run)) hrun
        · rw [if_neg hfirst] at h
          cases h
    · rw [if_neg hbyte] at h
      cases h

/-- A power is read as it is written, up to where its digits stop. -/
theorem power_of_literal {written : PowerLiteral} (h : written.WellFormed)
    (hrest : Stops isDigit rest) :
    ∃ read left, power (written.bytes ++ rest) = .ok (some read, left) ∧
      Settles read left written.power rest := by
  obtain ⟨first, others, hdigits, hfirst, -⟩ := exists_cons_of_areDigits h.digits
  have hsettles := powerDigits_of_digits (areDigits_iff.mp h.digits).2 hrest (written.sign == some '-')
    (Nat.zero_le powerLimit)
  refine ⟨_, _, ?_, hsettles⟩
  rw [PowerLiteral.bytes, List.append_assoc, hdigits, List.cons_append,
    power_of_sign h.letter h.sign hfirst]

/-- Where no power stands none is read. -/
theorem power_of_none (hletter : ∀ byte ∈ rest.head?, byte ≠ 'e'.toUInt8 ∧ byte ≠ 'E'.toUInt8) :
    power rest = .ok (none, rest) := by
  cases rest with
  | nil => rfl
  | cons byte rest =>
    obtain ⟨hsmall, hcapital⟩ := hletter byte rfl
    simp [power, hsmall, hcapital]

/-- Where no power is read none stands. -/
theorem none_of_power (h : power bytes = .ok (none, rest)) :
    bytes = rest ∧ ∀ byte ∈ rest.head?, byte ≠ 'e'.toUInt8 ∧ byte ≠ 'E'.toUInt8 := by
  cases bytes with
  | nil =>
    cases h
    exact ⟨rfl, nofun⟩
  | cons byte bytes =>
    unfold power at h
    dsimp only at h
    by_cases hbyte : (decide (byte = 'e'.toUInt8) || decide (byte = 'E'.toUInt8)) = true
    · rw [if_pos hbyte] at h
      split at h
      · cases h
      · split at h <;> cases h
    · rw [if_neg hbyte] at h
      cases h
      rw [Bool.or_eq_true, decide_eq_true_eq, decide_eq_true_eq, not_or] at hbyte
      refine ⟨rfl, fun given hgiven => ?_⟩
      cases hgiven
      exact hbyte

end

/-! ## Numbers -/

/-- A number goes on neither with a digit nor with a part that it could still have. -/
structure Ends (literal : Literal) (rest : Bytes) : Prop where
  /-- No digit follows. -/
  digit : Stops isDigit rest
  /-- No point follows a whole number. -/
  point : literal.fraction = none → literal.power = none → rest.head? ≠ some '.'.toUInt8
  /-- No power follows if there is none yet. -/
  letter : literal.power = none →
    ∀ byte ∈ rest.head?, byte ≠ 'e'.toUInt8 ∧ byte ≠ 'E'.toUInt8

/-- A number is read as the one that is kept, or refused if it is out of range. -/
def Keeps (kept : Option Number) (rest : Bytes) (result : Except Fault (Number × Bytes)) : Prop :=
  match kept with
  | some number => result = .ok (number, rest)
  | none => ∃ fault, result = .error fault ∧ fault.cause = .numberOutOfRange

section

variable {negative : Bool} {bytes rest : Bytes} {literal : Literal} {read : Number}

/-- A number that is kept is given, and another one refused. -/
theorem keeps_match (kept : Option Number) (rest left : Bytes) :
    Keeps kept rest (match kept with
      | some number => .ok (number, rest)
      | none => Fault.raise .numberOutOfRange left) := by
  cases kept with
  | none => exact ⟨_, rfl, rfl⟩
  | some number => exact rfl

/-- A number with a fraction or power is kept as it is written, however far its power was
read. -/
theorem keeps_scientific (whole fraction : List Nat) {power written : Power} {left : Bytes}
    (h : Settles power left written rest) :
    Keeps (Literal.scientific? negative whole fraction written) rest
      (scientific negative whole fraction power left) := by
  obtain ⟨hnegative, hafter, hwithin, hbeyond⟩ := h
  unfold scientific Literal.scientific?
  by_cases hlimit : powerLimit < written.value
  · rw [if_pos hlimit, if_pos (hbeyond hlimit), hnegative]
    by_cases hrange : (Number.parts whole fraction).1 ≠ 0 ∧ written.negative = false
    · rw [if_pos hrange, if_pos hrange]
      exact ⟨_, rfl, rfl⟩
    · rw [if_neg hrange, if_neg hrange, hafter]
      exact rfl
  · obtain ⟨hvalue, hleft⟩ := hwithin (Nat.le_of_not_lt hlimit)
    rw [if_neg hlimit, hvalue, if_neg hlimit, Power.exponent, Power.exponent, hvalue, hnegative,
      hleft]
    exact keeps_match _ rest rest

/-- What is read as a number is one, up to where it ends. -/
theorem literal_of_number (h : number negative bytes = .ok (read, rest)) :
    ∃ literal tail, literal.WellFormed ∧ literal.negative = negative ∧
      bytes = literal.unsigned ++ tail ∧ Ends literal tail := by
  obtain ⟨⟨whole, afterWhole⟩, hwhole, hread⟩ := exists_of_bind h
  obtain ⟨⟨fraction, afterFraction⟩, hfraction, hread⟩ := exists_of_bind hread
  obtain ⟨⟨power, afterPower⟩, hpower, -⟩ := exists_of_bind hread
  obtain ⟨hbytes, hdigits, hzero, hstops⟩ := whole_of_wholeDigits hwhole
  obtain ⟨hafter, hplaces, hkeeps, hpoint⟩ := fraction_of_fractionDigits hfraction
  cases power with
  | none =>
    obtain ⟨rfl, hletter⟩ := none_of_power hpower
    refine ⟨⟨negative, whole, fraction, none⟩, afterFraction, ⟨hdigits, hzero, hplaces, nofun⟩, rfl,
      ?_, ⟨hkeeps hstops, fun hnone _ => hpoint hnone, fun _ => hletter⟩⟩
    rw [Literal.unsigned, Option.elim_none, List.append_nil, List.append_assoc, hbytes, hafter]
  | some power =>
    obtain ⟨written, tail, hwritten, rfl, htail⟩ := power_of_read hpower
    refine ⟨⟨negative, whole, fraction, some written⟩, tail,
      ⟨hdigits, hzero, hplaces, fun given hgiven => Option.some.inj hgiven ▸ hwritten⟩, rfl, ?_,
      ⟨htail, nofun, nofun⟩⟩
    rw [Literal.unsigned, Option.elim_some, List.append_assoc, List.append_assoc, hbytes, hafter]

/-- A power begins with its letter. -/
theorem exists_cons_of_wellFormed {written : PowerLiteral} (h : written.WellFormed) :
    ∃ byte more, written.bytes = byte :: more ∧
      (byte = 'e'.toUInt8 ∨ byte = 'E'.toUInt8) := by
  obtain ⟨letter, sign, digits⟩ := written
  rcases h.letter with rfl | rfl
  · exact ⟨_, _, rfl, .inl rfl⟩
  · exact ⟨_, _, rfl, .inr rfl⟩

/-- The digits behind the point stop where the power begins or the number ends. -/
theorem stops_power (h : literal.WellFormed) (hrest : Ends literal rest) :
    Stops isDigit (literal.power.elim [] PowerLiteral.bytes ++ rest) ∧
      (literal.fraction = none →
        (literal.power.elim [] PowerLiteral.bytes ++ rest).head? ≠ some '.'.toUInt8) := by
  cases hpower : literal.power with
  | none => exact ⟨hrest.digit, fun hfraction => hrest.point hfraction hpower⟩
  | some written =>
    obtain ⟨byte, more, hbytes, hbyte⟩ := exists_cons_of_wellFormed (h.power written hpower)
    rw [Option.elim_some, hbytes, List.cons_append]
    refine ⟨fun given hgiven => ?_, fun _ hhead => ?_⟩
    · cases hgiven
      rcases hbyte with rfl | rfl <;> decide
    · cases hhead
      exact absurd hbyte (by decide)

/-- The digits before the point stop where the fraction or the power begins or the number
ends. -/
theorem stops_fraction (h : literal.WellFormed) (hrest : Ends literal rest) :
    Stops isDigit ((literal.fraction.elim [] fun digits => '.'.toUInt8 :: digits) ++
      (literal.power.elim [] PowerLiteral.bytes ++ rest)) := by
  cases literal.fraction with
  | none => exact (stops_power h hrest).1
  | some digits =>
    intro byte hbyte
    cases hbyte
    decide

/-- The power of a number is read, or none is where there is none. -/
theorem power_of_ends (h : literal.WellFormed) (hrest : Ends literal rest) :
    ∃ read left, power (literal.power.elim [] PowerLiteral.bytes ++ rest) = .ok (read, left) ∧
      Settles (read.getD ⟨false, 0⟩) left literal.scale rest ∧
      (literal.power = none ∧ read = none ∧ left = rest ∨ literal.power ≠ none ∧ read ≠ none) := by
  cases hpower : literal.power with
  | none =>
    have hscale : literal.scale = ⟨false, 0⟩ := by
      rw [Literal.scale, hpower]
      rfl
    have hsettles : Settles ⟨false, 0⟩ rest literal.scale rest := by
      rw [hscale]
      exact ⟨rfl, @dropWhile_of_stops _ isDigit [] rest nofun hrest.digit, fun _ => ⟨rfl, rfl⟩, id⟩
    exact ⟨none, rest, power_of_none (hrest.letter hpower), hsettles, .inl ⟨rfl, rfl, rfl⟩⟩
  | some written =>
    obtain ⟨read, left, hread, hsettles⟩ :=
      power_of_literal (h.power written hpower) hrest.digit
    have hscale : literal.scale = written.power := by
      rw [Literal.scale, hpower]
      rfl
    exact ⟨some read, left, hread, hscale ▸ hsettles, .inr ⟨nofun, nofun⟩⟩

/-- The number that is written is read, up to where it ends, unless it is out of range. -/
theorem number_of_literal (h : literal.WellFormed) (hrest : Ends literal rest) :
    Keeps literal.value? rest (number literal.negative (literal.unsigned ++ rest)) := by
  have hwhole := wholeDigits_of_whole h.whole h.zero (stops_fraction h hrest)
  obtain ⟨hstops, hpoint⟩ := stops_power h hrest
  have hfraction := fractionDigits_of_fraction h.fraction hstops hpoint
  obtain ⟨read, left, hpower, hsettles, hcases⟩ := power_of_ends h hrest
  have hscientific : ∀ whole fraction, Keeps
      (Literal.scientific? literal.negative whole fraction literal.scale) rest
      (scientific literal.negative whole fraction (read.getD ⟨false, 0⟩) left) :=
    fun whole fraction => keeps_scientific whole fraction hsettles
  rw [number, Literal.unsigned, List.append_assoc, List.append_assoc, hwhole, ok_bind]
  dsimp only
  rw [hfraction, ok_bind]
  dsimp only
  rw [hpower, ok_bind]
  dsimp only
  unfold Literal.value?
  obtain ⟨hnone, rfl, rfl⟩ | ⟨hsome, hread⟩ := hcases
  · rw [hnone]
    cases literal.fraction with
    | none => exact keeps_match _ left left
    | some places => exact hscientific _ _
  · obtain ⟨power, hpower⟩ := Option.ne_none_iff_exists'.mp hread
    obtain ⟨written, hwritten⟩ := Option.ne_none_iff_exists'.mp hsome
    rw [hpower] at hscientific
    rw [hwritten, hpower]
    cases literal.fraction with
    | none => exact hscientific _ _
    | some places => exact hscientific _ _

/-- A number is read exactly as it is written. -/
theorem number_eq_ok_iff :
    number negative bytes = .ok (read, rest) ↔
      ∃ literal, literal.WellFormed ∧ literal.negative = negative ∧ literal.value? = some read ∧
        bytes = literal.unsigned ++ rest ∧ Ends literal rest := by
  constructor
  · intro h
    obtain ⟨literal, tail, hliteral, rfl, rfl, hends⟩ := literal_of_number h
    have hread := number_of_literal hliteral hends
    cases hvalue : literal.value? with
    | none =>
      rw [hvalue] at hread
      obtain ⟨fault, hfault, -⟩ := hread
      rw [hfault] at h
      cases h
    | some kept =>
      rw [hvalue] at hread
      cases hread.symm.trans h
      exact ⟨literal, hliteral, rfl, hvalue, rfl, hends⟩
  · rintro ⟨literal, hliteral, rfl, hvalue, rfl, hends⟩
    have hread := number_of_literal hliteral hends
    rw [hvalue] at hread
    exact hread

end

end ProxyFilter.Json
