import ProxyFilter.Proofs.Binary64.Rounding
import ProxyFilter.Proofs.Json.Numbers

/-!
# Numbers in range are kept

Of a long number only the leading digits are used, and these never give more than is written. A
number whose written magnitude is at most 1.797e308 stays finite in spite of the roundings on the
way, so it is kept.
-/

namespace ProxyFilter.Json

open Grammar

/-! ## Digits that count -/

/-- What is gathered from a run on top of a number, and what is left of the run. -/
structure Gathers (number : Nat) (digits : List Nat) (gathered : Nat) (left : List Nat) :
    Prop where
  /-- The digits that are taken stand in front of those that are left. -/
  taken : ∃ taken, digits = taken ++ left ∧
    gathered = taken.foldl (fun number digit => number * 10 + digit) number
  /-- What is gathered fits 64 bits. -/
  fits : gathered < 2 ^ 64
  /-- The next digit would not. -/
  next : ∀ digit ∈ left.head?, 2 ^ 64 ≤ gathered * 10 + digit

section

variable {whole fraction digits : List Nat}

/-- A run is gathered up to the first digit that does not fit. -/
theorem gathers_gather {number : Nat} (hnumber : number < 2 ^ 64) (digits : List Nat) :
    Gathers number digits (Digits.gather number digits).1 (Digits.gather number digits).2 := by
  induction digits generalizing number with
  | nil => exact ⟨⟨[], rfl, rfl⟩, hnumber, nofun⟩
  | cons digit digits ih =>
    rw [Digits.gather]
    by_cases hnext : number * 10 + digit < Nat.pow 2 64
    · rw [if_pos hnext]
      obtain ⟨⟨taken, hdigits, hgathered⟩, hfits, hleft⟩ := ih hnext
      exact ⟨⟨digit :: taken, congrArg (digit :: ·) hdigits, hgathered⟩, hfits, hleft⟩
    · rw [if_neg hnext]
      refine ⟨⟨[], rfl, rfl⟩, hnumber, fun given hgiven => ?_⟩
      cases hgiven
      exact Nat.le_of_not_lt hnext

/-- The digits that count write no more than all digits do, where each of the others stands for a
place. -/
theorem gathered_le {leading significand : Nat} {dropped ignored : List Nat}
    (hdigits : ∀ digit ∈ whole, digit < 10) (hwhole : Gathers 0 whole leading dropped)
    (hfraction : Gathers leading fraction significand ignored) :
    significand * Nat.pow 10 (dropped.length + ignored.length) ≤
      Digits.value (whole ++ fraction) := by
  obtain ⟨⟨taken, htaken, hleading⟩, -, hnext⟩ := hwhole
  obtain ⟨⟨further, hfurther, hsignificand⟩, hfits, -⟩ := hfraction
  have hvalue : Digits.value (whole ++ fraction) =
      (dropped ++ fraction).foldl (fun number digit => number * 10 + digit) leading := by
    rw [Digits.value, htaken, List.append_assoc, List.foldl_append, ← hleading]
  rw [hvalue]
  cases dropped with
  | nil =>
    rw [List.nil_append, hfurther, List.foldl_append, ← hsignificand, List.length_nil,
      Nat.zero_add]
    exact pow_le_foldl_digits ignored significand
  | cons first others =>
    have hsmall : first < 10 :=
      hdigits first (htaken ▸ List.mem_append_right taken List.mem_cons_self)
    have hover := hnext first rfl
    cases further with
    | nil =>
      have hall := pow_le_foldl_digits (first :: others ++ fraction) leading
      rw [List.length_append] at hall
      rw [hsignificand]
      rwa [hfurther] at hall ⊢
    | cons digit more =>
      have hgrow := le_foldl_digits more (leading * 10 + digit)
      have hlast : more = [] := by
        cases more with
        | nil => rfl
        | cons second more =>
          have htwice := le_foldl_digits more ((leading * 10 + digit) * 10 + second)
          rw [List.foldl_cons, List.foldl_cons] at hsignificand
          omega
      rw [hlast, List.foldl_cons, List.foldl_nil] at hsignificand
      have hall := pow_le_foldl_digits (others ++ fraction) (leading * 10 + first)
      have hlength : (others ++ fraction).length = (first :: others).length + ignored.length := by
        rw [hfurther, hlast]
        simp only [List.length_append, List.length_cons, List.length_nil]
        omega
      rw [hlength] at hall
      exact Nat.le_trans (Nat.mul_le_mul_right _ (by omega)) hall

/-- The digits that count fit 64 bits, and with a power of ten they write no more than all digits
do. -/
theorem parts_le (hdigits : ∀ digit ∈ whole, digit < 10) (power : Int) :
    (Number.parts whole fraction).1 < 2 ^ 64 ∧
      ((Number.parts whole fraction).1 : ℚ) * 10 ^ ((Number.parts whole fraction).2 + power) ≤
        Digits.value (whole ++ fraction) * 10 ^ (power - fraction.length) := by
  have hwhole := @gathers_gather 0 (by decide) whole
  have hfraction := gathers_gather hwhole.fits fraction
  have hle := gathered_le hdigits hwhole hfraction
  refine ⟨hfraction.fits, ?_⟩
  change ((Digits.gather (Digits.gather 0 whole).1 fraction).1 : ℚ) *
    10 ^ (((Digits.gather 0 whole).2.length : Int) +
      (Digits.gather (Digits.gather 0 whole).1 fraction).2.length - fraction.length + power) ≤ _
  generalize (Digits.gather (Digits.gather 0 whole).1 fraction).1 = significand at hle
  generalize (Digits.gather 0 whole).2.length = dropped at hle
  generalize (Digits.gather (Digits.gather 0 whole).1 fraction).2.length = ignored at hle
  have hten : (10 : ℚ) ≠ 0 := by norm_num
  have hall : (significand : ℚ) * 10 ^ (dropped + ignored) ≤ Digits.value (whole ++ fraction) := by
    exact_mod_cast hle
  calc (significand : ℚ) * 10 ^ ((dropped : Int) + ignored - fraction.length + power)
      = significand * 10 ^ (dropped + ignored) * 10 ^ (power - fraction.length) := by
        rw [mul_assoc, ← zpow_natCast, ← zpow_add₀ hten]
        congr 2
        push_cast
        ring
    _ ≤ Digits.value (whole ++ fraction) * 10 ^ (power - fraction.length) :=
        mul_le_mul_of_nonneg_right hall (by positivity)

/-! ## Numbers that are kept -/

/-- A number of at most 1.797e308 is not infinite. -/
theorem real?_ne_none (hdigits : ∀ digit ∈ whole, digit < 10) (negative : Bool) {power : Int}
    (h : (Digits.value (whole ++ fraction) : ℚ) * 10 ^ (power - fraction.length) ≤
      1797 * 10 ^ 305) : Number.real? negative whole fraction power ≠ none := by
  obtain ⟨hfits, hle⟩ := @parts_le whole fraction hdigits power
  obtain ⟨x, hx⟩ := Binary64.exists_scaled hfits (hle.trans h)
  have hreal : Number.real? negative whole fraction power =
      (Binary64.scaled? (Number.parts whole fraction).1
        ((Number.parts whole fraction).2 + power)).map (.real negative) := rfl
  rw [hreal, hx]
  exact Option.some_ne_none _

/-- Digits that write zero have no others that count. -/
theorem parts_eq_zero (hdigits : ∀ digit ∈ whole, digit < 10)
    (h : Digits.value (whole ++ fraction) = 0) : (Number.parts whole fraction).1 = 0 := by
  have hle := (@parts_le whole fraction hdigits 0).2
  rw [h, Nat.cast_zero, zero_mul] at hle
  have hpos : (0 : ℚ) < 10 ^ ((Number.parts whole fraction).2 + 0) := by positivity
  have hzero := nonpos_of_mul_nonpos_left hle hpos
  exact Nat.cast_eq_zero.mp (le_antisymm hzero (Nat.cast_nonneg _))

end

section

variable {literal : Literal}

/-- The digits before the point are digits. -/
theorem lt_of_mem_whole (h : literal.WellFormed) : ∀ digit ∈ digitValues literal.whole,
    digit < 10 := by
  intro digit hdigit
  obtain ⟨byte, hbyte, rfl⟩ := List.mem_map.mp hdigit
  have hrange := h.whole.2 byte hbyte
  omega

/-- The magnitude that is written, by its digits. -/
theorem written_eq (literal : Literal) :
    literal.written = Digits.value (digitValues literal.whole ++
      digitValues (literal.fraction.getD [])) *
        10 ^ (literal.scale.exponent - (digitValues (literal.fraction.getD [])).length) := by
  rw [Literal.written, digitValues, List.map_append, digitValues, digitValues, List.length_map]

/-- A number in range with a fraction or power is kept. -/
theorem scientific?_ne_none (h : literal.WellFormed) (hrange : literal.IsInRange) :
    Literal.scientific? literal.negative (digitValues literal.whole)
      (digitValues (literal.fraction.getD [])) literal.scale ≠ none := by
  obtain ⟨hmagnitude, hpower⟩ := hrange
  rw [written_eq] at hmagnitude hpower
  unfold Literal.scientific?
  by_cases hlimit : powerLimit < literal.scale.value
  · have hzero : ¬ ((Number.parts (digitValues literal.whole)
        (digitValues (literal.fraction.getD []))).1 ≠ 0 ∧ literal.scale.negative = false) := by
      rintro ⟨hnonzero, hpositive⟩
      refine hnonzero (parts_eq_zero (lt_of_mem_whole h) ?_)
      have hwritten := hpower hlimit hpositive
      exact Nat.cast_eq_zero.mp ((mul_eq_zero_iff_right (by positivity)).mp hwritten)
    rw [if_pos hlimit, if_neg hzero]
    exact Option.some_ne_none _
  · rw [if_neg hlimit]
    exact real?_ne_none (lt_of_mem_whole h) _ hmagnitude

/-- A number in range is kept. -/
theorem isKept_of_isInRange (h : literal.WellFormed) (hrange : literal.IsInRange) :
    literal.IsKept := by
  have hscientific := scientific?_ne_none h hrange
  unfold Literal.IsKept Literal.value?
  cases hfraction : literal.fraction with
  | some places => simpa only [hfraction] using hscientific
  | none =>
    cases hpower : literal.power with
    | some power => simpa only [hfraction] using hscientific
    | none =>
      dsimp only
      unfold Number.ofWhole?
      cases Number.integer? literal.negative (digitValues literal.whole) with
      | some value => exact Option.some_ne_none _
      | none =>
        refine real?_ne_none (lt_of_mem_whole h) _ ?_
        have hmagnitude := hrange.magnitude
        rw [written_eq, hfraction, Literal.scale, hpower] at hmagnitude
        exact hmagnitude

/-- Integers of 64 bits are in range. -/
theorem isInRange_of_isInteger (hinteger : literal.IsInteger) : literal.IsInRange := by
  have hscale : literal.scale = ⟨false, 0⟩ := by
    rw [Literal.scale, hinteger.power]
    rfl
  have hvalue : Digits.value (digitValues literal.whole) < Nat.pow 2 64 := by
    cases hsign : literal.negative with
    | false => exact hinteger.unsigned hsign
    | true => exact Nat.lt_of_le_of_lt (hinteger.signed hsign).2 (by decide)
  constructor
  · have hsize : (Digits.value (digitValues literal.whole) : ℚ) < 2 ^ 64 := by
      exact_mod_cast hvalue
    have hwritten : literal.written = Digits.value (digitValues literal.whole) := by
      rw [written_eq, hscale, hinteger.fraction]
      simp [Power.exponent, digitValues]
    have hbound : (2 : ℚ) ^ 64 ≤ 1797 * 10 ^ 305 := by
      calc (2 : ℚ) ^ 64 ≤ 10 ^ 20 := by norm_num
        _ ≤ 10 ^ 305 := pow_le_pow_right₀ (by norm_num) (by norm_num)
        _ ≤ 1797 * 10 ^ 305 := le_mul_of_one_le_left (by positivity) (by norm_num)
    rw [hwritten]
    exact hsize.le.trans hbound
  · intro hbeyond
    rw [hscale] at hbeyond
    exact absurd hbeyond (by decide)

end

end ProxyFilter.Json
