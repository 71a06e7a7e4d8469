import Mathlib.Algebra.Order.Field.Power
import Mathlib.Algebra.Order.Field.Rat
import Mathlib.Tactic.Linarith
import Mathlib.Tactic.NormNum
import Mathlib.Tactic.Positivity
import Mathlib.Tactic.Ring
import ProxyFilter.Binary64

/-!
# Rounding to binary64 magnitudes is close

A quotient is rounded in units of a power of two that leaves it 53 bits, or in the smallest unit
there is. The magnitude is half a unit away from the quotient at most, and it is finite as long as
the quotient lies below the half way point behind the greatest magnitude.
-/

namespace ProxyFilter.Binary64

/-- The value of a magnitude. -/
def value (x : Binary64) : ℚ := x.mantissa * 2 ^ x.exponent

/-- The half way point behind the greatest magnitude. -/
def overflow : ℚ := (2 ^ 54 - 1) * 2 ^ 970

/-! ## Whole parts and powers -/

section

variable {num den : Nat}

/-- A power is the quotient of two with natural exponents. -/
theorem zpow_eq_div (exponent : Int) :
    (2 : ℚ) ^ exponent = 2 ^ exponent.toNat / 2 ^ (-exponent).toNat := by
  rcases Int.le_total 0 exponent with h | h
  · have hnone : (-exponent).toNat = 0 := Int.toNat_of_nonpos (by omega)
    rw [hnone, pow_zero, div_one, ← zpow_natCast, Int.toNat_of_nonneg h]
  · rw [Int.toNat_of_nonpos h, pow_zero, one_div, ← zpow_natCast, Int.toNat_of_nonneg (by omega),
      zpow_neg, inv_inv]

/-- The value of a magnitude is its numerator over its denominator. -/
theorem value_eq_div (x : Binary64) : x.value = x.num / x.den := by
  rw [value, zpow_eq_div, num, den, Nat.pow_eq, Nat.pow_eq]
  push_cast
  exact (mul_div_assoc _ _ _).symm

/-- A denominator is not zero. -/
theorem den_pos (x : Binary64) : 0 < x.den := Nat.pow_pos (Nat.succ_pos 1)

/-- In units of a power of two a quotient is divided by that power. -/
theorem inUnits_div (num den : Nat) (unit : Int) :
    ((inUnits num den unit).1 : ℚ) / (inUnits num den unit).2 = num / den / 2 ^ unit := by
  rw [zpow_eq_div, inUnits, Nat.pow_eq, Nat.pow_eq]
  push_cast
  rw [div_div_div_eq, mul_div_mul_comm]

/-- A denominator stays one in units of a power of two. -/
theorem inUnits_pos (hden : 0 < den) (unit : Int) : 0 < (inUnits num den unit).2 :=
  Nat.mul_pos hden (Nat.pow_pos (Nat.succ_pos 1))

/-- A quotient is half of one away from the whole number that it is rounded to at most. -/
theorem roundDiv_close (hden : 0 < den) :
    (roundDiv num den : ℚ) ≤ num / den + 1 / 2 ∧ (num : ℚ) / den - 1 / 2 ≤ roundDiv num den := by
  have hsplit := Nat.div_add_mod num den
  have hmod := Nat.mod_lt num hden
  have hclose : 2 * (roundDiv num den * den) ≤ 2 * num + den ∧
      2 * num ≤ 2 * (roundDiv num den * den) + den := by
    unfold roundDiv
    dsimp only
    rw [Nat.mul_comm den] at hsplit
    split
    · omega
    split
    · rw [Nat.add_mul]
      omega
    · rcases Nat.mod_two_eq_zero_or_one (num / den) with heven | hodd
      · rw [heven, Nat.add_zero]
        omega
      · rw [hodd, Nat.add_mul]
        omega
  have hpos : (0 : ℚ) < den := Nat.cast_pos.mpr hden
  have habove : 2 * ((roundDiv num den : ℚ) * den) ≤ 2 * num + den := by exact_mod_cast hclose.1
  have hbelow : 2 * (num : ℚ) ≤ 2 * (roundDiv num den * den) + den := by exact_mod_cast hclose.2
  constructor
  · rw [← sub_le_iff_le_add, le_div_iff₀ hpos]
    linarith
  · rw [sub_le_iff_le_add, div_le_iff₀ hpos]
    linarith

end

/-! ## The unit of a quotient -/

section

variable {num den : Nat}

/-- The bits of the numerator and denominator tell a quotient up to a factor of two. -/
theorem log2_bounds (hnum : 0 < num) (hden : 0 < den) :
    (2 : ℚ) ^ ((num.log2 : Int) - den.log2 - 1) ≤ num / den ∧
      (num : ℚ) / den < 2 ^ ((num.log2 : Int) - den.log2 + 1) := by
  have hnumLow : (2 : ℚ) ^ (num.log2 : Int) ≤ num := by
    exact_mod_cast Nat.log2_self_le hnum.ne'
  have hnumHigh : (num : ℚ) < 2 ^ ((num.log2 : Int) + 1) := by
    exact_mod_cast Nat.lt_log2_self
  have hdenLow : (2 : ℚ) ^ (den.log2 : Int) ≤ den := by
    exact_mod_cast Nat.log2_self_le hden.ne'
  have hdenHigh : (den : ℚ) < 2 ^ ((den.log2 : Int) + 1) := by
    exact_mod_cast Nat.lt_log2_self
  have htwo : (2 : ℚ) ≠ 0 := two_ne_zero
  have hpos : (0 : ℚ) < den := Nat.cast_pos.mpr hden
  constructor
  · rw [le_div_iff₀ hpos]
    calc (2 : ℚ) ^ ((num.log2 : Int) - den.log2 - 1) * den
        ≤ 2 ^ ((num.log2 : Int) - den.log2 - 1) * 2 ^ ((den.log2 : Int) + 1) :=
          mul_le_mul_of_nonneg_left hdenHigh.le (by positivity)
      _ = 2 ^ (num.log2 : Int) := by
          rw [← zpow_add₀ htwo]
          congr 1
          ring
      _ ≤ num := hnumLow
  · rw [div_lt_iff₀ hpos]
    calc (num : ℚ) < 2 ^ ((num.log2 : Int) + 1) := hnumHigh
      _ = 2 ^ ((num.log2 : Int) - den.log2 + 1) * 2 ^ (den.log2 : Int) := by
          rw [← zpow_add₀ htwo]
          congr 1
          ring
      _ ≤ 2 ^ ((num.log2 : Int) - den.log2 + 1) * den :=
          mul_le_mul_of_nonneg_left hdenLow (by positivity)

/-- A unit suits a quotient if it has at most 53 bits in that unit, and no fewer unless the unit is
the smallest one. -/
structure Suits (quotient : ℚ) (unit : Int) : Prop where
  /-- There are at most 53 bits. -/
  above : quotient < 2 ^ (unit + 53)
  /-- There are no fewer, or there is no smaller unit. -/
  below : unit = -1074 ∨ 2 ^ (unit + 52) ≤ quotient

/-- A positive quotient is rounded in a unit that suits it. -/
theorem suits_unitOf (hnum : 0 < num) (hden : 0 < den) :
    Suits ((num : ℚ) / den) (unitOf num den) := by
  obtain ⟨hlow, hhigh⟩ := log2_bounds hnum hden
  let lower := max ((num.log2 : Int) - den.log2 - 53) (-1074)
  have hlower : lower = -1074 ∨ lower = (num.log2 : Int) - den.log2 - 53 := by
    unfold lower
    omega
  have habove : (num : ℚ) / den < 2 ^ (lower + 54) := by
    refine lt_of_lt_of_le hhigh (zpow_le_zpow_right₀ one_le_two ?_)
    unfold lower
    omega
  have hpos : (0 : ℚ) < 2 ^ lower := by positivity
  have hfits : Nat.pow 2 53 ≤ (inUnits num den lower).1 / (inUnits num den lower).2 ↔
      (2 : ℚ) ^ (lower + 53) ≤ num / den := by
    have hunits : (0 : ℚ) < (inUnits num den lower).2 :=
      Nat.cast_pos.mpr (inUnits_pos hden lower)
    rw [Nat.le_div_iff_mul_le (inUnits_pos hden lower), ← @Nat.cast_le ℚ, Nat.cast_mul,
      ← le_div_iff₀ hunits, inUnits_div, le_div_iff₀ hpos, zpow_add₀ two_ne_zero, mul_comm]
    norm_num
  have hunit : unitOf num den = if Nat.pow 2 53 ≤
      (inUnits num den lower).1 / (inUnits num den lower).2 then lower + 1 else lower := rfl
  rw [hunit]
  split
  · next hmore =>
    refine ⟨?_, .inr ?_⟩
    · rwa [add_assoc]
    · rw [add_assoc]
      exact hfits.mp hmore
  · next hless =>
    refine ⟨lt_of_not_ge fun hge => hless (hfits.mpr hge), ?_⟩
    rcases hlower with hleast | hbits
    · exact .inl hleast
    · refine .inr (le_trans (le_of_eq ?_) hlow)
      rw [hbits]
      congr 1
      ring

end

/-! ## The nearest magnitude -/

/-- A magnitude is close to a quotient if it lies no further away than half of a unit in which the
quotient has 53 bits, or half of the smallest unit. -/
def IsClose (quotient : ℚ) (x : Binary64) : Prop :=
  ∃ unit : Int, (unit = -1074 ∨ 2 ^ (unit + 52) ≤ quotient) ∧
    x.value ≤ quotient + 2 ^ unit / 2 ∧ quotient - 2 ^ unit / 2 ≤ x.value

section

variable {num den : Nat} {quotient : ℚ} {x y : Binary64}

/-- The value of the zero magnitude. -/
theorem value_zero : value zero = 0 := by
  rw [value, zero, Nat.cast_zero, zero_mul]

/-- The zero magnitude is close to zero. -/
theorem isClose_zero : IsClose 0 zero := by
  have hpos : (0 : ℚ) ≤ 2 ^ (-1074 : Int) / 2 := by positivity
  refine ⟨-1074, .inl rfl, ?_, ?_⟩
  · rwa [value_zero, zero_add]
  · rwa [value_zero, zero_sub, neg_nonpos]

/-- The multiple of a unit that a quotient is rounded to is half of the unit away at most. -/
theorem roundDiv_inUnits_close (hden : 0 < den) {unit : Int} {mantissa : Nat}
    (hmantissa : roundDiv (inUnits num den unit).1 (inUnits num den unit).2 = mantissa) :
    (mantissa : ℚ) * 2 ^ unit ≤ num / den + 2 ^ unit / 2 ∧
      (num : ℚ) / den - 2 ^ unit / 2 ≤ mantissa * 2 ^ unit := by
  obtain ⟨habove, hbelow⟩ :=
    @roundDiv_close (inUnits num den unit).1 _ (@inUnits_pos num den hden unit)
  rw [inUnits_div, hmantissa] at habove hbelow
  have hpos : (0 : ℚ) < 2 ^ unit := by positivity
  have hunits : (num : ℚ) / den = num / den / 2 ^ unit * 2 ^ unit :=
    (div_mul_cancel₀ _ hpos.ne').symm
  constructor
  · calc (mantissa : ℚ) * 2 ^ unit ≤ (num / den / 2 ^ unit + 1 / 2) * 2 ^ unit :=
          mul_le_mul_of_nonneg_right habove hpos.le
      _ = num / den + 2 ^ unit / 2 := by
          rw [add_mul, ← hunits]
          ring
  · calc (num : ℚ) / den - 2 ^ unit / 2 = (num / den / 2 ^ unit - 1 / 2) * 2 ^ unit := by
          rw [sub_mul, ← hunits]
          ring
      _ ≤ mantissa * 2 ^ unit := mul_le_mul_of_nonneg_right hbelow hpos.le

/-- The half way point behind the greatest magnitude in its unit. -/
theorem overflow_eq : overflow = (2 ^ 53 - 1 / 2) * 2 ^ (971 : Int) := by
  have hunit : (2 : ℚ) ^ (971 : Int) = 2 ^ 970 * 2 :=
    (zpow_natCast (2 : ℚ) 971).trans (pow_succ 2 970)
  rw [overflow, hunit]
  generalize (2 : ℚ) ^ 970 = half
  ring

/-- Up to the half way point behind the greatest magnitude there is a nearest one, and it is
close. -/
theorem exists_nearest (hden : 0 < den) (h : (num : ℚ) / den < overflow) :
    ∃ x, nearest? num den = some x ∧ IsClose ((num : ℚ) / den) x := by
  by_cases hzero : num = 0
  · rw [hzero, Nat.cast_zero, zero_div]
    exact ⟨zero, rfl, isClose_zero⟩
  have hsuits := suits_unitOf (Nat.pos_of_ne_zero hzero) hden
  generalize hunit : unitOf num den = unit at hsuits
  generalize hmantissa : roundDiv (inUnits num den unit).1 (inUnits num den unit).2 = mantissa
  obtain ⟨habove, hbelow⟩ := roundDiv_inUnits_close hden hmantissa
  have hresult : nearest? num den =
      if 971 < (if mantissa = Nat.pow 2 53 then (⟨Nat.pow 2 52, unit + 1⟩ : Binary64)
        else ⟨mantissa, unit⟩).exponent then none
      else some (if mantissa = Nat.pow 2 53 then ⟨Nat.pow 2 52, unit + 1⟩ else ⟨mantissa, unit⟩) := by
    rw [← hmantissa, ← hunit]
    exact if_neg hzero
  have hleast : ∀ least : Int, least ≤ unit → (2 : ℚ) ^ least ≤ 2 ^ unit := fun least hle =>
    zpow_le_zpow_right₀ one_le_two hle
  rw [overflow_eq] at h
  rw [hresult]
  by_cases hcarry : mantissa = Nat.pow 2 53
  · have hexponent : ¬ 971 < unit + 1 := fun hlt => by
      have hunit := hleast 971 (by omega)
      rw [hcarry, Nat.pow_eq] at habove
      push_cast at habove
      linarith
    rw [if_pos hcarry, if_neg hexponent]
    have hvalue : value ⟨Nat.pow 2 52, unit + 1⟩ = mantissa * 2 ^ unit := by
      rw [value, hcarry, zpow_add₀ two_ne_zero]
      norm_num
      ring
    exact ⟨_, rfl, unit, hsuits.below, hvalue ▸ habove, hvalue ▸ hbelow⟩
  · have hexponent : ¬ 971 < unit := fun hlt => by
      rcases hsuits.below with hsmallest | hbits
      · omega
      · have hunit := hleast (971 + 1) (by omega)
        have hpos : (0 : ℚ) < 2 ^ (971 : Int) := by positivity
        have hsplit : (2 : ℚ) ^ (unit + 52) = 2 ^ unit * 2 ^ 52 := zpow_add₀ two_ne_zero unit 52
        rw [hsplit] at hbits
        rw [zpow_add_one₀ two_ne_zero] at hunit
        generalize (2 : ℚ) ^ (971 : Int) = least at h hunit hpos
        linarith
    rw [if_neg hcarry, if_neg hexponent]
    exact ⟨_, rfl, unit, hsuits.below, habove, hbelow⟩

/-- Half of the unit of a quotient from one on is less than the quotient by 53 bits. -/
theorem half_unit_le {unit : Int} (hunit : unit = -1074 ∨ (2 : ℚ) ^ (unit + 52) ≤ quotient)
    (hquotient : 1 ≤ quotient) : (2 : ℚ) ^ unit / 2 ≤ quotient / 2 ^ 53 := by
  have hbits : (2 : ℚ) ^ (unit + 52) ≤ quotient := by
    refine hunit.elim (fun hleast => ?_) id
    refine le_trans (zpow_le_one_of_nonpos₀ one_le_two ?_) hquotient
    omega
  have hsplit : (2 : ℚ) ^ (unit + 52) = 2 ^ unit * 2 ^ 52 := zpow_add₀ two_ne_zero unit 52
  rw [hsplit] at hbits
  rw [div_le_div_iff₀ two_pos (by positivity)]
  linarith

/-- A magnitude close to a quotient from one on differs from it by 53 bits at most. -/
theorem IsClose.bounds (h : IsClose quotient x) (hquotient : 1 ≤ quotient) :
    quotient * (1 - 1 / 2 ^ 53) ≤ x.value ∧ x.value ≤ quotient * (1 + 1 / 2 ^ 53) := by
  obtain ⟨unit, hunit, habove, hbelow⟩ := h
  have hhalf := half_unit_le hunit hquotient
  constructor
  · linarith
  · linarith

/-- A magnitude close to a quotient is not much greater. -/
theorem IsClose.le (h : IsClose quotient x) : x.value ≤ 2 * max quotient 1 := by
  rcases le_total 1 quotient with hone | hone
  · have habove := (h.bounds hone).2
    rw [max_eq_left hone]
    linarith
  · obtain ⟨unit, hunit, habove, -⟩ := h
    have hbits : (2 : ℚ) ^ unit ≤ 1 := by
      refine zpow_le_one_of_nonpos₀ one_le_two ?_
      by_contra hpositive
      rcases hunit with hleast | hbits
      · omega
      · have hgrow := one_lt_zpow₀ (one_lt_two (α := ℚ)) (n := unit + 52) (by omega)
        linarith
    rw [max_eq_right hone]
    linarith

end

/-! ## Scaling with powers of ten -/

section

variable {x y : Binary64} {places : Nat}

/-- Up to 1.797e308 even two roundings leave a number below the half way point. -/
theorem safe_lt_overflow : (1797 * 10 ^ 305 : ℚ) * (1 + 1 / 2 ^ 53) ^ 2 < overflow := by
  have hten : (10 : ℚ) ^ 305 = (10 ^ 61) ^ 5 := pow_mul 10 61 5
  have htwo : (2 : ℚ) ^ 970 = (2 ^ 194) ^ 5 := pow_mul 2 194 5
  rw [overflow, hten, htwo]
  norm_num

/-- The greatest power of ten lies below the half way point. -/
theorem ten_lt_overflow : (10 : ℚ) ^ 308 < overflow := by
  refine lt_of_le_of_lt ?_ safe_lt_overflow
  have hsplit : (10 : ℚ) ^ 308 = 10 ^ 305 * 10 ^ 3 := pow_add 10 305 3
  have hpos : (0 : ℚ) < 10 ^ 305 := by positivity
  rw [hsplit]
  generalize (10 : ℚ) ^ 305 = ten at hpos
  norm_num
  linarith

/-- So do the numbers of 64 bits. -/
theorem bits_lt_overflow : (2 : ℚ) ^ 64 < overflow := by
  refine lt_trans ?_ ten_lt_overflow
  calc (2 : ℚ) ^ 64 < 10 ^ 20 := by norm_num
    _ ≤ 10 ^ 308 := pow_le_pow_right₀ (by norm_num) (by norm_num)

/-- A magnitude is not below zero. -/
theorem value_nonneg (x : Binary64) : 0 ≤ x.value := by
  unfold value
  positivity

/-- Powers of ten up to the limit have a nearest magnitude. -/
theorem exists_tenTo (hplaces : places ≤ tenLimit) :
    ∃ ten, tenTo? places = some ten ∧ IsClose (10 ^ places) ten := by
  have hpower : (10 : ℚ) ^ places ≤ 10 ^ 308 := pow_le_pow_right₀ (by norm_num) hplaces
  have hquotient : ((Nat.pow 10 places : Nat) : ℚ) / (1 : Nat) = 10 ^ places := by
    rw [Nat.pow_eq, Nat.cast_one, div_one]
    push_cast
    rfl
  have hnearest := @exists_nearest (Nat.pow 10 places) 1 one_pos
    (hquotient ▸ lt_of_le_of_lt hpower ten_lt_overflow)
  rwa [hquotient] at hnearest

/-- The product of two magnitudes is rounded. -/
theorem exists_times (h : x.value * y.value < overflow) :
    ∃ product, x.times? y = some product ∧ IsClose (x.value * y.value) product := by
  have hquotient : ((x.num * y.num : Nat) : ℚ) / (x.den * y.den : Nat) = x.value * y.value := by
    rw [value_eq_div, value_eq_div, div_mul_div_comm]
    push_cast
    rfl
  rw [← hquotient] at h ⊢
  exact exists_nearest (Nat.mul_pos x.den_pos y.den_pos) h

/-- The quotient of two magnitudes is rounded. -/
theorem exists_over (hy : 0 < y.value) (h : x.value / y.value < overflow) :
    ∃ quotient, x.over? y = some quotient ∧ IsClose (x.value / y.value) quotient := by
  have hquotient : ((x.num * y.den : Nat) : ℚ) / (x.den * y.num : Nat) = x.value / y.value := by
    rw [value_eq_div, value_eq_div, div_div_div_eq]
    push_cast
    rfl
  have hnum : 0 < y.num := by
    refine Nat.pos_of_ne_zero fun hzero => ?_
    rw [value_eq_div, hzero, Nat.cast_zero, zero_div] at hy
    exact lt_irrefl _ hy
  rw [← hquotient] at h ⊢
  exact exists_nearest (Nat.mul_pos x.den_pos hnum) h

/-- A magnitude can be raised as long as the rounded power of ten leaves it finite. -/
theorem exists_raise (hplaces : places ≤ tenLimit)
    (h : x.value * (10 ^ places * (1 + 1 / 2 ^ 53)) < overflow) : ∃ y, x.raise? places = some y := by
  obtain ⟨ten, hten, hclose⟩ := exists_tenTo hplaces
  have hone : (1 : ℚ) ≤ 10 ^ places := one_le_pow₀ (by norm_num)
  obtain ⟨product, hproduct, -⟩ := @exists_times x ten (lt_of_le_of_lt
    (mul_le_mul_of_nonneg_left (hclose.bounds hone).2 x.value_nonneg) h)
  refine ⟨product, ?_⟩
  rw [raise?, if_pos hplaces, hten]
  exact hproduct

/-- Zero can be raised however far. -/
theorem exists_raise_zero (places : Nat) : ∃ y, zero.raise? places = some y := by
  by_cases hplaces : places ≤ tenLimit
  · refine exists_raise hplaces ?_
    rw [value_zero, zero_mul]
    exact lt_trans (by positivity) bits_lt_overflow
  · rw [raise?, if_neg hplaces]
    exact ⟨zero, rfl⟩

/-- The magnitude of a whole number can be raised, unless that gives more than 1.797e308. -/
theorem exists_raise_of_nearest {number : Nat} (hnearest : nearest? number 1 = some x)
    (hclose : IsClose number x)
    (h : (number : ℚ) * 10 ^ places ≤ 1797 * 10 ^ 305) : ∃ y, x.raise? places = some y := by
  rcases Nat.eq_zero_or_pos number with rfl | hpositive
  · cases hnearest
    exact exists_raise_zero places
  · have hone : (1 : ℚ) ≤ number := Nat.one_le_cast.mpr hpositive
    have hplaces : places ≤ tenLimit := by
      by_contra hbeyond
      have hgrow : (10 : ℚ) ^ 309 ≤ 10 ^ places :=
        pow_le_pow_right₀ (by norm_num) (Nat.lt_of_not_le hbeyond)
      have hsplit : (10 : ℚ) ^ 309 = 10 ^ 305 * 10 ^ 4 := pow_add 10 305 4
      have hpos : (0 : ℚ) < 10 ^ 305 := by positivity
      rw [hsplit] at hgrow
      generalize (10 : ℚ) ^ 305 = ten at h hgrow hpos
      nlinarith
    refine exists_raise hplaces (lt_of_le_of_lt ?_ safe_lt_overflow)
    have habove := (hclose.bounds hone).2
    calc x.value * (10 ^ places * (1 + 1 / 2 ^ 53))
        ≤ number * (1 + 1 / 2 ^ 53) * (10 ^ places * (1 + 1 / 2 ^ 53)) :=
          mul_le_mul_of_nonneg_right habove (by positivity)
      _ = number * 10 ^ places * (1 + 1 / 2 ^ 53) ^ 2 := by ring
      _ ≤ 1797 * 10 ^ 305 * (1 + 1 / 2 ^ 53) ^ 2 :=
          mul_le_mul_of_nonneg_right h (by positivity)

/-- A magnitude divided by a power of ten does not grow beyond 2^65. -/
theorem exists_over_ten (hplaces : 0 < places ∧ places ≤ tenLimit) (h : x.value ≤ 2 ^ 65) :
    ∃ ten y, tenTo? places = some ten ∧ x.over? ten = some y ∧ y.value ≤ 2 ^ 65 := by
  obtain ⟨ten, hten, hclose⟩ := exists_tenTo hplaces.2
  have hgrow : (10 : ℚ) ^ 1 ≤ 10 ^ places := pow_le_pow_right₀ (by norm_num) hplaces.1
  have hfour : 4 ≤ ten.value := by
    have hbelow := (hclose.bounds (le_trans (by norm_num) hgrow)).1
    norm_num at hbelow hgrow
    linarith
  have hquotient : x.value / ten.value ≤ 2 ^ 65 / 4 :=
    div_le_div₀ (by norm_num) h (by norm_num) hfour
  have hlimit : (2 : ℚ) ^ 65 / 4 < overflow := lt_trans (by norm_num) bits_lt_overflow
  obtain ⟨y, hy, hyclose⟩ :=
    @exists_over x ten (by linarith) (lt_of_le_of_lt hquotient hlimit)
  refine ⟨ten, y, hten, hy, le_trans hyclose.le ?_⟩
  rcases le_total 1 (x.value / ten.value) with hone | hone
  · rw [max_eq_left hone]
    linarith
  · rw [max_eq_right hone]
    norm_num

/-- A magnitude that is not too great can be divided by every power of ten. -/
theorem exists_lower (hplaces : 0 < places) (h : x.value ≤ 2 ^ 65) :
    ∃ y, x.lower? places = some y := by
  induction places using Nat.strong_induction_on generalizing x with
  | _ places ih =>
    rw [lower?]
    by_cases hlimit : places ≤ tenLimit
    · obtain ⟨ten, y, hten, hy, -⟩ := exists_over_ten ⟨hplaces, hlimit⟩ h
      rw [if_pos hlimit, hten]
      exact ⟨y, hy⟩
    · rw [if_neg hlimit]
      by_cases hzero : x.mantissa = 0
      · exact ⟨x, if_pos hzero⟩
      · have hpositive : 0 < tenLimit := by decide
        obtain ⟨ten, y, hten, hy, hsmall⟩ := exists_over_ten ⟨hpositive, le_rfl⟩ h
        rw [if_neg hzero, hten]
        obtain ⟨last, hlast⟩ := ih (places - tenLimit) (by omega) (by omega) hsmall
        refine ⟨last, ?_⟩
        change (x.over? ten >>= fun y => y.lower? (places - tenLimit)) = some last
        rw [hy]
        exact hlast

/-- A number of 64 bits can be scaled, unless that gives more than 1.797e308. -/
theorem exists_scaled {significand : Nat} {exponent : Int} (hsignificand : significand < 2 ^ 64)
    (h : (significand : ℚ) * 10 ^ exponent ≤ 1797 * 10 ^ 305) :
    ∃ x, scaled? significand exponent = some x := by
  have hsize : (significand : ℚ) < 2 ^ 64 := by exact_mod_cast hsignificand
  have hquotient : ((significand : Nat) : ℚ) / (1 : Nat) = significand := by
    rw [Nat.cast_one, div_one]
  obtain ⟨x, hx, hclose⟩ := @exists_nearest significand 1 one_pos
    (lt_of_eq_of_lt hquotient (hsize.trans bits_lt_overflow))
  rw [hquotient] at hclose
  have hscaled : scaled? significand exponent =
      if 0 ≤ exponent then x.raise? exponent.toNat else x.lower? (-exponent).toNat := by
    rw [scaled?, hx]
    rfl
  rw [hscaled]
  by_cases hexponent : 0 ≤ exponent
  · obtain ⟨places, rfl⟩ := Int.eq_ofNat_of_zero_le hexponent
    rw [if_pos hexponent, Int.toNat_natCast]
    rw [zpow_natCast] at h
    exact exists_raise_of_nearest hx hclose h
  · rw [if_neg hexponent]
    refine exists_lower (by omega) (le_trans hclose.le ?_)
    have hmost : max (significand : ℚ) 1 ≤ 2 ^ 64 := max_le hsize.le (by norm_num)
    linarith

end

end ProxyFilter.Binary64
