import TemplateJsx.Proofs.NumeralReading

/-
  Sums of numbers. Finite numbers are added exactly, and the
  sum is rounded. An infinity stays what it is when a finite
  number is added to it, and opposite infinities have no
  sum. A rounded sum lies near the exact one.

  Key definitions include:
    * `Number.magnitude`
    * `Number.value`
    * `Number.multiples`
    * `Number.add`

  Main declarations:
    * `Number.Holds.le_magnitude`
    * `Number.Holds.magnitude_le`
    * `Number.holds_add`
    * `Number.magnitude_add_le`
-/

------------------------------------------------------------
-- Values
------------------------------------------------------------

namespace TemplateJsx

namespace Number

/- The magnitude of a finite number. -/
def magnitude (x : Number) : ℚ :=
  x.significand * 2 ^ x.scale

/- The value of a finite number. -/
def value (x : Number) : ℚ :=
  if x.negative then -x.magnitude else x.magnitude

variable {x y : Number}

theorem magnitude_nonneg (x : Number) : 0 ≤ x.magnitude := by
  unfold magnitude
  positivity

theorem abs_value (x : Number) : |x.value| = x.magnitude := by
  unfold value
  split
  · rw [abs_neg, abs_of_nonneg x.magnitude_nonneg]
  · exact abs_of_nonneg x.magnitude_nonneg

theorem magnitude_eq_quarters
    (x : Number) :
    x.magnitude = 4 * x.significand * quarter x.code := by
  unfold magnitude quarter
  rw [codeScale_code, zpow_sub₀ two_ne_zero]
  ring

/- A number with few places is far below one. -/
theorem quarter_le_of_significand_lt
    (hSig : x.significand < 3) :
    quarter x.code ≤ 1 / 16 := by
  have hScale : x.scale = -1074 := by
    rw [significand, Nat.pow_eq] at hSig
    unfold scale
    split at hSig
    · rename_i hExponent
      rw [hExponent]
      rfl
    · omega
  unfold quarter
  rw [codeScale_code, hScale]
  calc
    (2 : ℚ) ^ (-1074 - 2 : Int) ≤ 2 ^ (-4 : Int) :=
      zpow_le_zpow_right₀ one_le_two (by norm_num)
    _ = 1 / 16 := by norm_num

/- What reads back to a number is not much larger. -/
theorem Holds.le_magnitude
    {d : ℚ}
    (hHolds : Holds x.code d)
    (hOne : 1 ≤ d) :
    d ≤ 6 / 5 * x.magnitude := by
  have hUpper := hHolds.upper
  have hPos := quarter_pos x.code
  unfold upperEnd at hUpper
  rw [codeSignificand_code] at hUpper
  push_cast at hUpper
  rw [magnitude_eq_quarters]
  rcases Nat.lt_or_ge x.significand 3 with hFew | hMany
  · have hSmall := quarter_le_of_significand_lt hFew
    have hSig : (x.significand : ℚ) ≤ 2 := by
      exact_mod_cast Nat.le_of_lt_succ hFew
    nlinarith
  · have hSig : (3 : ℚ) ≤ x.significand := by
      exact_mod_cast hMany
    nlinarith

/- What is not much smaller reads back to a number. -/
theorem Holds.magnitude_le
    {d bound : ℚ}
    (hHolds : Holds x.code d)
    (hBound : d ≤ bound)
    (hOne : 1 ≤ bound) :
    x.magnitude ≤ 6 / 5 * bound := by
  have hLower := hHolds.lower
  have hPos := quarter_pos x.code
  unfold lowerEnd at hLower
  rw [lowerQuarters_code] at hLower
  rw [magnitude_eq_quarters]
  rcases Nat.lt_or_ge x.significand 3 with hFew | hMany
  · have hSmall := quarter_le_of_significand_lt hFew
    have hSig : (x.significand : ℚ) ≤ 2 := by
      exact_mod_cast Nat.le_of_lt_succ hFew
    nlinarith
  · have hSig : (3 : ℚ) ≤ x.significand := by
      exact_mod_cast hMany
    have hQuarters :
        4 * x.significand ≤ x.lowerQuarter + 2 := by
      unfold lowerQuarter
      split <;> omega
    have hQuarters :
        (4 : ℚ) * x.significand ≤ x.lowerQuarter + 2 := by
      exact_mod_cast hQuarters
    nlinarith

------------------------------------------------------------
-- Addition
------------------------------------------------------------

/-
  A finite number in multiples of a power of two, one that
  does not lie above its own scale.
-/
def multiples
    (x : Number)
    (unit : Int) : Int :=
  let count : Int :=
    x.significand * Nat.pow 2 (x.scale - unit).toNat
  if x.negative then -count else count

/-
  The rounded sum of finite numbers. A sum of zero is
  negative only if both numbers are, and a sum that is too
  large is infinite.
-/
def addFinite
    (x y : Number) : Number :=
  let unit := min x.scale y.scale
  let total := x.multiples unit + y.multiples unit
  if total = 0 then
    zero (x.negative && y.negative)
  else
    (ofQuotient? (total < 0)
      (total.natAbs * Nat.pow 2 unit.toNat)
      (Nat.pow 2 (-unit).toNat)).getD
        (infinity (total < 0))

/- The sum of numbers. -/
def add
    (x y : Number) : Number :=
  if x.IsNaN ∨ y.IsNaN then
    nan
  else if x.IsFinite then
    if y.IsFinite then addFinite x y else y
  else if y.IsFinite ∨ x = y then
    x
  else
    nan

theorem multiples_mul
    {unit : Int}
    (hUnit : unit ≤ x.scale) :
    (x.multiples unit : ℚ) * 2 ^ unit = x.value := by
  have hTwo :
      (2 : ℚ) ^ (x.scale - unit).toNat * 2 ^ unit =
        2 ^ x.scale := by
    rw [← zpow_natCast, ← zpow_add₀ two_ne_zero]
    congr 1
    omega
  unfold multiples value magnitude
  simp only [Nat.pow_eq]
  split
  · push_cast
    rw [neg_mul, mul_assoc, hTwo]
  · push_cast
    rw [mul_assoc, hTwo]

theorem addFinite_holds
    (hSum : (addFinite x y).IsFinite) :
    Holds (addFinite x y).code |x.value + y.value| := by
  have hLeft := multiples_mul (min_le_left x.scale y.scale)
  have hRight := multiples_mul (min_le_right x.scale y.scale)
  unfold addFinite at hSum ⊢
  dsimp only at hSum ⊢
  generalize min x.scale y.scale = unit at *
  have hTotal :
      ((x.multiples unit + y.multiples unit : Int) : ℚ) *
          2 ^ unit =
        x.value + y.value := by
    push_cast
    rw [add_mul, hLeft, hRight]
  generalize x.multiples unit + y.multiples unit = total at *
  by_cases hZero : total = 0
  · rw [if_pos hZero, code_zero, ← hTotal, hZero, Int.cast_zero,
      zero_mul, abs_zero]
    exact holds_zero
  · rw [if_neg hZero] at hSum ⊢
    have hDen : 0 < Nat.pow 2 (-unit).toNat := by
      rw [Nat.pow_eq]
      positivity
    have hQuotient :
        ((total.natAbs * Nat.pow 2 unit.toNat : Nat) : ℚ) /
            (Nat.pow 2 (-unit).toNat : Nat) =
          |x.value + y.value| := by
      have hTwo :
          (2 : ℚ) ^ unit.toNat / 2 ^ (-unit).toNat =
            2 ^ unit := by
        rw [← zpow_natCast, ← zpow_natCast,
          ← zpow_sub₀ two_ne_zero]
        congr 1
        omega
      have hAbs : ((total.natAbs : Nat) : ℚ) = |(total : ℚ)| := by
        rw [Nat.cast_natAbs, Int.cast_abs]
      have hPos : (0 : ℚ) < 2 ^ unit := by positivity
      simp only [Nat.pow_eq]
      push_cast
      rw [mul_div_assoc, hTwo, hAbs, ← hTotal, abs_mul,
        abs_of_pos hPos]
    cases hFound :
        ofQuotient? (total < 0)
          (total.natAbs * Nat.pow 2 unit.toNat)
          (Nat.pow 2 (-unit).toNat) with
    | none =>
        rw [hFound] at hSum
        exact absurd rfl hSum
    | some z =>
        rw [Option.getD_some, ← hQuotient]
        exact holds_of_ofQuotient? hDen hFound

theorem add_eq_addFinite
    (hLeft : x.IsFinite)
    (hRight : y.IsFinite) :
    x.add y = addFinite x y := by
  have hNumbers : ¬ (x.IsNaN ∨ y.IsNaN) := by
    rintro (hNaN | hNaN)
    · exact hLeft hNaN.1
    · exact hRight hNaN.1
  unfold add
  rw [if_neg hNumbers, if_pos hLeft, if_pos hRight]

/- A sum with what is not finite is not finite. -/
theorem not_isFinite_add
    (hLeft : ¬ x.IsFinite)
    (hRight : y.IsFinite) :
    ¬ (x.add y).IsFinite := by
  have hEither : y.IsFinite ∨ x = y := .inl hRight
  unfold add
  rw [if_neg hLeft, if_pos hEither]
  split
  · decide
  · exact hLeft

/- The exact sum lies in the interval of the rounded one. -/
theorem holds_add
    (hLeft : x.IsFinite)
    (hRight : y.IsFinite)
    (hSum : (x.add y).IsFinite) :
    Holds (x.add y).code |x.value + y.value| := by
  rw [add_eq_addFinite hLeft hRight] at hSum ⊢
  exact addFinite_holds hSum

/- A sum is not much larger than what is added. -/
theorem magnitude_add_le
    {bound : ℚ}
    (hLeft : x.IsFinite)
    (hRight : y.IsFinite)
    (hSum : (x.add y).IsFinite)
    (hBound : x.magnitude + y.magnitude ≤ bound)
    (hOne : 1 ≤ bound) :
    (x.add y).magnitude ≤ 6 / 5 * bound := by
  apply (holds_add hLeft hRight hSum).magnitude_le _ hOne
  calc
    |x.value + y.value| ≤ |x.value| + |y.value| :=
      abs_add_le _ _
    _ = x.magnitude + y.magnitude := by
      rw [abs_value, abs_value]
    _ ≤ bound := hBound

end Number

end TemplateJsx
