import TemplateJsx.Number.Integer
import TemplateJsx.Proofs.Numeral

/-
  Printed numbers are read back. A quotient is rounded to
  the magnitude whose interval it lies in, and the decimal
  that is printed for a number lies in the interval of that
  number, so that reading undoes printing.

  Key definitions include:
    * `Number.Nearest`
    * `Number.scaledTo`
    * `Number.exactScale`
    * `Number.scaledCode`

  Main declarations:
    * `Number.roundDiv_nearest`
    * `Number.exactScale_spec`
    * `Number.holds_scaledCode`
    * `Number.holds_of_ofQuotient?`
    * `Number.ofQuotient?_of_holds`
    * `Number.readDecimal?_pointed`
    * `Number.ofText?_print`
    * `Integer.ofText_repr`
-/

------------------------------------------------------------
-- Rounding to a Natural
------------------------------------------------------------

namespace TemplateJsx

namespace Number

/-
  A natural that is nearest to a quotient. Halfway between
  two it is the even one.
-/
structure Nearest
    (v : ℚ)
    (n : Nat) : Prop where
  lower : 2 * (n : ℚ) ≤ 2 * v + 1
  upper : 2 * v ≤ 2 * n + 1
  inside : n % 2 = 1 →
    2 * (n : ℚ) < 2 * v + 1 ∧ 2 * v < 2 * n + 1

/- The bounds of a rounded quotient, without division. -/
theorem roundDiv_bounds
    (num : Nat)
    {den : Nat}
    (hDen : 0 < den) :
    let n := roundDiv num den
    2 * (n * den) ≤ 2 * num + den ∧
      2 * num ≤ 2 * (n * den) + den ∧
      (n % 2 = 1 →
        2 * (n * den) < 2 * num + den ∧
          2 * num < 2 * (n * den) + den) := by
  have hDiv := Nat.div_add_mod num den
  have hMod := Nat.mod_lt num hDen
  rw [Nat.mul_comm] at hDiv
  unfold roundDiv
  generalize num / den = quotient at *
  generalize num % den = remainder at *
  have hNext : (quotient + 1) * den = quotient * den + den := by
    ring
  dsimp only
  split
  · omega
  · split
    · rw [hNext]
      omega
    · -- Halfway, the result is even and only the bounds count.
      rcases Nat.mod_two_eq_zero_or_one quotient with
        hEven | hOdd
      · rw [hEven, Nat.add_zero]
        omega
      · rw [hOdd, hNext]
        omega

/- Quotients are rounded to the nearest natural. -/
theorem roundDiv_nearest
    (num : Nat)
    {den : Nat}
    (hDen : 0 < den) :
    Nearest ((num : ℚ) / den) (roundDiv num den) := by
  have hPos : (0 : ℚ) < den := by exact_mod_cast hDen
  have hValue : (num : ℚ) / den * den = num :=
    div_mul_cancel₀ _ hPos.ne'
  rcases roundDiv_bounds num hDen with
    ⟨hLower, hUpper, hInside⟩
  generalize roundDiv num den = n at *
  generalize (num : ℚ) / den = v at *
  -- Both sides are multiples of the divisor.
  refine ⟨?_, ?_, ?_⟩
  · apply le_of_mul_le_mul_right _ hPos
    have hLower : (2 : ℚ) * (n * den) ≤ 2 * num + den := by
      exact_mod_cast hLower
    linarith
  · apply le_of_mul_le_mul_right _ hPos
    have hUpper : (2 : ℚ) * num ≤ 2 * (n * den) + den := by
      exact_mod_cast hUpper
    linarith
  · intro hOdd
    rcases hInside hOdd with ⟨hAbove, hBelow⟩
    constructor
    · apply lt_of_mul_lt_mul_right _ hPos.le
      have hAbove : (2 : ℚ) * (n * den) < 2 * num + den := by
        exact_mod_cast hAbove
      linarith
    · apply lt_of_mul_lt_mul_right _ hPos.le
      have hBelow : (2 : ℚ) * num < 2 * (n * den) + den := by
        exact_mod_cast hBelow
      linarith

------------------------------------------------------------
-- Scales
------------------------------------------------------------

/- A quotient in multiples of a power of two. -/
def scaledTo
    (num den : Nat)
    (scale : Int) : Nat × Nat :=
  (num * Nat.pow 2 (-scale).toNat, den * Nat.pow 2 scale.toNat)

/- The scale at which a quotient has 53 bits. -/
def exactScale
    (num den : Nat) : Int :=
  let estimate : Int :=
    (num.log2 : Int) - (den.log2 : Int) - 53
  let bits := scaledTo num den estimate
  if bits.1 / bits.2 < Nat.pow 2 53 then
    estimate
  else
    estimate + 1

/- How a quotient other than zero is rounded. -/
theorem ofQuotient?_eq
    {negative : Bool}
    {num den : Nat}
    (hNum : num ≠ 0) :
    ofQuotient? negative num den =
      let scale := max (-1074) (exactScale num den)
      let parts := scaledTo num den scale
      ofScaled? negative (roundDiv parts.1 parts.2) scale := by
  unfold ofQuotient?
  rw [if_neg hNum]
  rfl

theorem scaledTo_pos
    (num : Nat)
    {den : Nat}
    (hDen : 0 < den)
    (scale : Int) :
    0 < (scaledTo num den scale).2 := by
  unfold scaledTo
  simp only [Nat.pow_eq]
  positivity

/- The quotient of the parts is the scaled quotient. -/
theorem scaledTo_quotient
    (num den : Nat)
    (scale : Int) :
    ((scaledTo num den scale).1 : ℚ) /
        (scaledTo num den scale).2 =
      num / den * 2 ^ (-scale) := by
  have hTwo :
      (2 : ℚ) ^ (-scale).toNat / 2 ^ scale.toNat =
        2 ^ (-scale) := by
    rw [← zpow_natCast, ← zpow_natCast,
      ← zpow_sub₀ two_ne_zero]
    congr 1
    omega
  unfold scaledTo
  simp only [Nat.pow_eq]
  push_cast
  rw [mul_div_mul_comm, hTwo]

/- A quotient lies near the quotient of two powers of two. -/
theorem quotient_log2
    {num den : Nat}
    (hNum : num ≠ 0)
    (hDen : 0 < den) :
    (2 : ℚ) ^ ((num.log2 : Int) - den.log2 - 1) < num / den ∧
      (num : ℚ) / den < 2 ^ ((num.log2 : Int) - den.log2 + 1) := by
  have hPos : (0 : ℚ) < den := by exact_mod_cast hDen
  have hNumLow : (2 : ℚ) ^ num.log2 ≤ num := by
    exact_mod_cast Nat.log2_self_le hNum
  have hNumHigh : (num : ℚ) < 2 ^ (num.log2 + 1) := by
    exact_mod_cast Nat.lt_log2_self
  have hDenLow : (2 : ℚ) ^ den.log2 ≤ den := by
    exact_mod_cast Nat.log2_self_le hDen.ne'
  have hDenHigh : (den : ℚ) < 2 ^ (den.log2 + 1) := by
    exact_mod_cast Nat.lt_log2_self
  constructor
  · rw [lt_div_iff₀ hPos]
    calc
      (2 : ℚ) ^ ((num.log2 : Int) - den.log2 - 1) * den
          < 2 ^ ((num.log2 : Int) - den.log2 - 1) *
              2 ^ (den.log2 + 1) :=
        mul_lt_mul_of_pos_left hDenHigh (by positivity)
      _ = 2 ^ num.log2 := by
        rw [← zpow_natCast, ← zpow_natCast,
          ← zpow_add₀ two_ne_zero]
        congr 1
        push_cast
        ring
      _ ≤ num := hNumLow
  · rw [div_lt_iff₀ hPos]
    calc
      (num : ℚ) < 2 ^ (num.log2 + 1) := hNumHigh
      _ = 2 ^ ((num.log2 : Int) - den.log2 + 1) *
            2 ^ den.log2 := by
        rw [← zpow_natCast, ← zpow_natCast,
          ← zpow_add₀ two_ne_zero]
        congr 1
        push_cast
        ring
      _ ≤ 2 ^ ((num.log2 : Int) - den.log2 + 1) * den :=
        mul_le_mul_of_nonneg_left hDenLow (by positivity)

/- The test for 53 bits is one of the scaled quotient. -/
theorem scaledTo_div_lt_iff
    {num den : Nat}
    (hDen : 0 < den)
    (scale : Int) :
    (scaledTo num den scale).1 / (scaledTo num den scale).2 <
        Nat.pow 2 53 ↔
      (num : ℚ) / den * 2 ^ (-scale) < 2 ^ 53 := by
  have hPos := scaledTo_pos num hDen scale
  have hPosRat : (0 : ℚ) < (scaledTo num den scale).2 := by
    exact_mod_cast hPos
  rw [← scaledTo_quotient, div_lt_iff₀ hPosRat, Nat.pow_eq,
    Nat.div_lt_iff_lt_mul hPos]
  exact_mod_cast Iff.rfl

/- At the exact scale a quotient has 53 bits. -/
theorem exactScale_spec
    {num den : Nat}
    (hNum : num ≠ 0)
    (hDen : 0 < den) :
    2 ^ 52 ≤ (num : ℚ) / den * 2 ^ (-exactScale num den) ∧
      (num : ℚ) / den * 2 ^ (-exactScale num den) < 2 ^ 53 := by
  rcases quotient_log2 hNum hDen with ⟨hLow, hHigh⟩
  unfold exactScale
  dsimp only
  generalize hEstimate :
    (num.log2 : Int) - (den.log2 : Int) - 53 = estimate
  simp only [scaledTo_div_lt_iff hDen]
  have hLowPlace :
      (num.log2 : Int) - den.log2 - 1 = 52 + estimate := by
    omega
  have hHighPlace :
      (num.log2 : Int) - den.log2 + 1 = 54 + estimate := by
    omega
  rw [hLowPlace, zpow_add₀ two_ne_zero] at hLow
  rw [hHighPlace, zpow_add₀ two_ne_zero] at hHigh
  have hPlace : (0 : ℚ) < 2 ^ estimate := by positivity
  have hNext :
      (2 : ℚ) ^ (-(estimate + 1)) = 2 ^ (-estimate) / 2 := by
    rw [neg_add, zpow_add₀ two_ne_zero, zpow_neg_one]
    ring
  have hLower : 2 ^ 52 < (num : ℚ) / den * 2 ^ (-estimate) := by
    rw [zpow_neg, ← div_eq_mul_inv, lt_div_iff₀ hPlace]
    exact_mod_cast hLow
  have hUpper : (num : ℚ) / den * 2 ^ (-estimate) < 2 ^ 54 := by
    rw [zpow_neg, ← div_eq_mul_inv, div_lt_iff₀ hPlace]
    exact_mod_cast hHigh
  split
  · rename_i hBits
    exact ⟨hLower.le, hBits⟩
  · rename_i hBits
    rw [hNext]
    constructor
    · linarith
    · linarith

------------------------------------------------------------
-- Rounding to a Number
------------------------------------------------------------

/-
  The code of the magnitude with a significand and a scale.
  A significand of `2 ^ 53` carries over to the next scale by
  itself.
-/
def scaledCode
    (sig : Nat)
    (scale : Int) : Nat :=
  (scale + 1074).toNat * 2 ^ 52 + sig

/- An interval in quarters of the last place. -/
theorem holds_of_quarters
    {k : Nat}
    {v : ℚ}
    (hLower : (lowerQuarters k : ℚ) ≤ 4 * v)
    (hUpper : 4 * v ≤ 4 * codeSignificand k + 2)
    (hInside : k % 2 = 1 →
      (lowerQuarters k : ℚ) < 4 * v ∧
        4 * v < 4 * codeSignificand k + 2) :
    Holds k (v * 2 ^ codeScale k) := by
  have hPlace : v * 2 ^ codeScale k = 4 * v * quarter k := by
    unfold quarter
    rw [zpow_sub₀ two_ne_zero]
    norm_num
    ring
  have hUpperEnd :
      upperEnd k = (4 * codeSignificand k + 2) * quarter k := by
    unfold upperEnd
    push_cast
    rfl
  have hPos := quarter_pos k
  rw [hPlace]
  refine ⟨?_, ?_, ?_⟩
  · exact mul_le_mul_of_nonneg_right hLower hPos.le
  · rw [hUpperEnd]
    exact mul_le_mul_of_nonneg_right hUpper hPos.le
  · intro hOdd
    rcases hInside hOdd with ⟨hAbove, hBelow⟩
    rw [hUpperEnd]
    exact
      ⟨mul_lt_mul_of_pos_right hAbove hPos,
        mul_lt_mul_of_pos_right hBelow hPos⟩

/-
  What is asked of a significand and a scale for a scaled
  quotient: at most 53 bits, and no fewer unless the scale is
  the smallest.
-/
structure Fits
    (v : ℚ)
    (scale : Int) : Prop where
  smallest : -1074 ≤ scale
  nonneg : 0 ≤ v
  top : v < 2 ^ 53
  bottom : -1074 < scale → 2 ^ 52 ≤ v

namespace Fits

variable {v : ℚ}
variable {sig : Nat}
variable {scale : Int}

theorem sig_le
    (hFits : Fits v scale)
    (hNear : Nearest v sig) :
    sig ≤ 2 ^ 53 := by
  have hLess : (2 * sig : ℚ) < 2 * 2 ^ 53 + 1 := by
    linarith [hNear.lower, hFits.top]
  have hLess : 2 * sig < 2 * 2 ^ 53 + 1 := by
    exact_mod_cast hLess
  omega

theorem le_sig
    (hFits : Fits v scale)
    (hNear : Nearest v sig)
    (hScale : -1074 < scale) :
    2 ^ 52 ≤ sig := by
  have hLess : (2 * 2 ^ 52 : ℚ) ≤ 2 * sig + 1 := by
    linarith [hNear.upper, hFits.bottom hScale]
  have hLess : 2 * 2 ^ 52 ≤ 2 * sig + 1 := by
    exact_mod_cast hLess
  omega

end Fits

/- A significand below `2 ^ 53` is that of its code. -/
theorem codeSignificand_scaledCode
    {sig : Nat}
    {scale : Int}
    (hBottom : -1074 < scale → 2 ^ 52 ≤ sig)
    (hTop : sig < 2 ^ 53) :
    codeSignificand (scaledCode sig scale) = sig := by
  unfold codeSignificand scaledCode
  split <;> omega

/- With a significand below `2 ^ 53`, the scale is kept. -/
theorem codeScale_scaledCode
    {sig : Nat}
    {scale : Int}
    (hSmallest : -1074 ≤ scale)
    (hBottom : -1074 < scale → 2 ^ 52 ≤ sig)
    (hTop : sig < 2 ^ 53) :
    codeScale (scaledCode sig scale) = scale := by
  unfold codeScale scaledCode
  omega

/-
  The lower end of the interval that a quotient is rounded
  to. At a power of two the quotient does not lie below the
  power, so that the narrower interval holds it as well.
-/
theorem lowerQuarters_scaledCode_le
    {v : ℚ}
    {sig : Nat}
    {scale : Int}
    (hFits : Fits v scale)
    (hNear : Nearest v sig)
    (hTop : sig < 2 ^ 53) :
    (lowerQuarters (scaledCode sig scale) : ℚ) ≤ 4 * v ∧
      (sig % 2 = 1 →
        (lowerQuarters (scaledCode sig scale) : ℚ) < 4 * v) := by
  have hSmallest := hFits.smallest
  have hBottom := hFits.le_sig hNear
  unfold lowerQuarters
  rw [codeSignificand_scaledCode hBottom hTop]
  split
  · rename_i hPower
    have hSig : sig = 2 ^ 52 ∧ -1074 < scale := by
      unfold scaledCode at hPower
      omega
    have hValue := hFits.bottom hSig.2
    have hCast : ((4 * sig - 1 : Nat) : ℚ) < 4 * v := by
      rw [hSig.1]
      norm_num at hValue ⊢
      linarith
    exact ⟨hCast.le, fun _ => hCast⟩
  · rcases Nat.eq_zero_or_pos sig with hZero | hPos
    · subst hZero
      have hNonneg := hFits.nonneg
      refine ⟨?_, fun hOdd => absurd hOdd (by decide)⟩
      norm_num
      exact hNonneg
    · have hCast : ((4 * sig - 2 : Nat) : ℚ) = 4 * sig - 2 := by
        rw [Nat.cast_sub (by omega)]
        push_cast
        rfl
      rw [hCast]
      refine ⟨by linarith [hNear.lower], ?_⟩
      intro hOdd
      linarith [(hNear.inside hOdd).1]

/-
  A quotient lies in the interval of the magnitude that it is
  rounded to. If the significand is carried over to the next
  scale, the quotient lies right below a power of two, where
  the interval is narrower but the places are wider.
-/
theorem holds_scaledCode
    {v : ℚ}
    {sig : Nat}
    {scale : Int}
    (hFits : Fits v scale)
    (hNear : Nearest v sig) :
    Holds (scaledCode sig scale) (v * 2 ^ scale) := by
  have hSmallest := hFits.smallest
  rcases Nat.lt_or_eq_of_le (hFits.sig_le hNear) with
    hTop | hCarry
  · have hBottom := hFits.le_sig hNear
    have hSig := codeSignificand_scaledCode hBottom hTop
    have hParity : scaledCode sig scale % 2 = sig % 2 := by
      unfold scaledCode
      omega
    rcases lowerQuarters_scaledCode_le hFits hNear hTop with
      ⟨hLower, hStrict⟩
    have hHolds : Holds (scaledCode sig scale)
        (v * 2 ^ codeScale (scaledCode sig scale)) := by
      apply holds_of_quarters hLower
      · rw [hSig]
        linarith [hNear.upper]
      · intro hOdd
        rw [hParity] at hOdd
        refine ⟨hStrict hOdd, ?_⟩
        rw [hSig]
        linarith [(hNear.inside hOdd).2]
    rw [codeScale_scaledCode hSmallest hBottom hTop] at hHolds
    exact hHolds
  · have hScale :
        codeScale (scaledCode sig scale) = scale + 1 := by
      unfold codeScale scaledCode
      omega
    have hSig : codeSignificand (scaledCode sig scale) = 2 ^ 52 := by
      unfold codeSignificand scaledCode
      split <;> omega
    have hQuarters :
        lowerQuarters (scaledCode sig scale) =
          4 * 2 ^ 52 - 1 := by
      unfold lowerQuarters
      rw [hSig, if_pos]
      unfold scaledCode
      omega
    have hLower := hNear.lower
    have hTop := hFits.top
    have hHolds : Holds (scaledCode sig scale)
        (v / 2 * 2 ^ codeScale (scaledCode sig scale)) := by
      apply holds_of_quarters
      · rw [hQuarters]
        rw [hCarry] at hLower
        norm_num at hLower ⊢
        linarith
      · rw [hSig]
        norm_num at hTop ⊢
        linarith
      · intro hOdd
        unfold scaledCode at hOdd
        omega
    rw [hScale, zpow_add₀ two_ne_zero, zpow_one] at hHolds
    have hValue : v / 2 * (2 ^ scale * 2) = v * 2 ^ scale := by
      ring
    rw [hValue] at hHolds
    exact hHolds

/-
  The number with a significand and a scale has their code,
  if its exponent is not too large.
-/
theorem ofScaled?_eq_some
    (negative : Bool)
    {sig : Nat}
    {scale : Int}
    (hSmallest : -1074 ≤ scale)
    (hBottom : -1074 < scale → 2 ^ 52 ≤ sig)
    (hTop : sig ≤ 2 ^ 53)
    (hFinite : scaledCode sig scale / 2 ^ 52 < 2047) :
    ∃ x, ofScaled? negative sig scale = some x ∧
      x.negative = negative ∧
      x.code = scaledCode sig scale := by
  unfold scaledCode at hFinite ⊢
  unfold ofScaled?
  simp only [Nat.pow_eq]
  by_cases hCarry : sig = 2 ^ 53
  · simp only [if_pos hCarry, if_neg (Nat.lt_irrefl _)]
    rw [dif_pos (by omega)]
    refine ⟨_, rfl, rfl, ?_⟩
    unfold code
    dsimp only [Fin.ofNat]
    omega
  · simp only [if_neg hCarry]
    have hExponent :
        (if sig < 2 ^ 52 then 0 else (scale + 1075).toNat) <
          2047 := by
      split <;> omega
    rw [dif_pos hExponent]
    refine ⟨_, rfl, rfl, ?_⟩
    unfold code
    dsimp only [Fin.ofNat]
    split <;> omega

/-
  A number that has a significand and a scale has their
  code.
-/
theorem code_of_ofScaled?
    {negative : Bool}
    {sig : Nat}
    {scale : Int}
    {x : Number}
    (hSmallest : -1074 ≤ scale)
    (hBottom : -1074 < scale → 2 ^ 52 ≤ sig)
    (hTop : sig ≤ 2 ^ 53)
    (hFound : ofScaled? negative sig scale = some x) :
    x.code = scaledCode sig scale := by
  have hFinite : scaledCode sig scale / 2 ^ 52 < 2047 := by
    unfold ofScaled? at hFound
    unfold scaledCode
    simp only [Nat.pow_eq] at hFound
    by_cases hCarry : sig = 2 ^ 53
    · simp only [if_pos hCarry, if_neg (Nat.lt_irrefl _)]
        at hFound
      split at hFound
      · omega
      · cases hFound
    · simp only [if_neg hCarry] at hFound
      by_cases hSmall : sig < 2 ^ 52
      · omega
      · simp only [if_neg hSmall] at hFound
        split at hFound
        · omega
        · cases hFound
  rcases ofScaled?_eq_some negative hSmallest hBottom hTop
      hFinite with
    ⟨y, hY, _, hCode⟩
  rw [hY] at hFound
  cases hFound
  exact hCode

/- The chosen scale fits a quotient. -/
theorem fits_exactScale
    {num den : Nat}
    (hNum : num ≠ 0)
    (hDen : 0 < den) :
    let scale := max (-1074) (exactScale num den)
    Fits ((num : ℚ) / den * 2 ^ (-scale)) scale := by
  intro scale
  rcases exactScale_spec hNum hDen with ⟨hLower, hUpper⟩
  refine ⟨le_max_left _ _, by positivity, ?_, ?_⟩
  · refine lt_of_le_of_lt ?_ hUpper
    apply mul_le_mul_of_nonneg_left _ (by positivity)
    apply zpow_le_zpow_right₀ one_le_two
    exact neg_le_neg (le_max_right _ _)
  · intro hScale
    have hExact : scale = exactScale num den := by omega
    rw [hExact]
    exact hLower

/- Both zeros have the code zero. -/
theorem code_zero (negative : Bool) : (zero negative).code = 0 :=
  code_eq_zero (by simp [significand, zero])

/-
  A quotient other than zero is rounded to a significand and
  a scale, and lies in the interval of their magnitude.
-/
theorem exists_ofScaled?_eq
    (negative : Bool)
    {num den : Nat}
    (hNum : num ≠ 0)
    (hDen : 0 < den) :
    ∃ sig scale,
      ofQuotient? negative num den =
          ofScaled? negative sig scale ∧
        Holds (scaledCode sig scale) ((num : ℚ) / den) ∧
        -1074 ≤ scale ∧
        (-1074 < scale → 2 ^ 52 ≤ sig) ∧
        sig ≤ 2 ^ 53 := by
  have hFits := fits_exactScale hNum hDen
  rw [ofQuotient?_eq hNum]
  dsimp only at hFits ⊢
  generalize max (-1074) (exactScale num den) = scale at *
  have hNear := roundDiv_nearest (scaledTo num den scale).1
    (scaledTo_pos num hDen scale)
  rw [scaledTo_quotient] at hNear
  have hValue :
      (num : ℚ) / den * 2 ^ (-scale) * 2 ^ scale =
        num / den := by
    rw [mul_assoc, ← zpow_add₀ two_ne_zero, neg_add_cancel,
      zpow_zero, mul_one]
  have hHolds := holds_scaledCode hFits hNear
  rw [hValue] at hHolds
  exact ⟨_, scale, rfl, hHolds, hFits.smallest,
    hFits.le_sig hNear, hFits.sig_le hNear⟩

/- A quotient lies in the interval of its number. -/
theorem holds_of_ofQuotient?
    {negative : Bool}
    {num den : Nat}
    {x : Number}
    (hDen : 0 < den)
    (hFound : ofQuotient? negative num den = some x) :
    Holds x.code ((num : ℚ) / den) := by
  by_cases hNum : num = 0
  · unfold ofQuotient? at hFound
    rw [if_pos hNum] at hFound
    cases hFound
    rw [code_zero, hNum, Nat.cast_zero, zero_div]
    exact holds_zero
  · rcases exists_ofScaled?_eq negative hNum hDen with
      ⟨sig, scale, hScaled, hHolds, hSmallest, hBottom, hTop⟩
    rw [hScaled] at hFound
    rw [code_of_ofScaled? hSmallest hBottom hTop hFound]
    exact hHolds

/- A quotient is rounded to the number that holds it. -/
theorem ofQuotient?_of_holds
    {negative : Bool}
    {num den : Nat}
    {x : Number}
    (hDen : 0 < den)
    (hFinite : x.IsFinite)
    (hSign : x.negative = negative)
    (hHolds : Holds x.code ((num : ℚ) / den)) :
    ofQuotient? negative num den = some x := by
  by_cases hNum : num = 0
  · rw [hNum, Nat.cast_zero, zero_div] at hHolds
    have hZero : x.code = (zero negative).code := by
      rw [code_zero]
      exact hHolds.eq_of_holds holds_zero
    unfold ofQuotient?
    rw [if_pos hNum]
    exact congrArg some (eq_of_code_eq hSign hZero).symm
  · rcases exists_ofScaled?_eq negative hNum hDen with
      ⟨sig, scale, hScaled, hRounded, hSmallest, hBottom,
        hTop⟩
    have hCode : x.code = scaledCode sig scale :=
      hHolds.eq_of_holds hRounded
    have hExponent : scaledCode sig scale / 2 ^ 52 < 2047 := by
      have hLess := x.exponent.isLt
      have hNot : x.exponent.val ≠ 2047 := by
        intro hTop
        exact hFinite (Fin.ext hTop)
      rw [← hCode, code_div]
      omega
    rcases ofScaled?_eq_some negative hSmallest hBottom hTop
        hExponent with
      ⟨y, hY, hSignY, hCodeY⟩
    rw [hScaled, hY]
    exact congrArg some
      (eq_of_code_eq (hSignY.trans hSign.symm)
        (hCodeY.trans hCode.symm))

------------------------------------------------------------
-- Reading Digits
------------------------------------------------------------

/- The value of a decimal digit. -/
theorem digitValue?_of_isDigit
    {c : Char}
    (hDigit : c.isDigit = true) :
    digitValue? 10 c = some (c.toNat - '0'.toNat) := by
  have hRange := Char.isDigit_iff_toNat.mp hDigit
  unfold digitValue?
  dsimp only
  rw [if_pos hDigit, Option.filter_some, if_pos]
  rw [decide_eq_true_eq]
  have hZero : '0'.toNat = 48 := rfl
  have hNine : '9'.toNat = 57 := rfl
  omega

/- No digit is another character. -/
theorem ne_of_isDigit
    {c other : Char}
    (hDigit : c.isDigit = true)
    (hOther : other.isDigit = false) :
    c ≠ other := by
  rintro rfl
  rw [hDigit] at hOther
  cases hOther

/- Digits are read into a mantissa one by one. -/
theorem readMantissa_digits
    (acc : Mantissa)
    (digits rest : List Char)
    (hDigits : ∀ c ∈ digits, c.isDigit = true) :
    readMantissa 10 acc (digits ++ rest) =
      readMantissa 10
        { value := Nat.ofDigitChars 10 digits acc.value
          places :=
            if acc.sawPoint then
              acc.places + digits.length
            else
              acc.places
          sawPoint := acc.sawPoint
          sawDigit := acc.sawDigit || !digits.isEmpty }
        rest := by
  induction digits generalizing acc with
  | nil =>
      rcases acc with ⟨value, places, sawPoint, sawDigit⟩
      simp [Nat.ofDigitChars_nil]
  | cons c digits ih =>
      have hDigit := hDigits c List.mem_cons_self
      have hRest : ∀ c ∈ digits, c.isDigit = true :=
        fun c hMember =>
          hDigits c (List.mem_cons_of_mem _ hMember)
      have hPoint : ¬ (c = '.' ∧ acc.sawPoint = false) :=
        fun h => ne_of_isDigit hDigit rfl h.1
      rw [List.cons_append, readMantissa,
        if_neg (ne_of_isDigit hDigit rfl), if_neg hPoint,
        digitValue?_of_isDigit hDigit]
      dsimp only
      rw [ih _ hRest, Nat.ofDigitChars_cons, Nat.mul_comm]
      cases acc.sawPoint with
      | true =>
          simp [Nat.add_assoc, Nat.add_comm 1]
      | false => simp

/- Digits around a point are read as one quotient. -/
theorem readDecimal?_pointed
    {whole after : List Char}
    (negative : Bool)
    (hSome : whole ≠ [])
    (hWhole : ∀ c ∈ whole, c.isDigit = true)
    (hAfter : ∀ c ∈ after, c.isDigit = true) :
    readDecimal? negative (pointed whole after) =
      ofQuotient? negative
        (Nat.ofDigitChars 10 (whole ++ after) 0)
        (10 ^ after.length) := by
  have hMantissa :
      readMantissa 10 .empty (pointed whole after) =
        (⟨Nat.ofDigitChars 10 (whole ++ after) 0,
          after.length, !after.isEmpty, true⟩, []) := by
    have hSeen : whole.isEmpty = false := by simpa using hSome
    unfold pointed Mantissa.empty
    by_cases hNone : after = []
    · rw [if_pos hNone, hNone, List.append_nil,
        ← List.append_nil whole,
        readMantissa_digits _ whole [] hWhole, readMantissa]
      simp [hSeen]
    · rw [if_neg hNone, readMantissa_digits _ whole _ hWhole,
        readMantissa, if_neg (by decide), if_pos ⟨rfl, rfl⟩,
        ← List.append_nil after,
        readMantissa_digits _ after [] hAfter, readMantissa]
      simp [hSeen, hNone, Nat.ofDigitChars_append]
  unfold readDecimal?
  rw [hMantissa]
  simp [Nat.pow_eq]

------------------------------------------------------------
-- Reading Printed Numbers
------------------------------------------------------------

/- A digit has no other case. -/
theorem toLower_of_isDigit
    {c : Char}
    (hDigit : c.isDigit = true) :
    c.toLower = c := by
  have hRange := Char.isDigit_iff_toNat.mp hDigit
  unfold Char.toLower
  rw [dif_neg]
  rintro ⟨hUpper, _⟩
  have hUpper : 'A'.toNat ≤ c.toNat :=
    UInt32.le_iff_toNat_le.mp hUpper
  have hLetter : 'A'.toNat = 65 := rfl
  have hNine : '9'.toNat = 57 := rfl
  omega

/- A text that starts with a digit is no word. -/
theorem readWord?_of_isDigit
    {c : Char}
    (sign : Option Bool)
    (rest : List Char)
    (hDigit : c.isDigit = true) :
    readWord? sign (c :: rest) = none := by
  have hWord : ∀ (first : Char) (word : List Char),
      first.isDigit = false →
      String.ofList ((c :: rest).map Char.toLower) ≠
        String.ofList (first :: word) := by
    intro first word hFirst hSame
    have hList := String.ofList_injective hSame
    rw [List.map_cons, toLower_of_isDigit hDigit] at hList
    exact ne_of_isDigit hDigit hFirst (List.cons.inj hList).1
  have hInf := hWord 'i' ['n', 'f'] rfl
  have hInfinity :=
    hWord 'i' ['n', 'f', 'i', 'n', 'i', 't', 'y'] rfl
  have hNaN := hWord 'n' ['a', 'n'] rfl
  unfold readWord?
  dsimp only
  rw [if_neg, if_neg]
  · exact fun h => hNaN h.1
  · exact fun h => h.elim hInf hInfinity

/- Digits around a point hold nothing else. -/
theorem isDigit_or_point
    {whole after : List Char}
    {c : Char}
    (hWhole : ∀ c ∈ whole, c.isDigit = true)
    (hAfter : ∀ c ∈ after, c.isDigit = true)
    (hMember : c ∈ pointed whole after) :
    c.isDigit = true ∨ c = '.' := by
  unfold pointed at hMember
  split at hMember
  · exact Or.inl (hWhole c hMember)
  · rcases List.mem_append.mp hMember with hMember | hMember
    · exact Or.inl (hWhole c hMember)
    · rcases List.mem_cons.mp hMember with hPoint | hMember
      · exact Or.inr hPoint
      · exact Or.inl (hAfter c hMember)

/-
  Digits around a point are read as such: they hold no
  underscore and no mark of another base.
-/
theorem ofText?_pointed
    {s : String}
    {sign : Option Bool}
    {whole after : List Char}
    (hText :
      readSign s.toList = (sign, pointed whole after))
    (hSome : whole ≠ [])
    (hWhole : ∀ c ∈ whole, c.isDigit = true)
    (hAfter : ∀ c ∈ after, c.isDigit = true) :
    ofText? s =
      readDecimal? (sign = some true) (pointed whole after) := by
  have hWord : readWord? sign (pointed whole after) = none := by
    cases whole with
    | nil => exact absurd rfl hSome
    | cons c rest =>
        have hDigit := hWhole c List.mem_cons_self
        unfold pointed
        split
        · exact readWord?_of_isDigit sign rest hDigit
        · exact readWord?_of_isDigit sign _ hDigit
  have hOther : ∀ c ∈ pointed whole after,
      c ≠ '_' ∧ c.toLower ≠ 'x' := by
    intro c hMember
    rcases isDigit_or_point hWhole hAfter hMember with
      hDigit | hPoint
    · rw [toLower_of_isDigit hDigit]
      exact ⟨ne_of_isDigit hDigit rfl, ne_of_isDigit hDigit rfl⟩
    · rw [hPoint]
      decide
  have hUnderscore : '_' ∉ pointed whole after :=
    fun hMember => (hOther '_' hMember).1 rfl
  unfold ofText?
  rw [hText]
  dsimp only
  rw [hWord]
  dsimp only
  rw [if_neg (fun h => hUnderscore h.1)]
  split
  · rename_i mark c rest hMarked
    rw [if_neg]
    apply (hOther mark _).2
    rw [hMarked]
    simp
  · rfl

/- A text that starts with a digit has no sign. -/
theorem readSign_of_isDigit
    {c : Char}
    (rest : List Char)
    (hDigit : c.isDigit = true) :
    readSign (c :: rest) = (none, c :: rest) := by
  unfold readSign
  split
  · rename_i hSame
    exact absurd (List.cons.inj hSame).1
      (ne_of_isDigit hDigit rfl)
  · rename_i hSame
    exact absurd (List.cons.inj hSame).1
      (ne_of_isDigit hDigit rfl)
  · rfl

/- A finite number is read back from its printed form. -/
theorem ofText?_print_of_isFinite
    {x : Number}
    (hFinite : x.IsFinite) :
    ofText? x.print = some x := by
  rcases printMagnitude_denotes x with
    ⟨d, whole, after, hHolds, hDenotes⟩
  have hSign : readSign x.print.toList =
      (if x.negative then some true else none,
        pointed whole after) := by
    rw [toList_print hFinite]
    cases x.negative with
    | true =>
        rw [if_pos rfl, if_pos rfl, hDenotes.text]
        rfl
    | false =>
        rcases printMagnitude_eq_cons x with
          ⟨c, rest, hStart, hDigit⟩
        rw [if_neg Bool.false_ne_true, if_neg Bool.false_ne_true,
          ← hDenotes.text, hStart]
        exact readSign_of_isDigit rest hDigit
  have hNegative :
      x.negative =
        decide ((if x.negative then some true else none) =
          some true) := by
    cases x.negative with
    | true => rfl
    | false => rfl
  rw [ofText?_pointed hSign hDenotes.some_whole
      hDenotes.digits_whole hDenotes.digits_after,
    readDecimal?_pointed _ hDenotes.some_whole
      hDenotes.digits_whole hDenotes.digits_after]
  apply ofQuotient?_of_holds (by positivity) hFinite hNegative
  push_cast
  rw [← pointedValue_eq, hDenotes.value]
  exact hHolds

/-
  A number is read back from its printed form. Of the values
  that are no numbers, only one is ever read.
-/
theorem ofText?_print
    {x : Number}
    (hNaN : x.IsNaN → x = nan) :
    ofText? x.print = some x := by
  by_cases hFinite : x.IsFinite
  · exact ofText?_print_of_isFinite hFinite
  by_cases hNone : x.IsNaN
  · rw [hNaN hNone]
    rfl
  · have hInfinite : x = infinity x.negative := by
      rcases x with ⟨negative, exponent, fraction⟩
      have hExponent : exponent = 2047 := not_not.mp hFinite
      have hFraction : fraction = 0 := by
        by_contra hSome
        exact hNone ⟨hExponent, hSome⟩
      rw [hExponent, hFraction]
      rfl
    rw [hInfinite]
    cases x.negative with
    | true => rfl
    | false => rfl

end Number

------------------------------------------------------------
-- Reading Printed Integers
------------------------------------------------------------

namespace Integer

/- Digits of a small enough number are read to their end. -/
theorem readDigits_of_le
    (n : Nat)
    (digits : List Char)
    (hDigits : ∀ c ∈ digits, c.isDigit = true)
    (hSmall : Nat.ofDigitChars 10 digits n ≤ maxUnsigned) :
    readDigits 10 n digits =
      .value (Nat.ofDigitChars 10 digits n) := by
  induction digits generalizing n with
  | nil =>
      rw [readDigits, Nat.ofDigitChars_nil]
  | cons c digits ih =>
      have hDigit := hDigits c List.mem_cons_self
      have hRest : ∀ c ∈ digits, c.isDigit = true :=
        fun c hMember =>
          hDigits c (List.mem_cons_of_mem _ hMember)
      rw [Nat.ofDigitChars_cons, Nat.mul_comm] at hSmall ⊢
      -- Further digits only make the number larger.
      have hPart :
          n * 10 + (c.toNat - '0'.toNat) ≤ maxUnsigned := by
        refine Nat.le_trans ?_ hSmall
        rw [Nat.ofDigitChars_eq_ofDigitChars_zero]
        refine Nat.le_trans ?_ (Nat.le_add_right _ _)
        exact Nat.le_mul_of_pos_left _ (by positivity)
      rw [readDigits, Number.digitValue?_of_isDigit hDigit]
      dsimp only
      rw [if_neg (Nat.not_lt.mpr hPart)]
      exact ih _ hRest hSmall

/- The digits of a natural are read back. -/
theorem readSome_toDigits
    {n : Nat}
    (hSmall : n ≤ maxUnsigned) :
    readSome 10 (Nat.toDigits 10 n) = .value n := by
  have hValue : Nat.ofDigitChars 10 (Nat.toDigits 10 n) 0 = n :=
    Nat.ofDigitChars_toDigits (by decide) (Nat.le_refl 10)
  have hDigits : ∀ c ∈ Nat.toDigits 10 n, c.isDigit = true :=
    fun c hMember =>
      Nat.isDigit_of_mem_toDigits (by decide) (Nat.le_refl 10)
        hMember
  unfold readSome
  split
  · rename_i hNone
    exact absurd hNone Nat.toDigits_ne_nil
  · have hRead := readDigits_of_le 0 (Nat.toDigits 10 n) hDigits
      (by rw [hValue]; exact hSmall)
    rw [hRead, hValue]

/- A natural has no sign in front of its digits. -/
theorem readSign_toDigits
    (n : Nat) :
    Number.readSign (Nat.toDigits 10 n) =
      (none, Nat.toDigits 10 n) := by
  cases hDigits : Nat.toDigits 10 n with
  | nil => exact absurd hDigits Nat.toDigits_ne_nil
  | cons c rest =>
      apply Number.readSign_of_isDigit
      apply Nat.isDigit_of_mem_toDigits (by decide)
        (Nat.le_refl 10)
      rw [hDigits]
      exact List.mem_cons_self

/- An integer is read by its sign and its digits. -/
theorem ofText_of_sign
    {s : String}
    {sign : Option Bool}
    {n : Nat}
    (hText :
      Number.readSign s.toList = (sign, Nat.toDigits 10 n))
    (hSmall : n ≤ maxUnsigned) :
    ofText s = clamp (withSign sign n) := by
  unfold ofText
  rw [hText]
  dsimp only
  rw [readSome_toDigits hSmall]

/- An integer of 64 bits is read back from its digits. -/
theorem ofText_repr
    {n : Int}
    (hLower : minSigned ≤ n)
    (hUpper : n ≤ maxSigned) :
    ofText n.repr = n := by
  have hClamp : clamp n = n := by
    unfold clamp
    omega
  unfold minSigned at hLower
  unfold maxSigned at hUpper
  cases n with
  | ofNat m =>
      have hSmall : m ≤ maxUnsigned := by
        have hUpper : (m : Int) ≤ 9223372036854775807 := hUpper
        unfold maxUnsigned
        omega
      have hText : Number.readSign m.repr.toList =
          (none, Nat.toDigits 10 m) := by
        rw [Nat.toList_repr]
        exact readSign_toDigits m
      exact (ofText_of_sign hText hSmall).trans hClamp
  | negSucc m =>
      have hSmall : m + 1 ≤ maxUnsigned := by
        unfold maxUnsigned
        omega
      have hText :
          Number.readSign ("-" ++ (m + 1).repr).toList =
            (some true, Nat.toDigits 10 (m + 1)) := by
        rw [String.toList_append, Nat.toList_repr]
        rfl
      exact (ofText_of_sign hText hSmall).trans hClamp

end Integer

end TemplateJsx
