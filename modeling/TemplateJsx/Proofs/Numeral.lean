import Mathlib.Algebra.Order.Field.Power
import Mathlib.Data.Rat.Cast.Order
import Mathlib.Order.Monotone.Basic
import Mathlib.Tactic.Linarith
import Mathlib.Tactic.NormNum
import Mathlib.Tactic.Positivity
import Mathlib.Tactic.Ring
import TemplateJsx.Number.Printer

/-
  Printed numbers tell numbers apart. The decimal that is
  printed for a number lies in the interval of the decimals
  that read back to it. The intervals of different numbers
  meet at most in an end, and of two neighbours only the one
  with the even significand owns the end they share.

  Key definitions include:
    * `Number.code`
    * `Number.lowerEnd`
    * `Number.upperEnd`
    * `Number.Holds`
    * `Number.pointed`
    * `Number.Denotes`
    * `Number.HasNumeral`

  Main declarations:
    * `Number.upperEnd_eq_lowerEnd_succ`
    * `Number.Holds.eq_of_holds`
    * `Number.shortest_holds`
    * `Number.positional_denotes`
    * `Number.HasNumeral.unique`
    * `Number.print_injective`
-/

------------------------------------------------------------
-- The Order of Magnitudes
------------------------------------------------------------

namespace TemplateJsx

namespace Number

/-
  The fields of a magnitude as one natural. It counts the
  magnitudes from zero on in increasing order.
-/
def code (x : Number) : Nat :=
  x.exponent.val * 2 ^ 52 + x.fraction.val

/- The significand of the magnitude with a code. -/
def codeSignificand (k : Nat) : Nat :=
  if k / 2 ^ 52 = 0 then k % 2 ^ 52 else 2 ^ 52 + k % 2 ^ 52

/- The power of two of the magnitude with a code. -/
def codeScale (k : Nat) : Int :=
  max 1 ((k / 2 ^ 52 : Nat) : Int) - 1075

/- A quarter of the last place of a magnitude. -/
def quarter (k : Nat) : ℚ :=
  2 ^ (codeScale k - 2)

/- The lower end of a magnitude's interval in quarters. -/
def lowerQuarters (k : Nat) : Nat :=
  if k % 2 ^ 52 = 0 ∧ 1 < k / 2 ^ 52 then
    4 * codeSignificand k - 1
  else
    4 * codeSignificand k - 2

/- Where the decimals that read back to a magnitude start. -/
def lowerEnd (k : Nat) : ℚ :=
  lowerQuarters k * quarter k

/- Where the decimals that read back to a magnitude end. -/
def upperEnd (k : Nat) : ℚ :=
  (4 * codeSignificand k + 2 : Nat) * quarter k

theorem quarter_pos (k : Nat) : 0 < quarter k := by
  unfold quarter
  positivity

/- The exponent is the upper part of a code. -/
theorem code_div
    (x : Number) :
    x.code / 2 ^ 52 = x.exponent.val := by
  have hFraction := x.fraction.isLt
  unfold code
  omega

/- The fraction is the lower part of a code. -/
theorem code_mod
    (x : Number) :
    x.code % 2 ^ 52 = x.fraction.val := by
  have hFraction := x.fraction.isLt
  unfold code
  omega

theorem codeSignificand_code
    (x : Number) :
    codeSignificand x.code = x.significand := by
  have hZero : (x.exponent.val = 0) = (x.exponent = 0) :=
    propext Fin.val_eq_zero_iff
  unfold codeSignificand significand
  simp only [code_div, code_mod, hZero, Nat.pow_eq]

theorem codeScale_code
    (x : Number) :
    codeScale x.code = x.scale := by
  unfold codeScale scale
  rw [code_div]

theorem lowerQuarters_code
    (x : Number) :
    lowerQuarters x.code = x.lowerQuarter := by
  unfold lowerQuarters lowerQuarter
  rw [code_div, code_mod, codeSignificand_code]

/- Magnitudes with the same code have the same fields. -/
theorem eq_of_code_eq
    {x y : Number}
    (hSign : x.negative = y.negative)
    (hCode : x.code = y.code) :
    x = y := by
  have hExponent : x.exponent = y.exponent := by
    apply Fin.ext
    rw [← code_div, ← code_div, hCode]
  have hFraction : x.fraction = y.fraction := by
    apply Fin.ext
    rw [← code_mod, ← code_mod, hCode]
  cases x
  cases y
  simp_all

/- The significand has the parity of the code. -/
theorem codeSignificand_mod_two
    (k : Nat) :
    codeSignificand k % 2 = k % 2 := by
  unfold codeSignificand
  split <;> omega

------------------------------------------------------------
-- Neighbouring Intervals
------------------------------------------------------------

/-
  The interval of a magnitude ends where the next begins.
  Where the exponent grows, the places of the next magnitude
  are twice as wide, which its lower end makes up for.
-/
theorem upperEnd_eq_lowerEnd_succ
    (k : Nat) :
    upperEnd k = lowerEnd (k + 1) := by
  unfold upperEnd lowerEnd
  by_cases hCarry : k % 2 ^ 52 = 2 ^ 52 - 1
  · have hDiv : (k + 1) / 2 ^ 52 = k / 2 ^ 52 + 1 := by omega
    have hMod : (k + 1) % 2 ^ 52 = 0 := by omega
    by_cases hSmall : k / 2 ^ 52 = 0
    · have hPlace : quarter (k + 1) = quarter k := by
        unfold quarter codeScale
        rw [hDiv, hSmall]
        norm_num
      have hQuarters :
          lowerQuarters (k + 1) =
            4 * codeSignificand k + 2 := by
        unfold lowerQuarters codeSignificand
        rw [hDiv, hMod, hSmall, hCarry]
        norm_num
      rw [hPlace, hQuarters]
    · have hPlace : quarter (k + 1) = 2 * quarter k := by
        unfold quarter codeScale
        rw [hDiv, ← zpow_one_add₀ two_ne_zero]
        congr 1
        omega
      have hQuarters :
          2 * lowerQuarters (k + 1) =
            4 * codeSignificand k + 2 := by
        unfold lowerQuarters codeSignificand
        rw [hDiv, hMod, hCarry, if_pos ⟨rfl, by omega⟩,
          if_neg (Nat.succ_ne_zero _), if_neg hSmall]
        omega
      rw [hPlace, ← hQuarters]
      push_cast
      ring
  · have hDiv : (k + 1) / 2 ^ 52 = k / 2 ^ 52 := by omega
    have hMod : (k + 1) % 2 ^ 52 = k % 2 ^ 52 + 1 := by omega
    have hPlace : quarter (k + 1) = quarter k := by
      unfold quarter codeScale
      rw [hDiv]
    have hQuarters :
        lowerQuarters (k + 1) = 4 * codeSignificand k + 2 := by
      unfold lowerQuarters codeSignificand
      rw [hDiv, hMod]
      split <;> split <;> omega
    rw [hPlace, hQuarters]

/- No interval is empty. -/
theorem lowerEnd_lt_upperEnd
    (k : Nat) :
    lowerEnd k < upperEnd k := by
  unfold lowerEnd upperEnd
  apply mul_lt_mul_of_pos_right _ (quarter_pos k)
  have hQuarters :
      lowerQuarters k < 4 * codeSignificand k + 2 := by
    unfold lowerQuarters
    split <;> omega
  exact_mod_cast hQuarters

/- The intervals are in the order of their codes. -/
theorem lowerEnd_strictMono : StrictMono lowerEnd := by
  apply strictMono_nat_of_lt_succ
  intro k
  rw [← upperEnd_eq_lowerEnd_succ]
  exact lowerEnd_lt_upperEnd k

/-
  A decimal reads back to the magnitude with a code. The
  ends of the interval do so if the significand is even.
-/
structure Holds
    (k : Nat)
    (d : ℚ) : Prop where
  lower : lowerEnd k ≤ d
  upper : d ≤ upperEnd k
  inside : k % 2 = 1 → lowerEnd k < d ∧ d < upperEnd k

/- A decimal reads back to no later magnitude. -/
theorem Holds.not_before
    {j k : Nat}
    {d : ℚ}
    (hFirst : Holds j d)
    (hSecond : Holds k d) :
    ¬ j < k := by
  intro hLess
  have hEnd : d ≤ lowerEnd (j + 1) := by
    rw [← upperEnd_eq_lowerEnd_succ]
    exact hFirst.upper
  have hStart : lowerEnd (j + 1) ≤ lowerEnd k :=
    lowerEnd_strictMono.monotone hLess
  have hMeet : lowerEnd (j + 1) = lowerEnd k :=
    le_antisymm hStart (le_trans hSecond.lower hEnd)
  have hNext : j + 1 = k :=
    lowerEnd_strictMono.injective hMeet
  subst hNext
  -- The shared end belongs to one of the two neighbours only.
  rcases Nat.mod_two_eq_zero_or_one j with hEven | hOdd
  · have hOdd : (j + 1) % 2 = 1 := by omega
    exact absurd (hSecond.inside hOdd).1 (not_lt.mpr hEnd)
  · have hStrict := (hFirst.inside hOdd).2
    rw [upperEnd_eq_lowerEnd_succ] at hStrict
    exact absurd hSecond.lower (not_le.mpr hStrict)

/- A decimal reads back to at most one magnitude. -/
theorem Holds.eq_of_holds
    {j k : Nat}
    {d : ℚ}
    (hFirst : Holds j d)
    (hSecond : Holds k d) :
    j = k :=
  Nat.le_antisymm
    (Nat.not_lt.mp (hSecond.not_before hFirst))
    (Nat.not_lt.mp (hFirst.not_before hSecond))

------------------------------------------------------------
-- Neighbours among Decimals
------------------------------------------------------------

/- Both sides of a comparison are scaled by one factor. -/
theorem grid_scaled
    (place power : Int) :
    ∃ c : ℚ, 0 < c ∧
      ((Grid.of place power).binary : ℚ) =
        c * 2 ^ (place - 2) ∧
      ((Grid.of place power).decimal : ℚ) =
        c * 10 ^ power := by
  refine ⟨2 ^ (2 - place).toNat * 10 ^ (-power).toNat,
    by positivity, ?_, ?_⟩
  · have hTwo :
        (2 : ℚ) ^ (place - 2).toNat =
          2 ^ (2 - place).toNat * 2 ^ (place - 2) := by
      rw [← zpow_natCast, ← zpow_natCast,
        ← zpow_add₀ two_ne_zero]
      congr 1
      omega
    unfold Grid.of
    simp only [Nat.pow_eq]
    push_cast
    rw [hTwo]
    ring
  · have hTen :
        (10 : ℚ) ^ power.toNat =
          10 ^ (-power).toNat * 10 ^ power := by
      rw [← zpow_natCast, ← zpow_natCast,
        ← zpow_add₀ (by norm_num)]
      congr 1
      omega
    unfold Grid.of
    simp only [Nat.pow_eq]
    push_cast
    rw [hTen]
    ring

/- What is left of the interval at its ends. -/
def slack (x : Number) : Nat :=
  if x.significand % 2 = 0 then 0 else 1

/- A decimal that reads back, compared in naturals. -/
def ReadsBack
    (x : Number)
    (power : Int)
    (n : Nat) : Prop :=
  lowerQuarter x * (Grid.of x.scale power).binary + slack x ≤
      n * (Grid.of x.scale power).decimal ∧
    n * (Grid.of x.scale power).decimal + slack x ≤
      (4 * x.significand + 2) * (Grid.of x.scale power).binary

/- A neighbour that is found reads back. -/
theorem readsBack_of_neighbour?
    {x : Number}
    {power : Int}
    {n : Nat}
    (hFound : neighbour? x power = some n) :
    ReadsBack x power n := by
  unfold neighbour? at hFound
  dsimp only at hFound
  split at hFound
  · cases hFound
  · rename_i hBelow hAbove
    cases hFound
    simpa [ReadsBack, slack] using hBelow
  · rename_i hBelow hAbove
    cases hFound
    simpa [ReadsBack, slack] using hAbove
  · rename_i hBelow hAbove
    split at hFound
    · cases hFound
      simpa [ReadsBack, slack] using hBelow
    · split at hFound
      · cases hFound
        simpa [ReadsBack, slack] using hAbove
      · cases hFound
        rcases Nat.mod_two_eq_zero_or_one
            (4 * x.significand * (Grid.of x.scale power).binary
              / (Grid.of x.scale power).decimal) with
          hEven | hOdd
        · rw [hEven]
          simpa [ReadsBack, slack] using hBelow
        · rw [hOdd]
          simpa [ReadsBack, slack] using hAbove

/- What reads back in naturals lies in the interval. -/
theorem ReadsBack.holds
    {x : Number}
    {power : Int}
    {n : Nat}
    (h : ReadsBack x power n) :
    Holds x.code (n * 10 ^ power) := by
  rcases grid_scaled x.scale power with
    ⟨c, hPos, hBinary, hDecimal⟩
  rcases h with ⟨hLow, hHigh⟩
  have hQuarter : quarter x.code = 2 ^ (x.scale - 2) := by
    unfold quarter
    rw [codeScale_code]
  -- The two comparisons, over the common factor.
  have hLower :
      c * lowerEnd x.code + slack x ≤
        c * (n * 10 ^ power) := by
    have hCast : ((lowerQuarter x : Nat) : ℚ) *
          (Grid.of x.scale power).binary + (slack x : Nat) ≤
        n * (Grid.of x.scale power).decimal := by
      exact_mod_cast hLow
    rw [hBinary, hDecimal] at hCast
    unfold lowerEnd
    rw [lowerQuarters_code, hQuarter]
    linarith
  have hUpper :
      c * (n * 10 ^ power) + slack x ≤
        c * upperEnd x.code := by
    have hCast : (n : ℚ) * (Grid.of x.scale power).decimal +
          (slack x : Nat) ≤
        ((4 * x.significand + 2 : Nat) : ℚ) *
          (Grid.of x.scale power).binary := by
      exact_mod_cast hHigh
    rw [hBinary, hDecimal] at hCast
    unfold upperEnd
    rw [codeSignificand_code, hQuarter]
    linarith
  have hSlack : (0 : ℚ) ≤ slack x := Nat.cast_nonneg _
  refine ⟨?_, ?_, ?_⟩
  · exact le_of_mul_le_mul_left (by linarith) hPos
  · exact le_of_mul_le_mul_left (by linarith) hPos
  · intro hOdd
    rw [← codeSignificand_mod_two, codeSignificand_code] at hOdd
    have hOne : slack x = 1 := by
      unfold slack
      rw [if_neg (by omega)]
    rw [hOne, Nat.cast_one] at hLower hUpper
    constructor
    · exact lt_of_mul_lt_mul_left (by linarith) hPos.le
    · exact lt_of_mul_lt_mul_left (by linarith) hPos.le

theorem decimal_pos
    (place power : Int) :
    0 < (Grid.of place power).decimal := by
  unfold Grid.of
  simp only [Nat.pow_eq]
  positivity

/-
  Where the decimals are at least as dense as the quarters
  of the last place, the one below the number reads back.
-/
theorem readsBack_below
    {x : Number}
    {power : Int}
    (hSig : x.significand ≠ 0)
    (hDense :
      (Grid.of x.scale power).decimal ≤
        (Grid.of x.scale power).binary) :
    ReadsBack x power
      (4 * x.significand * (Grid.of x.scale power).binary /
        (Grid.of x.scale power).decimal) := by
  have hPos := decimal_pos x.scale power
  unfold ReadsBack
  generalize (Grid.of x.scale power).decimal = decimal at *
  generalize (Grid.of x.scale power).binary = binary at *
  have hBelow :
      4 * x.significand * binary / decimal * decimal ≤
        4 * x.significand * binary :=
    Nat.div_mul_le_self _ _
  have hAbove :
      4 * x.significand * binary <
        4 * x.significand * binary / decimal * decimal +
          decimal :=
    Nat.lt_div_mul_add hPos
  have hQuarters :
      lowerQuarter x + 1 ≤ 4 * x.significand := by
    unfold lowerQuarter
    split <;> omega
  have hLow :
      lowerQuarter x * binary + binary ≤
        4 * x.significand * binary := by
    calc
      lowerQuarter x * binary + binary
          = (lowerQuarter x + 1) * binary := by ring
      _ ≤ 4 * x.significand * binary :=
        Nat.mul_le_mul_right _ hQuarters
  have hSlack : slack x ≤ 1 := by
    unfold slack
    split <;> omega
  refine ⟨by omega, ?_⟩
  rw [Nat.add_mul]
  omega

/- A neighbour is found where one of the two reads back. -/
theorem neighbour?_isSome
    {x : Number}
    {power : Int}
    (hBelow :
      ReadsBack x power
        (4 * x.significand * (Grid.of x.scale power).binary /
          (Grid.of x.scale power).decimal)) :
    (neighbour? x power).isSome := by
  unfold neighbour?
  dsimp only
  split
  · rename_i hFalse _
    simp only [Bool.and_eq_false_iff, decide_eq_false_iff_not]
      at hFalse
    rcases hFalse with hLow | hHigh
    · exact absurd hBelow.1 hLow
    · exact absurd hBelow.2 hHigh
  · rfl
  · rfl
  · split
    · rfl
    · split
      · rfl
      · rfl

------------------------------------------------------------
-- The Shortest Decimal
------------------------------------------------------------

/- A positive natural has one digit more than a power below. -/
theorem ten_pow_length_le
    {n : Nat}
    (hPos : 0 < n) :
    10 ^ ((Nat.toDigits 10 n).length - 1) ≤ n := by
  have hSome : 0 < (Nat.toDigits 10 n).length :=
    Nat.length_toDigits_pos
  by_cases hOne : (Nat.toDigits 10 n).length = 1
  · rw [hOne]
    exact hPos
  · rw [← Nat.not_lt, ← Nat.length_toDigits_le_iff
      (by decide) (by omega)]
    omega

/- The places of a number do not lie below the smallest. -/
theorem scale_ge (x : Number) : -1074 ≤ x.scale := by
  unfold scale
  omega

/- A significand has at most 53 bits. -/
theorem significand_lt (x : Number) :
    x.significand < 2 ^ 53 := by
  have hFraction := x.fraction.isLt
  rw [significand, Nat.pow_eq]
  split <;> omega

/- Enough decimal places leave something before the point. -/
theorem shifted_pos
    {sig places : Nat}
    {place : Int}
    (hSig : sig ≠ 0)
    (hPlaces : 2 ^ (-place).toNat ≤ 10 ^ places) :
    0 < sig * 2 ^ place.toNat * 10 ^ places /
      2 ^ (-place).toNat := by
  apply Nat.div_pos
  · calc
      2 ^ (-place).toNat ≤ 10 ^ places := hPlaces
      _ = 1 * 1 * 10 ^ places := by ring
      _ ≤ sig * 2 ^ place.toNat * 10 ^ places := by
        apply Nat.mul_le_mul_right
        exact Nat.mul_le_mul (Nat.pos_of_ne_zero hSig)
          Nat.one_le_two_pow
  · exact Nat.two_pow_pos _

/- What is cut off after the point is not negative. -/
theorem shifted_le
    (sig places : Nat)
    (place : Int) :
    ((sig * 2 ^ place.toNat * 10 ^ places /
        2 ^ (-place).toNat : Nat) : ℚ) ≤
      sig * 2 ^ place * 10 ^ places := by
  generalize hShifted :
    sig * 2 ^ place.toNat * 10 ^ places / 2 ^ (-place).toNat =
      shifted
  have hTwo : (2 : ℚ) ^ place.toNat =
      2 ^ place * 2 ^ (-place).toNat := by
    rw [← zpow_natCast, ← zpow_natCast,
      ← zpow_add₀ two_ne_zero]
    congr 1
    omega
  have hDiv : shifted * 2 ^ (-place).toNat ≤
      sig * 2 ^ place.toNat * 10 ^ places := by
    rw [← hShifted]
    exact Nat.div_mul_le_self _ _
  have hCast : (shifted : ℚ) * 2 ^ (-place).toNat ≤
      sig * 2 ^ place.toNat * 10 ^ places := by
    exact_mod_cast hDiv
  rw [hTwo] at hCast
  apply le_of_mul_le_mul_right (a := 2 ^ (-place).toNat) _
    (by positivity)
  linarith

/-
  A magnitude is at least the power of its leading digit, if
  the digit is found among the decimal places.
-/
theorem ten_pow_leadingPowerWithin_le
    {sig places : Nat}
    {place : Int}
    (hSig : sig ≠ 0)
    (hPlaces : 2 ^ (-place).toNat ≤ 10 ^ places) :
    (10 : ℚ) ^ leadingPowerWithin places sig place ≤
      sig * 2 ^ place := by
  have hPos := shifted_pos hSig hPlaces
  have hFloor := shifted_le sig places place
  unfold leadingPowerWithin
  simp only [Nat.pow_eq]
  generalize sig * 2 ^ place.toNat * 10 ^ places /
    2 ^ (-place).toNat = shifted at *
  have hDigits : (10 : ℚ) ^
      ((Nat.toDigits 10 shifted).length - 1) ≤ shifted := by
    exact_mod_cast ten_pow_length_le hPos
  have hCount : 0 < (Nat.toDigits 10 shifted).length :=
    Nat.length_toDigits_pos
  have hTen :
      (10 : ℚ) ^ (((Nat.toDigits 10 shifted).length : Int) -
          (places + 1)) * 10 ^ places =
        10 ^ ((Nat.toDigits 10 shifted).length - 1) := by
    rw [← zpow_natCast (10 : ℚ) places, ← zpow_natCast (10 : ℚ),
      ← zpow_add₀ (by norm_num)]
    congr 1
    omega
  apply le_of_mul_le_mul_right (a := 10 ^ places) _
    (by positivity)
  rw [hTen]
  exact le_trans hDigits hFloor

/- A number is at least the power of its leading digit. -/
theorem ten_pow_leadingPower_le
    {x : Number}
    (hSig : x.significand ≠ 0) :
    (10 : ℚ) ^ leadingPower x.significand x.scale ≤
      x.significand * 2 ^ x.scale := by
  have hScale := scale_ge x
  have hEight : ∀ n : Nat, 2 ^ (3 * n) ≤ 10 ^ n := by
    intro n
    rw [Nat.pow_mul]
    exact Nat.pow_le_pow_left (by decide) n
  apply ten_pow_leadingPowerWithin_le hSig
  exact le_trans
    (Nat.pow_le_pow_right (by decide) (by omega)) (hEight 400)

/- Decimals with seventeen places more are dense enough. -/
theorem decimal_le_binary
    {x : Number}
    (hSig : x.significand ≠ 0) :
    (Grid.of x.scale
        (leadingPower x.significand x.scale - 17)).decimal ≤
      (Grid.of x.scale
        (leadingPower x.significand x.scale - 17)).binary := by
  have hLeading := ten_pow_leadingPower_le hSig
  generalize leadingPower x.significand x.scale = leading at *
  rcases grid_scaled x.scale (leading - 17) with
    ⟨c, hPos, hBinary, hDecimal⟩
  have hBits : (x.significand : ℚ) ≤ 2 ^ 53 := by
    exact_mod_cast (significand_lt x).le
  have hTen : (10 : ℚ) ^ (leading - 17) * 10 ^ 17 =
      10 ^ leading := by
    rw [← zpow_natCast (10 : ℚ) 17, ← zpow_add₀ (by norm_num)]
    congr 1
    omega
  have hTwo : (2 : ℚ) ^ (x.scale - 2) * 2 ^ 2 =
      2 ^ x.scale := by
    rw [← zpow_natCast (2 : ℚ) 2, ← zpow_add₀ two_ne_zero]
    congr 1
    omega
  have hUnit : (0 : ℚ) < 2 ^ (x.scale - 2) := by positivity
  have hNumber : (x.significand : ℚ) * 2 ^ x.scale ≤
      2 ^ 53 * 2 ^ x.scale :=
    mul_le_mul_of_nonneg_right hBits (by positivity)
  have hDense : (10 : ℚ) ^ (leading - 17) ≤
      2 ^ (x.scale - 2) := by
    rw [← hTwo] at hNumber hLeading
    rw [← hTen] at hLeading
    norm_num at hNumber hLeading ⊢
    linarith
  have hScaled : ((Grid.of x.scale (leading - 17)).decimal : ℚ) ≤
      (Grid.of x.scale (leading - 17)).binary := by
    rw [hBinary, hDecimal]
    exact mul_le_mul_of_nonneg_left hDense hPos.le
  exact_mod_cast hScaled

/- The search for a neighbour ends with one it found. -/
theorem neighbour?_of_search
    {x : Number}
    {leading : Int}
    (other : Nat × Int)
    (hLast : (neighbour? x (leading - 17)).isSome) :
    ∃ n power, neighbour? x power = some n ∧
      ((List.range 18).findSome? fun (more : Nat) =>
          (neighbour? x (leading - more)).map
            (·, leading - (more : Int))).getD other =
        (n, power) := by
  cases hFound :
      (List.range 18).findSome? fun (more : Nat) =>
        (neighbour? x (leading - more)).map
          (·, leading - (more : Int)) with
  | none =>
      rw [List.findSome?_eq_none_iff] at hFound
      have hNone : neighbour? x (leading - 17) = none :=
        Option.map_eq_none_iff.mp (hFound 17 (by decide))
      rw [hNone] at hLast
      cases hLast
  | some result =>
      rcases List.exists_of_findSome?_eq_some hFound with
        ⟨more, _, hMore⟩
      rcases Option.map_eq_some_iff.mp hMore with
        ⟨n, hNeighbour, hPair⟩
      exact ⟨n, _, hNeighbour, hPair.symm⟩

/- The shortest decimal reads back to the number. -/
theorem shortest_holds
    {x : Number}
    (hSig : x.significand ≠ 0) :
    Holds x.code
      ((shortest x).1 * (10 : ℚ) ^ (shortest x).2) := by
  have hLast := neighbour?_isSome
    (readsBack_below hSig (decimal_le_binary hSig))
  rcases neighbour?_of_search (x.significand, x.scale)
      hLast with
    ⟨n, power, hNeighbour, hSearch⟩
  have hShortest : shortest x = (n, power) := hSearch
  rw [hShortest]
  exact (readsBack_of_neighbour? hNeighbour).holds

------------------------------------------------------------
-- Positional Notation
------------------------------------------------------------

/- Digits before and after a point, if any are after it. -/
def pointed
    (whole after : List Char) : List Char :=
  if after = [] then whole else whole ++ '.' :: after

/- The number that digits around a point denote. -/
def pointedValue
    (whole after : List Char) : ℚ :=
  Nat.ofDigitChars 10 whole 0 +
    Nat.ofDigitChars 10 after 0 / 10 ^ after.length

/-
  A text of digits, with a point between two of them or with
  none, that denotes a number.
-/
structure Denotes
    (cs : List Char)
    (d : ℚ)
    (whole after : List Char) : Prop where
  text : cs = pointed whole after
  some_whole : whole ≠ []
  digits_whole : ∀ c ∈ whole, c.isDigit = true
  digits_after : ∀ c ∈ after, c.isDigit = true
  value : pointedValue whole after = d

/- The digits before the point are the leading digits. -/
theorem takeWhile_pointed
    {whole after : List Char}
    (hWhole : ∀ c ∈ whole, c.isDigit = true) :
    (pointed whole after).takeWhile Char.isDigit = whole := by
  unfold pointed
  split
  · rw [← List.append_nil whole,
      List.takeWhile_append_of_pos hWhole,
      List.takeWhile_nil]
  · rw [List.takeWhile_append_of_pos hWhole]
    simp [Char.isDigit]

/- A text has at most one division into digits. -/
theorem pointed_injective
    {whole after whole' after' : List Char}
    (hWhole : ∀ c ∈ whole, c.isDigit = true)
    (hWhole' : ∀ c ∈ whole', c.isDigit = true)
    (hText : pointed whole after = pointed whole' after') :
    whole = whole' ∧ after = after' := by
  have hSame : whole = whole' := by
    rw [← takeWhile_pointed hWhole, hText,
      takeWhile_pointed hWhole']
  subst hSame
  refine ⟨rfl, ?_⟩
  unfold pointed at hText
  split at hText
  · rename_i hNone
    split at hText
    · rename_i hNone'
      rw [hNone, hNone']
    · exact absurd hText (by simp)
  · split at hText
    · exact absurd hText (by simp)
    · simpa using hText

/- A text of digits starts with a digit. -/
theorem Denotes.eq_cons
    {cs whole after : List Char}
    {d : ℚ}
    (hDenotes : Denotes cs d whole after) :
    ∃ c rest, cs = c :: rest ∧ c.isDigit = true := by
  cases whole with
  | nil => exact absurd rfl hDenotes.some_whole
  | cons c rest =>
      have hDigit := hDenotes.digits_whole c List.mem_cons_self
      rw [hDenotes.text]
      unfold pointed
      split
      · exact ⟨c, rest, rfl, hDigit⟩
      · exact ⟨c, rest ++ '.' :: after, rfl, hDigit⟩

/- A text denotes at most one number. -/
theorem Denotes.unique
    {cs whole after whole' after' : List Char}
    {d d' : ℚ}
    (hDenotes : Denotes cs d whole after)
    (hOther : Denotes cs d' whole' after') :
    d = d' := by
  rcases pointed_injective hDenotes.digits_whole
      hOther.digits_whole (hDenotes.text.symm.trans hOther.text)
    with ⟨hWhole, hAfter⟩
  rw [← hDenotes.value, ← hOther.value, hWhole, hAfter]

/- Trimmed zeros stood at the end. -/
theorem trimZeros_append
    (digits : List Char) :
    ∃ count, digits =
      trimZeros digits ++ List.replicate count '0' := by
  have hZeros :
      digits.reverse.takeWhile (· == '0') =
        List.replicate
          (digits.reverse.takeWhile (· == '0')).length '0' := by
    apply List.eq_replicate_of_mem
    intro c hMember
    exact eq_of_beq
      (List.all_eq_true.mp List.all_takeWhile c hMember)
  refine ⟨(digits.reverse.takeWhile (· == '0')).length, ?_⟩
  have hSplit := congrArg List.reverse
    (List.takeWhile_append_dropWhile (p := (· == '0'))
      (l := digits.reverse))
  rw [List.reverse_append, List.reverse_reverse] at hSplit
  unfold trimZeros
  rw [← List.reverse_replicate, ← hZeros]
  exact hSplit.symm

/- Digits in a row make up one number. -/
theorem ofDigitChars_append_eq
    (first second : List Char) :
    Nat.ofDigitChars 10 (first ++ second) 0 =
      Nat.ofDigitChars 10 first 0 * 10 ^ second.length +
        Nat.ofDigitChars 10 second 0 := by
  rw [Nat.ofDigitChars_append,
    Nat.ofDigitChars_eq_ofDigitChars_zero, Nat.mul_comm]

/- Zeros have no value of their own. -/
theorem ofDigitChars_zeros
    (count : Nat) :
    Nat.ofDigitChars 10 (List.replicate count '0') 0 = 0 := by
  rw [Nat.ofDigitChars_replicate_zero, Nat.mul_zero]

/- Zeros at the end behind the point change nothing. -/
theorem pointedValue_append_zeros
    (whole after : List Char)
    (count : Nat) :
    pointedValue whole (after ++ List.replicate count '0') =
      pointedValue whole after := by
  unfold pointedValue
  rw [ofDigitChars_append_eq, ofDigitChars_zeros,
    List.length_append, List.length_replicate, Nat.add_zero,
    pow_add]
  push_cast
  rw [mul_div_mul_right _ _ (by positivity)]

/-
  Digits divided by a point denote their number without the
  point, over the power of ten of the places.
-/
theorem pointedValue_eq
    (whole after : List Char) :
    pointedValue whole after =
      Nat.ofDigitChars 10 (whole ++ after) 0 /
        10 ^ after.length := by
  unfold pointedValue
  rw [ofDigitChars_append_eq]
  push_cast
  rw [add_div, mul_div_cancel_right₀ _ (by positivity)]

/- Zeros are digits, whether before or after others. -/
theorem isDigit_of_mem_zeros
    {count : Nat}
    {c : Char}
    (hMember : c ∈ List.replicate count '0') :
    c.isDigit = true := by
  rw [List.eq_of_mem_replicate hMember]
  rfl

/- Digits are divided at a place and trimmed. -/
theorem denotes_divided
    {digits : List Char}
    {places : Nat}
    (hDigits : ∀ c ∈ digits, c.isDigit = true)
    (hPlaces : places < digits.length) :
    Denotes
      (pointed (digits.take (digits.length - places))
        (trimZeros (digits.drop (digits.length - places))))
      (Nat.ofDigitChars 10 digits 0 / 10 ^ places)
      (digits.take (digits.length - places))
      (trimZeros (digits.drop (digits.length - places))) := by
  rcases trimZeros_append
      (digits.drop (digits.length - places)) with
    ⟨count, hTrim⟩
  refine ⟨rfl, ?_, ?_, ?_, ?_⟩
  · intro hNone
    have hCount := congrArg List.length hNone
    rw [List.length_take, List.length_nil] at hCount
    omega
  · intro c hMember
    exact hDigits c (List.mem_of_mem_take hMember)
  · intro c hMember
    apply hDigits c
    apply List.mem_of_mem_drop
    rw [hTrim]
    exact List.mem_append_left _ hMember
  · have hRest : digits.length - (digits.length - places) =
        places := by
      omega
    rw [← pointedValue_append_zeros _ _ count, ← hTrim,
      pointedValue_eq, List.take_append_drop, List.length_drop,
      hRest]

/- Digits with zeros at their end need no point. -/
theorem denotes_append_zeros
    (n count : Nat) :
    Denotes (Nat.toDigits 10 n ++ List.replicate count '0')
      (n * 10 ^ count)
      (Nat.toDigits 10 n ++ List.replicate count '0') [] := by
  refine ⟨rfl, ?_, ?_, ?_, ?_⟩
  · simp [Nat.toDigits_ne_nil]
  · intro c hMember
    rcases List.mem_append.mp hMember with hDigit | hZero
    · exact Nat.isDigit_of_mem_toDigits (by decide) (by decide)
        hDigit
    · exact isDigit_of_mem_zeros hZero
  · intro c hMember
    cases hMember
  · rw [pointedValue_eq, List.append_nil,
      ofDigitChars_append_eq, ofDigitChars_zeros,
      Nat.ofDigitChars_ten_toDigits, List.length_replicate]
    push_cast
    simp

/- A decimal is written with digits that denote it. -/
theorem positional_denotes
    (n : Nat)
    (power : Int) :
    ∃ whole after,
      Denotes (positional n power) (n * 10 ^ power) whole
        after := by
  unfold positional
  dsimp only
  by_cases hPower : 0 ≤ power
  · have hTen : (10 : ℚ) ^ power = 10 ^ power.toNat := by
      rw [← zpow_natCast, Int.toNat_of_nonneg hPower]
    rw [if_pos hPower, hTen]
    exact ⟨_, _, denotes_append_zeros n power.toNat⟩
  · rw [if_neg hPower]
    generalize hPlaces : (-power).toNat = places
    generalize hPadded :
      List.replicate
          (places + 1 - (Nat.toDigits 10 n).length) '0' ++
        Nat.toDigits 10 n = padded
    have hLength : places < padded.length := by
      rw [← hPadded, List.length_append, List.length_replicate]
      omega
    have hDigits : ∀ c ∈ padded, c.isDigit = true := by
      intro c hMember
      rw [← hPadded] at hMember
      rcases List.mem_append.mp hMember with hZero | hDigit
      · exact isDigit_of_mem_zeros hZero
      · exact Nat.isDigit_of_mem_toDigits (by decide)
          (by decide) hDigit
    have hValue : Nat.ofDigitChars 10 padded 0 = n := by
      rw [← hPadded, ofDigitChars_append_eq,
        ofDigitChars_zeros, Nat.ofDigitChars_ten_toDigits]
      omega
    have hTen : (10 : ℚ) ^ power = (10 ^ places)⁻¹ := by
      rw [← zpow_natCast, ← zpow_neg]
      congr 1
      omega
    have hDivided := denotes_divided hDigits hLength
    rw [hValue, div_eq_mul_inv, ← hTen] at hDivided
    exact ⟨_, _, hDivided⟩

------------------------------------------------------------
-- Printed Numbers
------------------------------------------------------------

/- Zero is the magnitude with the code zero. -/
theorem code_eq_zero
    {x : Number}
    (hSig : x.significand = 0) :
    x.code = 0 := by
  rw [significand, Nat.pow_eq] at hSig
  unfold code
  split at hSig
  · rename_i hExponent
    rw [hExponent, hSig]
    rfl
  · omega

/- Zero reads back to zero. -/
theorem holds_zero : Holds 0 0 := by
  have hLower : lowerEnd 0 = 0 := by
    unfold lowerEnd
    have hNone : lowerQuarters 0 = 0 := by decide
    rw [hNone, Nat.cast_zero, zero_mul]
  have hLess := lowerEnd_lt_upperEnd 0
  rw [hLower] at hLess
  exact ⟨hLower.le, hLess.le, fun hOdd => absurd hOdd (by decide)⟩

/-
  A magnitude is printed with digits that denote a decimal
  which reads back to it.
-/
theorem printMagnitude_denotes
    (x : Number) :
    ∃ d whole after, Holds x.code d ∧
      Denotes (printMagnitude x) d whole after := by
  unfold printMagnitude
  by_cases hSig : x.significand = 0
  · rw [if_pos hSig, code_eq_zero hSig]
    refine ⟨0, ['0'], [], holds_zero, rfl, ?_, ?_, ?_, ?_⟩
    · exact List.cons_ne_nil _ _
    · intro c hMember
      rw [List.mem_singleton.mp hMember]
      rfl
    · intro c hMember
      cases hMember
    · unfold pointedValue
      norm_num [Nat.ofDigitChars]
  · rw [if_neg hSig]
    rcases positional_denotes (shortest x).1 (shortest x).2 with
      ⟨whole, after, hDenotes⟩
    exact ⟨_, whole, after, shortest_holds hSig, hDenotes⟩

/- A finite number is printed as its sign and magnitude. -/
theorem toList_print
    {x : Number}
    (hFinite : x.IsFinite) :
    x.print.toList =
      if x.negative then
        '-' :: printMagnitude x
      else
        printMagnitude x := by
  have hNaN : ¬ x.IsNaN := fun h => hFinite h.1
  unfold print
  rw [if_neg hNaN, if_pos hFinite, String.toList_ofList]

/- A magnitude starts with a digit. -/
theorem printMagnitude_eq_cons
    (x : Number) :
    ∃ c rest, printMagnitude x = c :: rest ∧
      c.isDigit = true := by
  rcases printMagnitude_denotes x with
    ⟨d, whole, after, _, hDenotes⟩
  exact hDenotes.eq_cons

------------------------------------------------------------
-- Numerals
------------------------------------------------------------

/-
  A numeral of a finite number: a minus sign, if the number
  is negative, and digits that denote a decimal which reads
  back to its magnitude. It need not be the printed one.
-/
def HasNumeral
    (x : Number)
    (literal : String) : Prop :=
  x.IsFinite ∧
    ∃ cs d whole after,
      literal.toList = (if x.negative then '-' :: cs else cs) ∧
        Denotes cs d whole after ∧ Holds x.code d

/- The printed form of a finite number is a numeral of it. -/
theorem hasNumeral_print
    {x : Number}
    (hFinite : x.IsFinite) :
    x.HasNumeral x.print := by
  rcases printMagnitude_denotes x with
    ⟨d, whole, after, hHolds, hDenotes⟩
  exact ⟨hFinite, printMagnitude x, d, whole, after,
    toList_print hFinite, hDenotes, hHolds⟩

/- A sign in front of digits can be told. -/
theorem eq_of_signed_eq
    {negative negative' : Bool}
    {cs cs' : List Char}
    (hStart : ∃ c rest, cs = c :: rest ∧ c.isDigit = true)
    (hStart' : ∃ c rest, cs' = c :: rest ∧ c.isDigit = true)
    (hSame :
      (if negative then '-' :: cs else cs) =
        if negative' then '-' :: cs' else cs') :
    negative = negative' ∧ cs = cs' := by
  have hMinus : Char.isDigit '-' = false := by decide
  rcases hStart with ⟨c, rest, rfl, hDigit⟩
  rcases hStart' with ⟨c', rest', rfl, hDigit'⟩
  cases negative with
  | true =>
      cases negative' with
      | true => exact ⟨rfl, (List.cons.inj hSame).2⟩
      | false =>
          have hHead : '-' = c' := (List.cons.inj hSame).1
          rw [← hHead, hMinus] at hDigit'
          cases hDigit'
  | false =>
      cases negative' with
      | true =>
          have hHead : c = '-' := (List.cons.inj hSame).1
          rw [hHead, hMinus] at hDigit
          cases hDigit
      | false => exact ⟨rfl, hSame⟩

/- A text is a numeral of at most one number. -/
theorem HasNumeral.unique
    {x y : Number}
    {literal : String}
    (hFirst : x.HasNumeral literal)
    (hSecond : y.HasNumeral literal) :
    x = y := by
  rcases hFirst with ⟨_, cs, d, _, _, hText, hDenotes, hHolds⟩
  rcases hSecond with
    ⟨_, cs', d', _, _, hText', hDenotes', hHolds'⟩
  rcases eq_of_signed_eq hDenotes.eq_cons hDenotes'.eq_cons
      (hText.symm.trans hText') with
    ⟨hSign, rfl⟩
  rw [← hDenotes.unique hDenotes'] at hHolds'
  exact eq_of_code_eq hSign (hHolds.eq_of_holds hHolds')

/- Different finite numbers are printed differently. -/
theorem print_injective
    {x y : Number}
    (hFinite : x.IsFinite)
    (hFinite' : y.IsFinite)
    (hText : x.print = y.print) :
    x = y := by
  have hNumeral := hasNumeral_print hFinite'
  rw [← hText] at hNumeral
  exact (hasNumeral_print hFinite).unique hNumeral

end Number

end TemplateJsx
