/-
  This file defines the numbers of a template: binary
  floating point with 64 bits, held by the three fields of
  their representation. Numbers are only read and printed,
  so no arithmetic on them is defined here beyond rounding a
  quotient of naturals.

  Key definitions include:
    * `Number`
    * `Number.significand`
    * `Number.scale`
    * `Number.IsFinite`
    * `Number.roundDiv`
    * `Number.ofScaled?`
    * `Number.ofQuotient?`
    * `Number.truncate`
-/

------------------------------------------------------------
-- Representation
------------------------------------------------------------

namespace TemplateJsx

/-
  A number by its sign, its biased exponent and its
  fraction. The exponent 2047 is kept for the infinities
  (fraction zero) and for values that are not numbers.
-/
structure Number where
  negative : Bool
  exponent : Fin 2048
  fraction : Fin 4503599627370496
  deriving DecidableEq, Repr

namespace Number

/- The value that is not a number. -/
def nan : Number :=
  ⟨false, 2047, 2251799813685248⟩

/- The infinity of the given sign. -/
def infinity (negative : Bool) : Number :=
  ⟨negative, 2047, 0⟩

/- The zero of the given sign. -/
def zero (negative : Bool) : Number :=
  ⟨negative, 0, 0⟩

/- Whether the number is neither infinite nor a NaN. -/
def IsFinite (x : Number) : Prop :=
  x.exponent ≠ 2047

instance (x : Number) : Decidable x.IsFinite := by
  unfold IsFinite
  infer_instance

/- Whether the value is not a number. -/
def IsNaN (x : Number) : Prop :=
  x.exponent = 2047 ∧ x.fraction ≠ 0

instance (x : Number) : Decidable x.IsNaN := by
  unfold IsNaN
  infer_instance

/-
  The integer significand of a finite number: the fraction,
  with the leading bit that normal numbers do not store.
-/
def significand (x : Number) : Nat :=
  if x.exponent = 0 then
    x.fraction
  else
    Nat.pow 2 52 + x.fraction

/-
  The power of two of a finite number: its magnitude is
  `significand * 2 ^ scale`.
-/
def scale (x : Number) : Int :=
  max 1 (x.exponent.val : Int) - 1075

------------------------------------------------------------
-- Rounding
------------------------------------------------------------

/-
  The quotient rounded to the nearest natural, a half going
  to the even neighbour.
-/
def roundDiv
    (num : Nat)
    (den : Nat) : Nat :=
  let quotient := num / den
  let remainder := num % den
  if 2 * remainder < den then
    quotient
  else if den < 2 * remainder then
    quotient + 1
  else
    quotient + quotient % 2

/-
  The number with the given significand and scale, where the
  significand has at most 53 bits, or is `2 ^ 53` after
  rounding up. There is none beyond the largest exponent.
-/
def ofScaled?
    (negative : Bool)
    (sig : Nat)
    (scale : Int) : Option Number :=
  let carried := sig = Nat.pow 2 53
  let sig := if carried then Nat.pow 2 52 else sig
  let scale := if carried then scale + 1 else scale
  let exponent : Nat :=
    if sig < Nat.pow 2 52 then 0 else (scale + 1075).toNat
  if h : exponent < 2047 then
    some
      ⟨negative,
        ⟨exponent, Nat.lt_succ_of_lt h⟩,
        Fin.ofNat 4503599627370496 sig⟩
  else
    none

/-
  The number nearest to `num / den`, ties going to the even
  significand. Too large a quotient has none; one that is too
  small gives zero.
-/
def ofQuotient?
    (negative : Bool)
    (num : Nat)
    (den : Nat) : Option Number :=
  if num = 0 then
    some (zero negative)
  else
    let estimate : Int :=
      (num.log2 : Int) - (den.log2 : Int) - 53
    let scaledTo (scale : Int) : Nat × Nat :=
      (num * Nat.pow 2 (-scale).toNat,
        den * Nat.pow 2 scale.toNat)
    let bits := scaledTo estimate
    let exact : Int :=
      if bits.1 / bits.2 < Nat.pow 2 53 then
        estimate
      else
        estimate + 1
    let scale := max (-1074) exact
    let parts := scaledTo scale
    ofScaled? negative (roundDiv parts.1 parts.2) scale

------------------------------------------------------------
-- Integer Part
------------------------------------------------------------

/- The integer part of a finite number, toward zero. -/
def truncate (x : Number) : Int :=
  let magnitude :=
    x.significand * Nat.pow 2 x.scale.toNat
      / Nat.pow 2 (-x.scale).toNat
  if x.negative then -(magnitude : Int) else magnitude

end Number

end TemplateJsx
