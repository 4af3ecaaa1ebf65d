import TemplateJsx.Number.Basic

/-
  This file defines the printed form of numbers: the fewest
  significant digits that read back to the same number,
  written positionally and never with an exponent.

  A decimal reads back to a number exactly if it lies in the
  interval around it that rounds to it. For each count of
  digits, from one on, the two neighbours of the number
  among the decimals with that many digits are tried; the
  first count with a hit wins, and of two hits the nearer.

  Key definitions include:
    * `Number.Grid`
    * `Number.leadingPower`
    * `Number.neighbour?`
    * `Number.shortest`
    * `Number.positional`
    * `Number.print`
-/

------------------------------------------------------------
-- Decimals near a Number
------------------------------------------------------------

namespace TemplateJsx

namespace Number

/-
  A way to compare multiples of `2 ^ (scale - 2)` with
  multiples of `10 ^ power` in naturals: `x` of the former
  and `n` of the latter compare as `x * binary` and
  `n * decimal` do.
-/
structure Grid where
  binary : Nat
  decimal : Nat
  deriving Repr

/- The comparison of the given scale and power of ten. -/
def Grid.of
    (scale : Int)
    (power : Int) : Grid where
  binary :=
    Nat.pow 2 (scale - 2).toNat * Nat.pow 10 (-power).toNat
  decimal :=
    Nat.pow 10 power.toNat * Nat.pow 2 (2 - scale).toNat

/-
  The power of ten of the leading digit of a magnitude, found
  among so many decimal places.
-/
def leadingPowerWithin
    (places : Nat)
    (sig : Nat)
    (scale : Int) : Int :=
  let shifted :=
    sig * Nat.pow 2 scale.toNat * Nat.pow 10 places
      / Nat.pow 2 (-scale).toNat
  ((Nat.toDigits 10 shifted).length : Int) - (places + 1)

/-
  The power of ten of the leading digit of a magnitude. No
  number has its leading digit beyond the place 400.
-/
def leadingPower
    (sig : Nat)
    (scale : Int) : Int :=
  leadingPowerWithin 400 sig scale

/-
  The lower end of the decimals that round to a number, in
  quarters of its last place. Below a power of two the
  numbers are twice as dense.
-/
def lowerQuarter (x : Number) : Nat :=
  if x.fraction.val = 0 ∧ 1 < x.exponent.val then
    4 * x.significand - 1
  else
    4 * x.significand - 2

/-
  The multiple of `10 ^ power` next to a finite number that
  reads back to it, if there is one. Of two the nearer is
  taken, and at equal distance the even one. The ends of the
  interval read back if the significand is even.
-/
def neighbour?
    (x : Number)
    (power : Int) : Option Nat :=
  let grid := Grid.of x.scale power
  let value := 4 * x.significand * grid.binary
  let low := lowerQuarter x * grid.binary
  let high := (4 * x.significand + 2) * grid.binary
  let below := value / grid.decimal
  let slack := if x.significand % 2 = 0 then 0 else 1
  let readsBack (n : Nat) : Bool :=
    low + slack ≤ n * grid.decimal
      && n * grid.decimal + slack ≤ high
  let toBelow := value - below * grid.decimal
  let toAbove := (below + 1) * grid.decimal - value
  match readsBack below, readsBack (below + 1) with
  | false, false => none
  | true, false => some below
  | false, true => some (below + 1)
  | true, true =>
      if toBelow < toAbove then
        some below
      else if toAbove < toBelow then
        some (below + 1)
      else
        some (below + below % 2)

/-
  The fewest digits that read back to a finite number other
  than zero, with the power of ten of the last one. Seventeen
  digits always suffice.
-/
def shortest (x : Number) : Nat × Int :=
  let leading := leadingPower x.significand x.scale
  let found :=
    (List.range 18).findSome? fun (more : Nat) =>
      let power : Int := leading - more
      (neighbour? x power).map (·, power)
  found.getD (x.significand, x.scale)

------------------------------------------------------------
-- Positional Notation
------------------------------------------------------------

/- The digits without the zeros at their end. -/
def trimZeros (digits : List Char) : List Char :=
  (digits.reverse.dropWhile (· == '0')).reverse

/-
  The digits of an integer and a power of ten, written
  positionally. There is no point unless digits follow it.
-/
def positional
    (n : Nat)
    (power : Int) : List Char :=
  let digits := Nat.toDigits 10 n
  if 0 ≤ power then
    digits ++ List.replicate power.toNat '0'
  else
    let places := (-power).toNat
    let padded :=
      List.replicate (places + 1 - digits.length) '0'
        ++ digits
    let whole := padded.take (padded.length - places)
    let after := trimZeros (padded.drop (padded.length - places))
    if after = [] then whole else whole ++ '.' :: after

/- The printed magnitude of a finite number. -/
def printMagnitude (x : Number) : List Char :=
  if x.significand = 0 then
    ['0']
  else
    let decimal := shortest x
    positional decimal.1 decimal.2

/- The printed form of a number. -/
def print (x : Number) : String :=
  if x.IsNaN then
    "NaN"
  else if x.IsFinite then
    String.ofList
      (if x.negative then
        '-' :: printMagnitude x
      else
        printMagnitude x)
  else if x.negative then
    "-Inf"
  else
    "+Inf"

end Number

end TemplateJsx
