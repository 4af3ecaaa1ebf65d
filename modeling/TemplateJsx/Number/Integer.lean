import TemplateJsx.Number.Reader

/-
  This file defines how texts are read as integers of 64
  bits: line and column numbers of source locations, and the
  integers of a document.

  Key definitions include:
    * `Integer.maxUnsigned`
    * `Integer.maxSigned`
    * `Integer.minSigned`
    * `Integer.Digits`
    * `Integer.readDigits`
    * `Integer.clamp`
    * `Integer.ofText`
    * `Integer.signed?`
    * `Integer.unsigned?`
-/

------------------------------------------------------------
-- Bounds
------------------------------------------------------------

namespace TemplateJsx

namespace Integer

/- The largest integer of 64 bits without a sign. -/
def maxUnsigned : Nat := 18446744073709551615

/- The largest integer of 64 bits with a sign. -/
def maxSigned : Int := 9223372036854775807

/- The smallest integer of 64 bits with a sign. -/
def minSigned : Int := -9223372036854775808

/- The nearest integer of 64 bits with a sign. -/
def clamp (n : Int) : Int :=
  max minSigned (min maxSigned n)

------------------------------------------------------------
-- Digits
------------------------------------------------------------

/- What a run of digits turned out to be. -/
inductive Digits where
  | value (n : Nat)
  | tooLarge
  | malformed
  deriving DecidableEq, Repr

/-
  Read digits of the given base up to the end of the text, or
  up to the first digit with which the value exceeds 64 bits.
-/
def readDigits
    (base : Nat) : Nat → List Char → Digits
  | n, [] => .value n
  | n, c :: rest =>
      match Number.digitValue? base c with
      | none => .malformed
      | some d =>
          if maxUnsigned < n * base + d then
            .tooLarge
          else
            readDigits base (n * base + d) rest

/- A run of at least one digit. -/
def readSome
    (base : Nat) : List Char → Digits
  | [] => .malformed
  | cs => readDigits base 0 cs

/- Digits in the base that their mark names, ten without. -/
def readMarked : List Char → Digits
  | '0' :: mark :: c :: rest =>
      if mark.toLower = 'x' then
        readDigits 16 0 (c :: rest)
      else if mark.toLower = 'o' then
        readDigits 8 0 (c :: rest)
      else if mark.toLower = 'b' then
        readDigits 2 0 (c :: rest)
      else
        readDigits 8 0 (mark :: c :: rest)
  | '0' :: rest => readDigits 8 0 rest
  | cs => readSome 10 cs

------------------------------------------------------------
-- Whole Texts
------------------------------------------------------------

/- The integer with the given sign and digits. -/
def withSign
    (sign : Option Bool)
    (n : Nat) : Int :=
  if sign = some true then -(n : Int) else n

/-
  A decimal integer with an optional sign. One beyond 64
  bits becomes the nearest that fits, and a text that is no
  integer becomes zero.
-/
def ofText (s : String) : Int :=
  match Number.readSign s.toList with
  | (sign, cs) =>
    match readSome 10 cs with
    | .value n => clamp (withSign sign n)
    | .tooLarge => clamp (withSign sign (maxUnsigned + 1))
    | .malformed => 0

/- The integer, if it has at most 64 bits with a sign. -/
def inRange? (n : Int) : Option Int :=
  if minSigned ≤ n ∧ n ≤ maxSigned then some n else none

/- An integer of 64 bits with a sign, from digits. -/
def signed?
    (read : List Char → Digits)
    (cs : List Char) : Option Int :=
  match Number.readSign cs with
  | (sign, digits) =>
    match read digits with
    | .value n => inRange? (withSign sign n)
    | _ => none

/- An integer of 64 bits without a sign, from digits. -/
def unsigned?
    (read : List Char → Digits)
    (cs : List Char) : Option Int :=
  match read cs with
  | .value n => some n
  | _ => none

end Integer

end TemplateJsx
