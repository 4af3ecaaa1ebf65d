import TemplateJsx.Number.Basic

/-
  This file defines how a text is read as a number: decimal
  digits with an optional point and exponent, hexadecimal
  digits with a binary exponent, and the words for infinity
  and for what is not a number. An underscore may stand
  between two digits, and after the mark of a hexadecimal.

  Key definitions include:
    * `Number.digitValue?`
    * `Number.Mantissa`
    * `Number.readMantissa`
    * `Number.readExponent?`
    * `Number.underscoresSeparate`
    * `Number.ofText?`
-/

------------------------------------------------------------
-- Digits
------------------------------------------------------------

namespace TemplateJsx

namespace Number

/- The value of a digit in the given base up to sixteen. -/
def digitValue?
    (base : Nat)
    (c : Char) : Option Nat :=
  let value :=
    if c.isDigit then
      some (c.toNat - '0'.toNat)
    else if 'a' ≤ c ∧ c ≤ 'f' then
      some (c.toNat - 'a'.toNat + 10)
    else if 'A' ≤ c ∧ c ≤ 'F' then
      some (c.toNat - 'A'.toNat + 10)
    else
      none
  value.filter (· < base)

/-
  The digits before an exponent as an integer, how many of
  them follow the point, and which signs have been seen.
-/
structure Mantissa where
  value : Nat
  places : Nat
  sawPoint : Bool
  sawDigit : Bool
  deriving Repr

/- The mantissa before any character is read. -/
def Mantissa.empty : Mantissa :=
  ⟨0, 0, false, false⟩

/-
  Read digits, underscores and at most one point, and return
  what follows them.
-/
def readMantissa
    (base : Nat)
    (acc : Mantissa) : List Char → Mantissa × List Char
  | [] => (acc, [])
  | c :: rest =>
      if c = '_' then
        readMantissa base acc rest
      else if c = '.' ∧ acc.sawPoint = false then
        readMantissa base { acc with sawPoint := true } rest
      else
        match digitValue? base c with
        | none => (acc, c :: rest)
        | some d =>
            readMantissa base
              { acc with
                value := acc.value * base + d
                places :=
                  if acc.sawPoint then
                    acc.places + 1
                  else
                    acc.places
                sawDigit := true }
              rest

/-
  The size of an exponent. Digits are counted until the
  value reaches ten thousand, which is beyond every number.
-/
def exponentSize : List Char → Nat → Nat
  | [], size => size
  | c :: rest, size =>
      match digitValue? 10 c with
      | none => exponentSize rest size
      | some d =>
          if size < 10000 then
            exponentSize rest (size * 10 + d)
          else
            exponentSize rest size

/-
  Read an exponent after its mark: an optional sign and
  digits, with underscores after the first digit.
-/
def readExponent? (cs : List Char) : Option Int :=
  let negative := cs.head? = some '-'
  let digits :=
    if negative ∨ cs.head? = some '+' then cs.tail else cs
  match digits with
  | [] => none
  | first :: rest =>
      if first.isDigit
          ∧ rest.all (fun c => c.isDigit || c == '_') then
        let size : Int := exponentSize digits 0
        some (if negative then -size else size)
      else
        none

------------------------------------------------------------
-- Underscores
------------------------------------------------------------

/- What stands before an underscore. -/
inductive Before where
  | start
  | digit
  | underscore
  | other
  deriving DecidableEq, Repr

/-
  Whether every underscore stands between two digits. The
  mark of a base counts as a digit.
-/
def separates
    (hex : Bool) : Before → List Char → Bool
  | before, [] => before != .underscore
  | before, c :: rest =>
      if (digitValue? (if hex then 16 else 10) c).isSome then
        separates hex .digit rest
      else if c = '_' then
        before == .digit && separates hex .underscore rest
      else
        before != .underscore && separates hex .other rest

/- Whether the underscores of an unsigned text separate. -/
def underscoresSeparate : List Char → Bool
  | '0' :: mark :: rest =>
      if mark.toLower = 'x' then
        separates true .digit rest
      else if mark.toLower = 'b' ∨ mark.toLower = 'o' then
        separates false .digit rest
      else
        separates false .start ('0' :: mark :: rest)
  | cs => separates false .start cs

------------------------------------------------------------
-- Whole Texts
------------------------------------------------------------

/- A sign in front of a text, and the text without it. -/
def readSign : List Char → Option Bool × List Char
  | '+' :: rest => (some false, rest)
  | '-' :: rest => (some true, rest)
  | cs => (none, cs)

/- The words for infinity and for what is not a number. -/
def readWord?
    (sign : Option Bool)
    (cs : List Char) : Option Number :=
  let word := String.ofList (cs.map Char.toLower)
  if word = "inf" ∨ word = "infinity" then
    some (infinity (sign = some true))
  else if word = "nan" ∧ sign = none then
    some nan
  else
    none

/- Digits without a sign, in base ten. -/
def readDecimal?
    (negative : Bool)
    (cs : List Char) : Option Number :=
  match readMantissa 10 .empty cs with
  | (mantissa, rest) =>
    let exponent? :=
      match rest with
      | [] => some 0
      | mark :: tail =>
          if mark.toLower = 'e' then
            readExponent? tail
          else
            none
    match exponent? with
    | none => none
    | some exponent =>
        if mantissa.sawDigit then
          let power := exponent - mantissa.places
          ofQuotient? negative
            (mantissa.value * Nat.pow 10 power.toNat)
            (Nat.pow 10 (-power).toNat)
        else
          none

/- Digits without a sign after the mark of base sixteen. -/
def readHexadecimal?
    (negative : Bool)
    (cs : List Char) : Option Number :=
  match readMantissa 16 .empty cs with
  | (mantissa, mark :: tail) =>
      if mark.toLower = 'p' ∧ mantissa.sawDigit = true then
        match readExponent? tail with
        | none => none
        | some exponent =>
            let power := exponent - 4 * mantissa.places
            ofQuotient? negative
              (mantissa.value * Nat.pow 2 power.toNat)
              (Nat.pow 2 (-power).toNat)
      else
        none
  | (_, []) => none

/-
  The number a text denotes. A text that is no number, or one
  too large for a number, denotes none.
-/
def ofText? (s : String) : Option Number :=
  match readSign s.toList with
  | (sign, cs) =>
    let negative := sign = some true
    match readWord? sign cs with
    | some x => some x
    | none =>
        if '_' ∈ cs ∧ underscoresSeparate cs = false then
          none
        else
          match cs with
          | '0' :: mark :: c :: rest =>
              if mark.toLower = 'x' then
                readHexadecimal? negative (c :: rest)
              else
                readDecimal? negative cs
          | _ => readDecimal? negative cs

end Number

end TemplateJsx
