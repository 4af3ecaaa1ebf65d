/-
  This file defines which scalars of a document are dates,
  alone or with a time of day. Only whether a scalar is one
  matters, so no value is computed.

  Key definitions include:
    * `Document.isTimestamp`
-/

------------------------------------------------------------
-- Parts of Timestamps
------------------------------------------------------------

namespace TemplateJsx

namespace Document

namespace Timestamp

/- A number of one or two digits, as many as there are. -/
def short? : List Char → Option (Nat × List Char)
  | a :: b :: rest =>
      if a.isDigit then
        let tens := a.toNat - '0'.toNat
        if b.isDigit then
          some (tens * 10 + (b.toNat - '0'.toNat), rest)
        else
          some (tens, b :: rest)
      else
        none
  | [a] =>
      if a.isDigit then
        some (a.toNat - '0'.toNat, [])
      else
        none
  | [] => none

/- A number of four digits. -/
def year? (cs : List Char) : Option (Nat × List Char) := do
  let (high, rest) ← short? cs
  let (low, rest) ← short? rest
  let used := cs.length - rest.length
  if used = 4 then some (high * 100 + low, rest) else none

/- The rest after a character that has to stand here. -/
def after?
    (c : Char) : List Char → Option (List Char)
  | [] => none
  | d :: rest => if c = d then some rest else none

/- Whether a year has a day more in February. -/
def isLeap (year : Nat) : Bool :=
  year % 4 == 0 && (year % 100 != 0 || year % 400 == 0)

/- The days of a month. -/
def daysIn (year : Nat) (month : Nat) : Nat :=
  if month = 2 then
    if isLeap year then 29 else 28
  else if month ∈ [4, 6, 9, 11] then
    30
  else
    31

/- The rest after a date that exists. -/
def date? (cs : List Char) : Option (List Char) := do
  let (year, rest) ← year? cs
  let (month, rest) ← short? (← after? '-' rest)
  let (day, rest) ← short? (← after? '-' rest)
  if 1 ≤ month ∧ month ≤ 12 ∧ 1 ≤ day
      ∧ day ≤ daysIn year month then
    some rest
  else
    none

/- The rest after digits behind a point, if there are any. -/
def afterFraction : List Char → List Char
  | point :: c :: rest =>
      if (point = '.' ∨ point = ',') ∧ c.isDigit then
        rest.dropWhile Char.isDigit
      else
        point :: c :: rest
  | cs => cs

/- The rest after hours, minutes and seconds. -/
def time? (cs : List Char) : Option (List Char) := do
  let (hour, rest) ← short? cs
  let (minute, rest) ← short? (← after? ':' rest)
  let (second, rest) ← short? (← after? ':' rest)
  if hour < 24 ∧ minute < 60 ∧ second < 60 then
    some (afterFraction rest)
  else
    none

/- Whether the text is a time zone. -/
def isZone : List Char → Bool
  | ['Z'] => true
  | [sign, a, b, ':', c, d] =>
      let zone := do
        let (hours, _) ← short? [a, b]
        let (minutes, _) ← short? [c, d]
        some (decide (hours ≤ 24 ∧ minutes ≤ 60))
      (sign == '+' || sign == '-')
        && [a, b, c, d].all Char.isDigit
        && zone == some true
  | _ => false

/- Whether a time of day follows, and nothing else. -/
def isTime : List Char → Bool
  | 'T' :: rest => (time? rest).any isZone
  | 't' :: rest => (time? rest).any isZone
  | ' ' :: rest =>
      (time? (rest.dropWhile (· == ' '))).any List.isEmpty
  | _ => false

end Timestamp

------------------------------------------------------------
-- Timestamps
------------------------------------------------------------

/-
  Whether a text is a date, or a date with a time of day. A
  time after a `T` has a zone, one after blanks has none.
-/
def isTimestamp (text : String) : Bool :=
  match Timestamp.date? text.toList with
  | none => false
  | some [] => true
  | some rest => Timestamp.isTime rest

end Document

end TemplateJsx
