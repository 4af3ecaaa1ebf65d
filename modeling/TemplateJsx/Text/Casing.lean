import TemplateJsx.Text.CaseTable

/-
  This file defines the two changes of case used for names:
  dashed names in camel case, and a capital first letter.

  Key definitions include:
    * `Text.isCamelInitial`
    * `Text.camelChars`
    * `Text.camelCase`
    * `Text.capitalize`
    * `Text.lowerText`
-/

------------------------------------------------------------
-- Camel Case
------------------------------------------------------------

namespace TemplateJsx

namespace Text

/- The characters that absorb the dashes before them. -/
def isCamelInitial (c : Char) : Bool :=
  c.isLower || c.isDigit

/-
  Camel case of a character list that follows `dashes`
  dashes. A run of dashes is dropped when a small ASCII
  letter or a digit follows it, and that character becomes a
  capital; any other run is kept in full.
-/
def camelChars : Nat → List Char → List Char
  | dashes, [] => List.replicate dashes '-'
  | dashes, c :: rest =>
      if c = '-' then
        camelChars (dashes + 1) rest
      else if dashes ≠ 0 ∧ isCamelInitial c = true then
        c.toUpper :: camelChars 0 rest
      else
        List.replicate dashes '-' ++ c :: camelChars 0 rest

/- `user-card` in camel case is `userCard`. -/
def camelCase (s : String) : String :=
  String.ofList (camelChars 0 s.toList)

------------------------------------------------------------
-- First Letter and Whole Texts
------------------------------------------------------------

/- The text with its first character in its capital form. -/
def capitalize (s : String) : String :=
  match s.toList with
  | [] => s
  | c :: rest => String.ofList (upperCase c :: rest)

/- The text with every character in its small form. -/
def lowerText (s : String) : String :=
  String.ofList (s.toList.map lowerCase)

end Text

end TemplateJsx
