import TemplateJsx.Text.Printable
import TemplateJsx.Text.Join

/-
  This file defines the quoted form in which diagnostics
  show a text or a character: the well-known controls, the
  quote and the backslash are escaped by a letter, and every
  unprintable code point is shown by its number.

  Key definitions include:
    * `Text.hexPadded`
    * `Text.escapeChar`
    * `Text.quoted`
    * `Text.quotedChar`
-/

------------------------------------------------------------
-- Escapes
------------------------------------------------------------

namespace TemplateJsx

namespace Text

/- A number in small hexadecimal, at least `width` digits. -/
def hexPadded
    (width : Nat)
    (n : Nat) : String :=
  let digits := Nat.toDigits 16 n
  String.ofList
    (List.replicate (width - digits.length) '0' ++ digits)

/-
  A character inside quotes of the given kind. Code points
  below 128 that are not printable take two digits, others
  four, and those beyond U+FFFF eight.
-/
def escapeChar
    (quote : Char)
    (c : Char) : String :=
  if c = quote ∨ c = '\\' then
    String.ofList ['\\', c]
  else if isPrintable c then
    c.toString
  else if c.toNat = 7 then "\\a"
  else if c.toNat = 8 then "\\b"
  else if c.toNat = 9 then "\\t"
  else if c.toNat = 10 then "\\n"
  else if c.toNat = 11 then "\\v"
  else if c.toNat = 12 then "\\f"
  else if c.toNat = 13 then "\\r"
  else if c.toNat < 0x80 then
    "\\x" ++ hexPadded 2 c.toNat
  else if c.toNat < 0x10000 then
    "\\u" ++ hexPadded 4 c.toNat
  else
    "\\U" ++ hexPadded 8 c.toNat

------------------------------------------------------------
-- Quoted Texts
------------------------------------------------------------

/- A text in double quotes. -/
def quoted (s : String) : String :=
  "\"" ++ concatAll (s.toList.map (escapeChar '"')) ++ "\""

/- A character in single quotes. -/
def quotedChar (c : Char) : String :=
  "'" ++ escapeChar '\'' c ++ "'"

end Text

end TemplateJsx
