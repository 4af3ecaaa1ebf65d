import TemplateJsx.Text.Identifier

/-
  This file defines how texts are quoted in printed source:
  as string literals in single quotes, or bare where a legal
  name may stand for itself.

  Key definitions include:
    * `Jsx.escapeChar`
    * `Jsx.escapeChars`
    * `Jsx.singleQuoted`
    * `Jsx.nameOrQuoted`
-/

------------------------------------------------------------
-- Escapes
------------------------------------------------------------

namespace TemplateJsx

namespace Jsx

/-
  A character inside single quotes. The quote, the backslash
  and the two line ends are escaped, and the dollar sign on
  request.
-/
def escapeChar
    (escapeDollar : Bool)
    (c : Char) : List Char :=
  if c = '\n' then
    ['\\', 'n']
  else if c = '\r' then
    ['\\', 'r']
  else if c = '\'' ∨ c = '\\' then
    ['\\', c]
  else if c = '$' ∧ escapeDollar = true then
    ['\\', '$']
  else
    [c]

/- The characters of a text inside single quotes. -/
def escapeChars
    (escapeDollar : Bool)
    (cs : List Char) : List Char :=
  cs.flatMap (escapeChar escapeDollar)

------------------------------------------------------------
-- Literals
------------------------------------------------------------

/- A text as a string literal. -/
def singleQuoted
    (escapeDollar : Bool)
    (s : String) : String :=
  String.ofList
    ('\'' :: (escapeChars escapeDollar s.toList ++ ['\'']))

/-
  A text as a name where it is one after escaping, and as a
  string literal elsewhere. The empty text stays empty.
-/
def nameOrQuoted
    (escapeDollar : Bool)
    (s : String) : String :=
  if s = "" then
    ""
  else if Text.isName (escapeChars escapeDollar s.toList) then
    String.ofList (escapeChars escapeDollar s.toList)
  else
    singleQuoted escapeDollar s

end Jsx

end TemplateJsx
