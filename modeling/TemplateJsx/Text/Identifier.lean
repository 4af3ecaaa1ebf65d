/-
  This file defines the names that may be written unquoted
  in printed source, as property names and object keys.

  Key definitions include:
    * `Text.isNameStart`
    * `Text.isNameRest`
    * `Text.isName`
    * `Text.IsLegalName`
-/

------------------------------------------------------------
-- Legal Names
------------------------------------------------------------

namespace TemplateJsx

namespace Text

/-
  The characters a name may start with: the letters `a` to
  `z` in either case, `_` and `$`. Case is compared by
  folding, so the long s U+017F and the Kelvin sign U+212A,
  which fold to `s` and `k`, count as letters too.
-/
def isNameStart (c : Char) : Bool :=
  c.isAlpha || c == '_' || c == '$'
    || c == '\u017f' || c == '\u212a'

/- The characters that may follow in a name. -/
def isNameRest (c : Char) : Bool :=
  isNameStart c || c.isDigit

/- Whether a character list is a name. -/
def isName : List Char → Bool
  | [] => false
  | c :: rest => isNameStart c && rest.all isNameRest

/- A text that may stand unquoted as a property name. -/
def IsLegalName (s : String) : Prop :=
  isName s.toList = true

instance (s : String) : Decidable (IsLegalName s) := by
  unfold IsLegalName
  infer_instance

end Text

end TemplateJsx
