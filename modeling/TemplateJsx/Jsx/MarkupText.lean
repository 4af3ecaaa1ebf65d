import TemplateJsx.Jsx.Basic

/-
  This file defines how raw text becomes children of an
  element. Braces would start an expression, so each brace
  becomes a container with a one-character string, and the
  runs between them become text. Runs are kept even when
  they are empty.

  Key definitions include:
    * `Jsx.isBrace`
    * `Jsx.textChildrenFrom`
    * `Jsx.textChildren`
-/

------------------------------------------------------------
-- Braces in Text
------------------------------------------------------------

namespace TemplateJsx

namespace Jsx

/- The characters that open and close an expression. -/
def isBrace (c : Char) : Bool :=
  c == '\x7b' || c == '\x7d'

/- A brace as a child that prints as itself. -/
def braceChild (c : Char) : Child :=
  .container (.string c.toString)

/-
  The children for text that continues a run. The run holds
  its characters in reverse.
-/
def textChildrenFrom : List Char → List Char → List Child
  | run, [] => [.text (String.ofList run.reverse)]
  | run, c :: rest =>
      if isBrace c then
        .text (String.ofList run.reverse)
          :: braceChild c :: textChildrenFrom [] rest
      else
        textChildrenFrom (c :: run) rest

/- The children for raw text. -/
def textChildren (s : String) : List Child :=
  textChildrenFrom [] s.toList

end Jsx

end TemplateJsx
