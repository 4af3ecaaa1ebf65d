/-
  This file defines positions in the text of a document, the
  classes of characters its notation distinguishes, and the
  errors of texts that follow no notation.

  Key definitions include:
    * `Document.Mark`
    * `Document.isBlank`
    * `Document.isBreak`
    * `Document.isAllowed`
    * `Document.isDocumentMark`
    * `Document.SyntaxError`
    * `Document.SyntaxError.message`
-/

------------------------------------------------------------
-- Positions
------------------------------------------------------------

namespace TemplateJsx

namespace Document

/- A position in a text, all its counts starting at zero. -/
structure Mark where
  index : Nat
  line : Nat
  column : Nat
  deriving DecidableEq, Repr

namespace Mark

/- The position where a text starts. -/
def start : Mark :=
  ⟨0, 0, 0⟩

/- The position after a character. -/
def next (m : Mark) : Mark :=
  ⟨m.index + 1, m.line, m.column + 1⟩

/- The start of the next line, some characters later. -/
def nextLine (m : Mark) (width : Nat) : Mark :=
  ⟨m.index + width, m.line + 1, 0⟩

end Mark

------------------------------------------------------------
-- Characters
------------------------------------------------------------

/- Blanks within a line. -/
def isBlank (c : Char) : Bool :=
  c == ' ' || c == '\t'

/- Line breaks. A carriage return and a line feed are one. -/
def isBreak (c : Char) : Bool :=
  c == '\n' || c == '\r' || c == '\x85' || c == '\u2028'
    || c == '\u2029'

/- Whether a word has ended before these characters. -/
def endsWord : List Char → Bool
  | [] => true
  | c :: _ => isBlank c || isBreak c

/- The characters a document may contain. -/
def isAllowed (c : Char) : Bool :=
  let code := c.toNat
  code == 0x09 || code == 0x0A || code == 0x0D
    || (0x20 ≤ code && code ≤ 0x7E)
    || code == 0x85
    || (0xA0 ≤ code && code ≤ 0xFFFD)
    || 0x10000 ≤ code

/- Whether a line starts with a mark between documents. -/
def isDocumentMark : List Char → Bool
  | '-' :: '-' :: '-' :: rest => endsWord rest
  | '.' :: '.' :: '.' :: rest => endsWord rest
  | _ => false

------------------------------------------------------------
-- Errors
------------------------------------------------------------

/-
  Why a text is no document, with the number of a line to
  show, or zero.
-/
structure SyntaxError where
  line : Nat
  problem : String
  deriving DecidableEq, Repr

namespace SyntaxError

/- The wording of an error. -/
def message (e : SyntaxError) : String :=
  let place :=
    if e.line = 0 then "" else "line " ++ e.line.repr ++ ": "
  "yaml: " ++ place ++ e.problem

/-
  An error among characters. It is shown at the line of the
  construct it belongs to, and else at its own; the first
  line is not shown.
-/
def inText
    (context : Mark)
    (place : Mark)
    (problem : String) : SyntaxError :=
  if context.line ≠ 0 then
    ⟨context.line + 1, problem⟩
  else if place.line ≠ 0 then
    ⟨place.line + 1, problem⟩
  else
    ⟨0, problem⟩

/- An error among tokens, shown at the line before. -/
def inTokens
    (context : Mark)
    (place : Mark)
    (problem : String) : SyntaxError :=
  if context.line ≠ 0 then
    ⟨context.line, problem⟩
  else
    ⟨place.line, problem⟩

end SyntaxError

end Document

end TemplateJsx
