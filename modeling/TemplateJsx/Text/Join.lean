/-
  This file defines splitting a text at a character and
  joining texts with a separator.

  Key definitions include:
    * `Text.splitChars`
    * `Text.splitAt`
    * `Text.joinWith`
    * `Text.concatAll`
-/

------------------------------------------------------------
-- Splitting
------------------------------------------------------------

namespace TemplateJsx

namespace Text

/-
  The runs between the occurrences of a character. There is
  one run more than there are occurrences, and runs may be
  empty.
-/
def splitChars (sep : Char) : List Char → List (List Char)
  | [] => [[]]
  | c :: rest =>
      if c = sep then
        [] :: splitChars sep rest
      else
        match splitChars sep rest with
        | [] => [[c]]
        | run :: runs => (c :: run) :: runs

/- The runs of a text between the occurrences of `sep`. -/
def splitAt
    (sep : Char)
    (s : String) : List String :=
  (splitChars sep s.toList).map String.ofList

------------------------------------------------------------
-- Joining
------------------------------------------------------------

/- The texts of a list with `sep` between neighbours. -/
def joinWith (sep : String) : List String → String
  | [] => ""
  | [s] => s
  | s :: t :: rest => s ++ (sep ++ joinWith sep (t :: rest))

/- The texts of a list, one after the other. -/
def concatAll : List String → String
  | [] => ""
  | s :: rest => s ++ concatAll rest

end Text

end TemplateJsx
