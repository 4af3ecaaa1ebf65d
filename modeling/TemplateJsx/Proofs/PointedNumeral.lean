import TemplateJsx.Jsx.Print
import TemplateJsx.Proofs.Numeral

/-
  Numerals in front of a point. A numeral is read as far as
  it goes, its point included, so that a property of a number
  is read as one only behind brackets or behind a second
  point. No brackets are printed around numbers, and what is
  printed is therefore misread unless the numeral has a point
  already and no sign.

  Key definitions include:
    * `Jsx.splitLongest`
    * `Jsx.ReadsAccess`

  Main declarations:
    * `Jsx.splitLongest_whole_ne`
    * `Jsx.splitLongest_pointed`
    * `Jsx.print_cases`
    * `Jsx.readsAccess_print_iff`
-/

------------------------------------------------------------
-- Longest Numerals
------------------------------------------------------------

namespace TemplateJsx

namespace Jsx

/-
  The longest numeral at the start of a text, with what comes
  after it. A point belongs to the numeral even if no digit
  follows. There is no sign in a numeral: a sign is an
  operator, and binds less tightly than an access.
-/
def splitLongest (cs : List Char) : List Char × List Char :=
  match cs.dropWhile Char.isDigit with
  | '.' :: rest =>
      (cs.takeWhile Char.isDigit
          ++ '.' :: rest.takeWhile Char.isDigit,
        rest.dropWhile Char.isDigit)
  | rest => (cs.takeWhile Char.isDigit, rest)

/- Digits and a point are a numeral, whatever comes next. -/
theorem splitLongest_point
    {whole : List Char}
    (rest : List Char)
    (hWhole : ∀ c ∈ whole, c.isDigit = true) :
    splitLongest (whole ++ '.' :: rest) =
      (whole ++ '.' :: rest.takeWhile Char.isDigit,
        rest.dropWhile Char.isDigit) := by
  have hPoint : Char.isDigit '.' = false := by decide
  unfold splitLongest
  rw [List.dropWhile_append_of_pos hWhole,
    List.takeWhile_append_of_pos hWhole]
  simp [hPoint]

/- What starts with neither a digit nor a point is no numeral. -/
theorem splitLongest_other
    {c : Char}
    (rest : List Char)
    (hDigit : c.isDigit = false)
    (hPoint : c ≠ '.') :
    splitLongest (c :: rest) = ([], c :: rest) := by
  have hDrop : (c :: rest).dropWhile Char.isDigit = c :: rest := by
    simp [hDigit]
  have hTake : (c :: rest).takeWhile Char.isDigit = [] := by
    simp [hDigit]
  unfold splitLongest
  rw [hDrop, hTake]
  split
  · rename_i hStart
    exact absurd (List.cons.inj hStart).1 hPoint
  · rfl

/- A numeral without a point takes the point of the access. -/
theorem splitLongest_whole_ne
    {whole : List Char}
    (rest : List Char)
    (hWhole : ∀ c ∈ whole, c.isDigit = true) :
    splitLongest (whole ++ '.' :: rest) ≠
      (whole, '.' :: rest) := by
  rw [splitLongest_point rest hWhole]
  intro hSame
  have hLength := congrArg List.length (Prod.mk.inj hSame).1
  simp at hLength

/- A numeral with a point leaves the access alone. -/
theorem splitLongest_pointed
    {whole after : List Char}
    (rest : List Char)
    (hWhole : ∀ c ∈ whole, c.isDigit = true)
    (hAfter : ∀ c ∈ after, c.isDigit = true) :
    splitLongest (whole ++ '.' :: (after ++ '.' :: rest)) =
      (whole ++ '.' :: after, '.' :: rest) := by
  have hPoint : Char.isDigit '.' = false := by decide
  rw [splitLongest_point _ hWhole,
    List.takeWhile_append_of_pos hAfter,
    List.dropWhile_append_of_pos hAfter]
  simp [hPoint]

------------------------------------------------------------
-- Printed Numbers
------------------------------------------------------------

/-
  Without a point in it, a magnitude has nothing after its
  digits; with one, it has digits on both sides.
-/
theorem printMagnitude_cases
    (x : Number) :
    ('.' ∉ Number.printMagnitude x ∧
        ∀ c ∈ Number.printMagnitude x, c.isDigit = true) ∨
      ∃ whole after,
        Number.printMagnitude x = whole ++ '.' :: after ∧
          (∀ c ∈ whole, c.isDigit = true) ∧
          ∀ c ∈ after, c.isDigit = true := by
  rcases Number.printMagnitude_denotes x with
    ⟨d, whole, after, _, hDenotes⟩
  rw [hDenotes.text]
  unfold Number.pointed
  by_cases hNone : after = []
  · rw [if_pos hNone]
    refine Or.inl ⟨?_, hDenotes.digits_whole⟩
    intro hPoint
    have hDigit := hDenotes.digits_whole '.' hPoint
    exact absurd hDigit (by decide)
  · rw [if_neg hNone]
    exact Or.inr ⟨whole, after, rfl, hDenotes.digits_whole,
      hDenotes.digits_after⟩

/-
  A number that does not start with a digit is printed with
  a sign, or is no finite number.
-/
theorem print_cases
    (x : Number) :
    (x.negative = false ∧
        x.print.toList = Number.printMagnitude x) ∨
      ((x.negative = true ∨ '.' ∉ x.print.toList) ∧
        ∃ c rest, x.print.toList = c :: rest ∧
          c.isDigit = false ∧ c ≠ '.' ∧ c ≠ '(') := by
  by_cases hFinite : x.IsFinite
  · rw [Number.toList_print hFinite]
    cases hSign : x.negative with
    | false =>
        rw [if_neg Bool.false_ne_true]
        exact Or.inl ⟨rfl, rfl⟩
    | true =>
        rw [if_pos rfl]
        exact Or.inr ⟨Or.inl rfl, '-', _, rfl, by decide⟩
  · refine Or.inr ?_
    unfold Number.print
    rw [if_neg hFinite]
    by_cases hNaN : x.IsNaN
    · rw [if_pos hNaN]
      exact ⟨Or.inr (by decide), 'N', ['a', 'N'], by decide⟩
    · rw [if_neg hNaN]
      by_cases hSign : x.negative = true
      · rw [if_pos hSign]
        exact ⟨Or.inl hSign, '-', ['I', 'n', 'f'], by decide⟩
      · rw [if_neg hSign]
        exact ⟨Or.inr (by decide), '+', ['I', 'n', 'f'],
          by decide⟩

/- No number is printed with a bracket in front. -/
theorem print_ne_bracket
    (x : Number)
    (rest : List Char) :
    x.print.toList ≠ '(' :: rest := by
  intro hBracket
  rcases print_cases x with
    ⟨_, hPrint⟩ | ⟨_, c, others, hPrint, _, _, hOther⟩
  · rcases Number.printMagnitude_eq_cons x with
      ⟨c, others, hStart, hDigit⟩
    rw [hPrint, hStart] at hBracket
    rw [(List.cons.inj hBracket).1] at hDigit
    exact absurd hDigit (by decide)
  · rw [hPrint] at hBracket
    exact hOther (List.cons.inj hBracket).1

------------------------------------------------------------
-- Properties of Numbers
------------------------------------------------------------

/-
  A text that is read as an access to a property of a number:
  the number stands in brackets, or the longest numeral is
  the number and the access comes after it.
-/
def ReadsAccess
    (text : String)
    (x : Number)
    (property : String) : Prop :=
  text = parenthesize x.print ++ printAccess property ∨
    splitLongest text.toList =
      (x.print.toList, (printAccess property).toList)

/- A property of a number is printed without brackets. -/
theorem print_member_number
    (x : Number)
    (property : String) :
    (Expr.member (.number x) property).print =
      x.print ++ printAccess property := by
  rw [Expr.print, Expr.print]
  rfl

/-
  What is printed of a property of a number is read as such
  exactly if the number has no sign and a point.
-/
theorem readsAccess_print_iff
    {property : String}
    (x : Number)
    (hName : Text.IsLegalName property) :
    ReadsAccess (Expr.member (.number x) property).print x
        property ↔
      x.negative = false ∧ '.' ∈ x.print.toList := by
  have hAccess :
      (printAccess property).toList = '.' :: property.toList := by
    rw [printAccess, if_pos hName, String.toList_append]
    rfl
  have hBracket :
      x.print ++ printAccess property ≠
        parenthesize x.print ++ printAccess property := by
    intro hSame
    have hList := congrArg String.toList hSame
    rw [String.toList_append, String.toList_append] at hList
    have hPrint := List.append_cancel_right hList
    rw [parenthesize, String.toList_append,
      String.toList_append] at hPrint
    exact print_ne_bracket x _ hPrint
  rw [ReadsAccess, print_member_number,
    or_iff_right hBracket, String.toList_append, hAccess]
  rcases print_cases x with
    ⟨hSign, hPrint⟩ | ⟨hNone, c, rest, hPrint, hDigit, hPoint, _⟩
  · rw [hPrint, and_iff_right hSign]
    rcases printMagnitude_cases x with
      ⟨hNone, hDigits⟩ | ⟨whole, after, hText, hWhole, hAfter⟩
    · exact iff_of_false (splitLongest_whole_ne _ hDigits) hNone
    · rw [hText]
      refine iff_of_true ?_ (by simp)
      rw [List.append_assoc]
      exact splitLongest_pointed _ hWhole hAfter
  · refine iff_of_false ?_ ?_
    · rw [hPrint, List.cons_append,
        splitLongest_other _ hDigit hPoint]
      intro hSame
      cases (Prod.mk.inj hSame).1
    · rintro ⟨hSign, hMember⟩
      rcases hNone with hNegative | hNone
      · rw [hSign] at hNegative
        cases hNegative
      · exact hNone hMember

end Jsx

end TemplateJsx
