import TemplateJsx.Jsx.Print

/-
  A comment cannot break out of its marks. Its end marks are
  broken up by a blank before it is printed. No end mark can
  come back where a broken one meets its neighbours, nor
  where the comment meets the mark that closes it, and
  nothing but end marks is changed.

  Key definitions include:
    * `Jsx.startMark`
    * `Jsx.endMark`
    * `Jsx.EndsAt`
    * `Jsx.joinEndMarks`
    * `Jsx.ClosesOnce`

  Main declarations:
    * `Jsx.length_le_of_endsAt`
    * `Jsx.joinEndMarks_breakEndMarks`
    * `Jsx.comment_closed_once`
-/

------------------------------------------------------------
-- Marks of Comments
------------------------------------------------------------

namespace TemplateJsx

namespace Jsx

/- What opens a comment. -/
def startMark : List Char :=
  ['/', '*']

/- What closes a comment. -/
def endMark : List Char :=
  ['*', '/']

/- An end mark is found in the text at a position. -/
def EndsAt
    (text : List Char)
    (i : Nat) : Prop :=
  endMark <+: text.drop i

instance (text : List Char) (i : Nat) :
    Decidable (EndsAt text i) := by
  unfold EndsAt
  infer_instance

/- The first position is told by the first two characters. -/
theorem endsAt_zero
    {c : Char}
    {text : List Char} :
    EndsAt (c :: text) 0 ↔ c = '*' ∧ text.head? = some '/' := by
  unfold EndsAt endMark
  rw [List.drop_zero, List.cons_prefix_cons,
    List.singleton_prefix_iff_head?_eq_some, eq_comm]

/- All others lie in what comes after. -/
theorem endsAt_succ
    {c : Char}
    {text : List Char}
    {i : Nat} :
    EndsAt (c :: text) (i + 1) ↔ EndsAt text i :=
  Iff.rfl

/- The mark that closes a comment is found behind it. -/
theorem endsAt_append
    (inside : List Char) :
    EndsAt (inside ++ endMark) inside.length := by
  refine ⟨[], ?_⟩
  rw [List.append_nil, List.drop_left]

------------------------------------------------------------
-- Broken End Marks
------------------------------------------------------------

/- Breaking up end marks keeps the first character. -/
theorem head?_breakEndMarks
    (cs : List Char) :
    (breakEndMarks cs).head? = cs.head? := by
  induction cs using breakEndMarks.fun_cases_unfolding with
  | case1 rest => rfl
  | case2 c rest hOther => rfl
  | case3 => rfl

/-
  A character and what is printed after it form an end mark
  only if it was one before.
-/
theorem not_endsAt_zero
    {c : Char}
    {rest : List Char}
    (hOther : ∀ after, c = '*' → rest = '/' :: after → False) :
    ¬ EndsAt (c :: (breakEndMarks rest ++ endMark)) 0 := by
  rw [endsAt_zero, List.head?_append, head?_breakEndMarks]
  rintro ⟨hStar, hSlash⟩
  cases rest with
  | nil => simp [endMark] at hSlash
  | cons d after =>
      have hSlash : d = '/' := by simpa using hSlash
      exact hOther after hStar (by rw [hSlash])

/-
  In front of the mark that closes the comment no end mark
  is left. The induction follows the breaking: after a broken
  mark and after a character that starts none, the search
  goes on in the rest.
-/
theorem length_le_of_endsAt
    (cs : List Char) :
    ∀ i, EndsAt (breakEndMarks cs ++ endMark) i →
      (breakEndMarks cs).length ≤ i := by
  induction cs using breakEndMarks.induct with
  | case1 rest ih =>
      intro i hEnds
      rw [breakEndMarks] at hEnds ⊢
      rcases i with _ | _ | _ | i
      · simp [endsAt_zero] at hEnds
      · simp [endsAt_succ, endsAt_zero] at hEnds
      · simp [endsAt_succ, endsAt_zero] at hEnds
      · have hRest := ih i hEnds
        simpa using hRest
  | case2 c rest hOther ih =>
      intro i hEnds
      rw [breakEndMarks.eq_2 c rest hOther] at hEnds ⊢
      rcases i with _ | i
      · exact absurd hEnds (not_endsAt_zero hOther)
      · have hRest := ih i hEnds
        simpa using hRest
  | case3 =>
      intro i _
      exact Nat.zero_le i

------------------------------------------------------------
-- Marks Joined Again
------------------------------------------------------------

/- A text with every broken end mark joined. -/
def joinEndMarks : List Char → List Char
  | '*' :: ' ' :: '/' :: rest => '*' :: '/' :: joinEndMarks rest
  | c :: rest => c :: joinEndMarks rest
  | [] => []

/-
  Whether a character starts a broken mark depends on the
  two that follow it, and joining them takes the first of
  these away.
-/
theorem joinEndMarks_cons
    (c : Char)
    (rest : List Char) :
    joinEndMarks (c :: rest) =
      if c = '*' ∧ [' ', '/'] <+: rest then
        c :: (joinEndMarks rest).tail
      else
        c :: joinEndMarks rest := by
  by_cases hBroken : c = '*' ∧ [' ', '/'] <+: rest
  · rw [if_pos hBroken]
    rcases hBroken with ⟨rfl, ⟨after, rfl⟩⟩
    simp [joinEndMarks]
  · rw [if_neg hBroken, joinEndMarks]
    rintro after hStar rfl
    exact hBroken ⟨hStar, after, rfl⟩

/- Breaking up end marks leaves blanks and slashes alone. -/
theorem prefix_breakEndMarks_iff
    (cs : List Char) :
    [' ', '/'] <+: breakEndMarks cs ↔ [' ', '/'] <+: cs := by
  induction cs using breakEndMarks.fun_cases_unfolding with
  | case1 rest => simp
  | case2 c rest hOther =>
      rw [List.cons_prefix_cons, List.cons_prefix_cons,
        List.singleton_prefix_iff_head?_eq_some,
        List.singleton_prefix_iff_head?_eq_some,
        head?_breakEndMarks]
  | case3 => simp

theorem joinEndMarks_breakEndMarks
    (cs : List Char) :
    joinEndMarks (breakEndMarks cs) = joinEndMarks cs := by
  induction cs using breakEndMarks.induct with
  | case1 rest ih =>
      rw [breakEndMarks, joinEndMarks, ih]
      simp [joinEndMarks_cons]
  | case2 c rest hOther ih =>
      rw [breakEndMarks.eq_2 c rest hOther, joinEndMarks_cons,
        joinEndMarks_cons, ih]
      simp only [prefix_breakEndMarks_iff]
  | case3 => rfl

------------------------------------------------------------
-- Printed Comments
------------------------------------------------------------

/-
  A text that is one comment: it stands between its marks,
  and the first end mark behind the start mark is the last
  two characters.
-/
structure ClosesOnce
    (text : List Char)
    (inside : List Char) : Prop where
  marked : text = startMark ++ inside ++ endMark
  ends : EndsAt text (inside.length + 2)
  first : ∀ i, 2 ≤ i → EndsAt text i → inside.length + 2 ≤ i

/- A comment with its end marks broken up is one comment. -/
theorem closesOnce_breakEndMarks
    (cs : List Char) :
    ClosesOnce (startMark ++ breakEndMarks cs ++ endMark)
      (breakEndMarks cs) where
  marked := rfl
  ends := endsAt_append (breakEndMarks cs)
  first := by
    intro i hBehind hEnds
    rcases Nat.exists_eq_add_of_le' hBehind with ⟨j, rfl⟩
    have hFirst := length_le_of_endsAt cs j hEnds
    exact Nat.add_le_add_right hFirst 2

/-
  No comment breaks out of its marks, and nothing but end
  marks is changed in it: once broken end marks are joined,
  what is printed does not differ from the comment.
-/
theorem comment_closed_once
    (comment : String)
    (hComment : comment ≠ "") :
    ∃ inside,
      ClosesOnce (Expr.empty comment).print.toList inside ∧
        joinEndMarks inside = joinEndMarks comment.toList := by
  refine ⟨breakEndMarks comment.toList, ?_,
    joinEndMarks_breakEndMarks comment.toList⟩
  have hPrint :
      (Expr.empty comment).print.toList =
        startMark ++ breakEndMarks comment.toList
          ++ endMark := by
    rw [Expr.print, printComment, if_neg hComment]
    simp [startMark, endMark]
  rw [hPrint]
  exact closesOnce_breakEndMarks comment.toList

/- Stars and slashes touch both marks and each other. -/
theorem comment_closed_once_touching :
    (Expr.empty "/**//*").print = "/*/** //**/" ∧
      ∃ inside,
        ClosesOnce (Expr.empty "/**//*").print.toList inside ∧
          joinEndMarks inside =
            joinEndMarks "/**//*".toList :=
  ⟨by decide, comment_closed_once "/**//*" (by decide)⟩

end Jsx

end TemplateJsx
