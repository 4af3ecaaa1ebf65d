import TemplateJsx.Jsx.MarkupText
import TemplateJsx.Text.Join

/-
  The division of raw text at its braces. Text is divided
  into runs without braces and the single braces between
  them, with a run at both ends and between neighbouring
  braces even where it is empty. There is exactly one such
  division of a text.

  Key definitions include:
    * `Jsx.Child.value`
    * `Jsx.IsBraceDivision`
    * `Jsx.Divides`

  Main declarations:
    * `Jsx.isBraceDivision_cons_cons_iff`
    * `Jsx.divides_textChildrenFrom`
    * `Jsx.Divides.eq_textChildren`
    * `Jsx.textChildren_unique_division`
-/

------------------------------------------------------------
-- Divisions
------------------------------------------------------------

namespace TemplateJsx

namespace Jsx

namespace Child

/- Text without braces. -/
def IsRun (child : Child) : Prop :=
  ∃ text, child = .text text ∧
    '\x7b' ∉ text.toList ∧ '\x7d' ∉ text.toList

/- A container with one brace as a text. -/
def HoldsBrace (child : Child) : Prop :=
  ∃ brace, child = .container (.string brace) ∧
    (brace = "\x7b" ∨ brace = "\x7d")

/- The raw text that a run or a brace stands for. -/
def value : Child → String
  | .text value => value
  | .container (.string value) => value
  | _ => ""

end Child

/- The raw text that children stand for. -/
def rawText (children : List Child) : String :=
  Text.concatAll (children.map Child.value)

/-
  Children that are runs and braces in turn. A run stands at
  every even place, the first and the last included.
-/
structure IsBraceDivision (children : List Child) : Prop where
  odd : children.length % 2 = 1
  runs : ∀ (i : Nat) (child : Child),
    children[i]? = some child → i % 2 = 0 → child.IsRun
  braces : ∀ (i : Nat) (child : Child),
    children[i]? = some child → i % 2 = 1 → child.HoldsBrace

theorem not_isBraceDivision_nil :
    ¬ IsBraceDivision [] := by
  intro hDivision
  exact absurd hDivision.odd (by decide)

theorem isBraceDivision_singleton_iff
    (child : Child) :
    IsBraceDivision [child] ↔ child.IsRun := by
  constructor
  · intro hDivision
    exact hDivision.runs 0 child rfl rfl
  · intro hRun
    refine ⟨rfl, ?_, ?_⟩
    · intro i other hPlace _
      rw [List.getElem?_singleton] at hPlace
      split at hPlace
      · cases hPlace
        exact hRun
      · cases hPlace
    · intro i other hPlace hOdd
      rw [List.getElem?_singleton] at hPlace
      split at hPlace
      · omega
      · cases hPlace

/- After a run and a brace the places start anew. -/
theorem isBraceDivision_cons_cons_iff
    (first second : Child)
    (rest : List Child) :
    IsBraceDivision (first :: second :: rest) ↔
      first.IsRun ∧ second.HoldsBrace ∧ IsBraceDivision rest := by
  constructor
  · intro hDivision
    have hOdd := hDivision.odd
    refine ⟨hDivision.runs 0 first rfl rfl,
      hDivision.braces 1 second rfl rfl, ?_, ?_, ?_⟩
    · rw [List.length_cons, List.length_cons] at hOdd
      omega
    · intro i child hPlace hEven
      exact hDivision.runs (i + 2) child hPlace (by omega)
    · intro i child hPlace hPlaceOdd
      exact hDivision.braces (i + 2) child hPlace (by omega)
  · rintro ⟨hRun, hBrace, hRest⟩
    have hOdd := hRest.odd
    refine ⟨?_, ?_, ?_⟩
    · rw [List.length_cons, List.length_cons]
      omega
    · intro i child hPlace hEven
      rcases i with _ | _ | i
      · cases hPlace
        exact hRun
      · omega
      · exact hRest.runs i child hPlace (by omega)
    · intro i child hPlace hPlaceOdd
      rcases i with _ | _ | i
      · omega
      · cases hPlace
        exact hBrace
      · exact hRest.braces i child hPlace (by omega)

------------------------------------------------------------
-- Divisions from the Left
------------------------------------------------------------

/- Children divide a text, from the left. -/
inductive Divides : List Child → List Char → Prop
  | run
      {cs : List Char}
      (hPlain : ∀ c ∈ cs, isBrace c = false) :
      Divides [.text (String.ofList cs)] cs
  | brace
      {cs rest : List Char}
      {c : Char}
      {children : List Child}
      (hPlain : ∀ c ∈ cs, isBrace c = false)
      (hBrace : isBrace c = true)
      (hRest : Divides children rest) :
      Divides (.text (String.ofList cs) :: braceChild c :: children)
        (cs ++ c :: rest)

theorem isBrace_iff
    (c : Char) :
    isBrace c = true ↔ c = '\x7b' ∨ c = '\x7d' := by
  unfold isBrace
  rw [Bool.or_eq_true, beq_iff_eq, beq_iff_eq]

theorem isRun_text_iff
    (text : String) :
    (Child.text text).IsRun ↔
      ∀ c ∈ text.toList, isBrace c = false := by
  constructor
  · rintro ⟨text, hText, hOpening, hClosing⟩ c hMember
    cases hText
    rw [Bool.eq_false_iff, Ne, isBrace_iff]
    rintro (rfl | rfl)
    · exact hOpening hMember
    · exact hClosing hMember
  · intro hPlain
    refine ⟨text, rfl, ?_, ?_⟩
    · exact fun hMember => absurd (hPlain _ hMember) (by decide)
    · exact fun hMember => absurd (hPlain _ hMember) (by decide)

theorem holdsBrace_braceChild
    {c : Char}
    (hBrace : isBrace c = true) :
    (braceChild c).HoldsBrace := by
  refine ⟨c.toString, rfl, ?_⟩
  rcases (isBrace_iff c).mp hBrace with rfl | rfl
  · exact .inl rfl
  · exact .inr rfl

theorem Child.HoldsBrace.eq_braceChild
    {child : Child}
    (hHolds : child.HoldsBrace) :
    ∃ c, isBrace c = true ∧ child = braceChild c := by
  rcases hHolds with ⟨brace, rfl, rfl | rfl⟩
  · exact ⟨'\x7b', rfl, rfl⟩
  · exact ⟨'\x7d', rfl, rfl⟩

theorem rawText_cons
    (child : Child)
    (rest : List Child) :
    rawText (child :: rest) = child.value ++ rawText rest :=
  rfl

namespace Divides

variable {children : List Child}
variable {cs : List Char}

theorem isBraceDivision
    (hDivides : Divides children cs) :
    IsBraceDivision children := by
  induction hDivides with
  | run hPlain =>
      rw [isBraceDivision_singleton_iff, isRun_text_iff,
        String.toList_ofList]
      exact hPlain
  | brace hPlain hBrace _ ih =>
      rw [isBraceDivision_cons_cons_iff, isRun_text_iff,
        String.toList_ofList]
      exact ⟨hPlain, holdsBrace_braceChild hBrace, ih⟩

/- Nothing of the text is left out. -/
theorem toList_rawText
    (hDivides : Divides children cs) :
    (rawText children).toList = cs := by
  induction hDivides with
  | run hPlain =>
      rw [rawText_cons, String.toList_append, Child.value,
        String.toList_ofList]
      exact List.append_nil _
  | @brace cs rest c children hPlain hBrace _ ih =>
      have hChar : (braceChild c).value.toList = [c] := by
        simp [braceChild, Child.value]
      rw [rawText_cons, rawText_cons, String.toList_append,
        String.toList_append, Child.value, String.toList_ofList,
        hChar, ih, List.singleton_append]

/- Each brace brings two children. -/
theorem length_eq
    (hDivides : Divides children cs) :
    children.length =
      2 * (cs.count '\x7b' + cs.count '\x7d') + 1 := by
  have hNone
      {cs : List Char}
      (hPlain : ∀ c ∈ cs, isBrace c = false) :
      cs.count '\x7b' = 0 ∧ cs.count '\x7d' = 0 := by
    rw [List.count_eq_zero, List.count_eq_zero]
    exact ⟨fun hMember => absurd (hPlain _ hMember) (by decide),
      fun hMember => absurd (hPlain _ hMember) (by decide)⟩
  induction hDivides with
  | run hPlain =>
      rw [(hNone hPlain).1, (hNone hPlain).2]
      rfl
  | brace hPlain hBrace _ ih =>
      rw [List.length_cons, List.length_cons, ih,
        List.count_append, List.count_append, (hNone hPlain).1,
        (hNone hPlain).2, List.count_cons, List.count_cons]
      rcases (isBrace_iff _).mp hBrace with rfl | rfl
      · rw [if_pos (by decide), if_neg (by decide)]
        omega
      · rw [if_neg (by decide), if_pos (by decide)]
        omega

end Divides

/- Runs and braces in turn divide the text they stand for. -/
theorem divides_rawText :
    ∀ {children : List Child},
      IsBraceDivision children →
      Divides children (rawText children).toList
  | [], hDivision => absurd hDivision not_isBraceDivision_nil
  | [child], hDivision => by
      rw [isBraceDivision_singleton_iff] at hDivision
      rcases id hDivision with ⟨text, rfl, _⟩
      have hDivides :=
        Divides.run ((isRun_text_iff text).mp hDivision)
      rw [String.ofList_toList] at hDivides
      rwa [← hDivides.toList_rawText] at hDivides
  | first :: second :: rest, hDivision => by
      rw [isBraceDivision_cons_cons_iff] at hDivision
      rcases hDivision with ⟨hRun, hHolds, hRest⟩
      rcases id hRun with ⟨text, rfl, _⟩
      rcases hHolds.eq_braceChild with ⟨c, hBrace, rfl⟩
      have hDivides := Divides.brace ((isRun_text_iff text).mp hRun)
        hBrace (divides_rawText hRest)
      rw [String.ofList_toList] at hDivides
      rwa [← hDivides.toList_rawText] at hDivides

------------------------------------------------------------
-- The Division of a Text
------------------------------------------------------------

/- What continues a run is added to it. -/
theorem textChildrenFrom_append
    {cs : List Char}
    (hPlain : ∀ c ∈ cs, isBrace c = false)
    (run rest : List Char) :
    textChildrenFrom run (cs ++ rest) =
      textChildrenFrom (cs.reverse ++ run) rest := by
  induction cs generalizing run with
  | nil => rfl
  | cons c cs ih =>
      have hOther : ¬ isBrace c = true :=
        Bool.eq_false_iff.mp (hPlain c List.mem_cons_self)
      rw [List.cons_append, textChildrenFrom, if_neg hOther,
        ih fun d hMember =>
          hPlain d (List.mem_cons_of_mem c hMember),
        List.reverse_cons, List.append_assoc]
      rfl

/-
  The children of a text divide it. The induction runs over
  what is left of the text, while the run that it continues
  holds no braces.
-/
theorem divides_textChildrenFrom
    {run : List Char}
    (cs : List Char)
    (hRun : ∀ c ∈ run, isBrace c = false) :
    Divides (textChildrenFrom run cs) (run.reverse ++ cs) := by
  have hReverse
      {run : List Char}
      (hRun : ∀ c ∈ run, isBrace c = false) :
      ∀ c ∈ run.reverse, isBrace c = false :=
    fun c hMember => hRun c (List.mem_reverse.mp hMember)
  induction cs generalizing run with
  | nil =>
      rw [List.append_nil]
      exact .run (hReverse hRun)
  | cons c cs ih =>
      rw [textChildrenFrom]
      by_cases hBrace : isBrace c = true
      · rw [if_pos hBrace]
        exact .brace (hReverse hRun) hBrace
          (ih (List.forall_mem_nil _))
      · have hLonger : ∀ d ∈ c :: run, isBrace d = false :=
          List.forall_mem_cons.mpr
            ⟨Bool.eq_false_iff.mpr hBrace, hRun⟩
        have hRest := ih hLonger
        rw [List.reverse_cons, List.append_assoc] at hRest
        rw [if_neg hBrace]
        exact hRest

/- There is no other way to divide a text. -/
theorem Divides.eq_textChildren
    {children : List Child}
    {cs : List Char}
    (hDivides : Divides children cs) :
    children = textChildrenFrom [] cs := by
  induction hDivides with
  | @run cs hPlain =>
      have hScan := textChildrenFrom_append hPlain [] []
      rw [List.append_nil, List.append_nil] at hScan
      rw [hScan, textChildrenFrom, List.reverse_reverse]
  | brace hPlain hBrace _ ih =>
      rw [textChildrenFrom_append hPlain, textChildrenFrom,
        if_pos hBrace, List.append_nil, List.reverse_reverse, ih]

/-
  Raw text has one division at its braces. Its children are
  twice as many as its braces, and one more; text without
  braces stands at the even places and one brace at each of
  the others; together they stand for the text; and no other
  children of this form stand for it.
-/
theorem textChildren_unique_division
    (s : String) :
    (textChildren s).length =
        2 * (s.toList.count '\x7b' + s.toList.count '\x7d') + 1 ∧
      IsBraceDivision (textChildren s) ∧
      rawText (textChildren s) = s ∧
      ∀ children : List Child,
        IsBraceDivision children → rawText children = s →
        children = textChildren s := by
  have hDivides : Divides (textChildren s) s.toList :=
    divides_textChildrenFrom s.toList (List.forall_mem_nil _)
  refine ⟨hDivides.length_eq, hDivides.isBraceDivision, ?_, ?_⟩
  · exact String.toList_inj.mp hDivides.toList_rawText
  · intro children hDivision hText
    have hOther := divides_rawText hDivision
    rw [hText] at hOther
    exact hOther.eq_textChildren

/-
  Neighbouring braces, with empty runs between them and
  beside them.
-/
theorem textChildren_unique_division_neighbours :
    let children : List Child :=
      [.text "é", .container (.string "\x7b"), .text "",
        .container (.string "\x7d"), .text ""]
    IsBraceDivision children ∧
      rawText children = "é\x7b\x7d" ∧
      children = textChildren "é\x7b\x7d" := by
  intro children
  have hDivision : IsBraceDivision children := by
    simp only [children, isBraceDivision_cons_cons_iff,
      isBraceDivision_singleton_iff]
    exact ⟨⟨"é", rfl, by decide, by decide⟩,
      ⟨"\x7b", rfl, .inl rfl⟩,
      ⟨"", rfl, by decide, by decide⟩,
      ⟨"\x7d", rfl, .inr rfl⟩,
      ⟨"", rfl, by decide, by decide⟩⟩
  have hText : rawText children = "é\x7b\x7d" := by decide
  exact ⟨hDivision, hText,
    (textChildren_unique_division "é\x7b\x7d").2.2.2 children
      hDivision hText⟩

end Jsx

end TemplateJsx
