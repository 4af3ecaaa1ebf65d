import TemplateJsx.Proofs.Reading.Inverse
import TemplateJsx.Proofs.WellFormed

/-
  Which bodies of functions are printed as blocks. Behind an
  arrow a brace opens a block, so the printer encloses a body
  that is an object. What is printed first of a body may
  also be an object further down, along objects of members,
  callees, left operands and tests. It is seen if none of
  the operands on the way is enclosed, and then, and only
  then, the body starts with a brace.

  Key definitions include:
    * `Jsx.Expr.firstOperand?`
    * `Jsx.Expr.Exposes`
    * `Jsx.OpensBrace`

  Main declarations:
    * `Jsx.opensBrace_text_iff`
    * `Jsx.opensBrace_firstOperand_iff`
    * `Jsx.opensBrace_print_iff`
    * `Jsx.body_opens_block_iff`
-/

------------------------------------------------------------
-- What Is Printed First
------------------------------------------------------------

namespace TemplateJsx

namespace Jsx

/-
  The operand that is printed first of an expression, and the
  precedence that its place requires.
-/
def Expr.firstOperand? : Expr → Option (Nat × Expr)
  | .member base _ => some (Precedence.member, base)
  | .call callee _ => some (Precedence.member, callee)
  | .binary op left _ => some (op.precedence, left)
  | .conditional test _ _ => some (Precedence.or, test)
  | _ => none

/-
  One expression is printed at the start of another, without
  a parenthesis in front of it.
-/
inductive Expr.Exposes : Expr → Expr → Prop
  | self (e : Expr) : Exposes e e
  | operand {e first x : Expr} {least : Nat} :
      e.firstOperand? = some (least, first) →
      least ≤ first.precedence →
      Exposes first x →
      Exposes e x

/- A text that starts with an opening brace. -/
def OpensBrace (text : List Char) : Prop :=
  text.head? = some '\x7b'

instance (text : List Char) : Decidable (OpensBrace text) := by
  unfold OpensBrace
  infer_instance

theorem opensBrace_cons_iff
    {c : Char}
    {text : List Char} :
    OpensBrace (c :: text) ↔ c = '\x7b' := by
  simp [OpensBrace]

/- What follows a text does not open a brace in its place. -/
theorem opensBrace_append_iff
    {text after : List Char}
    (hAfter : ¬ OpensBrace after) :
    OpensBrace (text ++ after) ↔ OpensBrace text := by
  cases text with
  | nil => simpa [OpensBrace] using hAfter
  | cons c text => simp [OpensBrace]

/- An operand that is enclosed does not open a brace. -/
theorem opensBrace_text_iff
    (least : Nat)
    (e : Expr) :
    OpensBrace (e.text least) ↔
      least ≤ e.precedence ∧ OpensBrace e.print.toList := by
  by_cases hFits : least ≤ e.precedence
  · rw [Expr.text_eq hFits, and_iff_right hFits]
  · rw [Expr.text_eq_bracketed (Nat.lt_of_not_le hFits),
      opensBrace_cons_iff]
    simp [hFits]

/- The first operand comes first, and more follows it. -/
theorem exists_text_firstOperand
    {e first : Expr}
    {least : Nat}
    (hFirst : e.firstOperand? = some (least, first)) :
    ∃ after, e.print.toList = first.text least ++ after ∧
      ¬ OpensBrace after := by
  cases e with
  | member base property =>
      cases hFirst
      refine ⟨_, toList_print_member first property, ?_⟩
      unfold printAccess
      split
      · simp [OpensBrace]
      · simp [OpensBrace]
  | call callee arguments =>
      cases hFirst
      exact ⟨_, toList_print_call first arguments,
        by simp [OpensBrace]⟩
  | binary op left right =>
      cases hFirst
      exact ⟨_, toList_print_binary op first right,
        by simp [OpensBrace]⟩
  | conditional test consequent alternate =>
      cases hFirst
      exact ⟨_,
        toList_print_conditional first consequent alternate,
        by simp [OpensBrace]⟩
  | _ => cases hFirst

/- One step down: the brace is that of the first operand. -/
theorem opensBrace_firstOperand_iff
    {e first : Expr}
    {least : Nat}
    (hFirst : e.firstOperand? = some (least, first)) :
    OpensBrace e.print.toList ↔
      least ≤ first.precedence ∧
        OpensBrace first.print.toList := by
  rcases exists_text_firstOperand hFirst with
    ⟨after, hPrint, hAfter⟩
  rw [hPrint, opensBrace_append_iff hAfter,
    opensBrace_text_iff]

------------------------------------------------------------
-- Where No Operand Comes First
------------------------------------------------------------

/- No number starts with a brace. -/
theorem not_opensBrace_number
    (x : Number) :
    ¬ OpensBrace x.print.toList := by
  by_cases hFinite : x.IsFinite
  · rcases exists_start_of_numeral hFinite with
      ⟨c, cs, hChars, hStart⟩
    rw [hChars, opensBrace_cons_iff]
    exact ne_of_numeral hStart (by decide) (by decide)
  · unfold Number.print
    rw [if_neg hFinite]
    split
    · simp [OpensBrace]
    · split
      · simp [OpensBrace]
      · simp [OpensBrace]

/- Nor does a legal name. -/
theorem not_opensBrace_name
    {name : String}
    (hName : Text.IsLegalName name) :
    ¬ OpensBrace name.toList := by
  rcases exists_start_of_isLegalName hName with
    ⟨c, rest, hChars, hStart⟩
  rw [hChars, opensBrace_cons_iff]
  exact ne_of_test hStart (by decide)

/- Nor does markup. -/
theorem not_opensBrace_markup
    (markup : Markup) :
    ¬ OpensBrace markup.print.toList := by
  cases markup with
  | element name attributes children selfClosing =>
      rw [Markup.print]
      split
      · simp [OpensBrace]
      · simp [OpensBrace]
  | fragment children =>
      rw [Markup.print]
      simp [OpensBrace]

/-
  Of the expressions that start with no operand, only objects
  start with a brace.
-/
theorem opensBrace_leaf_iff
    {e : Expr}
    (hLeaf : e.firstOperand? = none)
    (hNames : ∀ name, e = .identifier name →
      Text.IsLegalName name) :
    OpensBrace e.print.toList ↔
      ∃ properties, e = .object properties := by
  cases e with
  | identifier name =>
      have hName := not_opensBrace_name (hNames name rfl)
      simpa [Expr.print] using hName
  | string value =>
      simp [toList_print_string, opensBrace_cons_iff]
  | number value =>
      have hNumber := not_opensBrace_number value
      simpa [Expr.print] using hNumber
  | boolean value =>
      cases value with
      | true => simp [Expr.print, OpensBrace]
      | false => simp [Expr.print, OpensBrace]
  | null => simp [Expr.print, OpensBrace]
  | object properties =>
      rcases exists_toList_print_object properties with
        ⟨cs, hChars⟩
      simp [hChars, opensBrace_cons_iff]
  | arrow params body =>
      simp [toList_print_arrow, opensBrace_cons_iff]
  | markup m =>
      have hMarkup := not_opensBrace_markup m
      simpa [Expr.print] using hMarkup
  | empty comment =>
      rw [Expr.print, printComment]
      split
      · simp [OpensBrace]
      · simp [OpensBrace]
  | _ => cases hLeaf

------------------------------------------------------------
-- Exposed Objects
------------------------------------------------------------

/- Induction along what is printed first. -/
theorem Expr.firstOperand_induction
    {motive : Expr → Prop}
    (leaf : ∀ e, e.firstOperand? = none → motive e)
    (operand : ∀ e least first,
      e.firstOperand? = some (least, first) →
        motive first → motive e)
    (e : Expr) :
    motive e := by
  induction e using Expr.StartsWithObject.induct with
  | case1 properties => exact leaf _ rfl
  | case2 base property ih => exact operand _ _ base rfl ih
  | case3 callee arguments ih => exact operand _ _ callee rfl ih
  | case4 op left right ih => exact operand _ _ left rfl ih
  | case5 test consequent alternate ih =>
      exact operand _ _ test rfl ih
  | case6 e _ hMember hCall hBinary hConditional =>
      cases e with
      | member => exact absurd rfl (hMember _ _)
      | call => exact absurd rfl (hCall _ _)
      | binary => exact absurd rfl (hBinary _ _ _)
      | conditional => exact absurd rfl (hConditional _ _ _)
      | _ => exact leaf _ rfl

/- Where no operand comes first nothing else is exposed. -/
theorem Expr.exposes_leaf_iff
    {e x : Expr}
    (hLeaf : e.firstOperand? = none) :
    e.Exposes x ↔ e = x := by
  constructor
  · intro hExposes
    cases hExposes with
    | self => rfl
    | operand hFirst _ _ =>
        rw [hLeaf] at hFirst
        cases hFirst
  · rintro rfl
    exact .self e

/- Elsewhere an object is exposed by the first operand. -/
theorem Expr.exposes_object_iff
    {e first : Expr}
    {least : Nat}
    {properties : List Property}
    (hFirst : e.firstOperand? = some (least, first)) :
    e.Exposes (.object properties) ↔
      least ≤ first.precedence ∧
        first.Exposes (.object properties) := by
  constructor
  · intro hExposes
    cases hExposes with
    | self => cases hFirst
    | operand hOther hFits hExposes =>
        rw [hFirst] at hOther
        cases hOther
        exact ⟨hFits, hExposes⟩
  · rintro ⟨hFits, hExposes⟩
    exact .operand hFirst hFits hExposes

/- The first operand is part of the expression. -/
theorem Expr.firstOperand_mem_parts
    {e first : Expr}
    {least : Nat}
    (hFirst : e.firstOperand? = some (least, first)) :
    .expr first ∈ e.parts := by
  cases e with
  | member | call | binary | conditional =>
      cases hFirst
      exact List.mem_cons_self
  | _ => cases hFirst

/-
  An expression starts with a brace exactly if it exposes an
  object.
-/
theorem opensBrace_print_iff
    {e : Expr}
    (hNames : ∀ name,
      Node.Occurs (.expr (.identifier name)) (.expr e) →
        Text.IsLegalName name) :
    OpensBrace e.print.toList ↔
      ∃ properties, e.Exposes (.object properties) := by
  induction e using Expr.firstOperand_induction with
  | leaf e hLeaf =>
      simp only [Expr.exposes_leaf_iff hLeaf]
      refine opensBrace_leaf_iff hLeaf ?_
      rintro name rfl
      exact hNames name (.here _)
  | operand e least first hFirst ih =>
      have hBelow := ih fun name hOccurs =>
        hNames name
          (.inside (Expr.firstOperand_mem_parts hFirst) hOccurs)
      rw [opensBrace_firstOperand_iff hFirst, hBelow,
        ← exists_and_left]
      simp only [Expr.exposes_object_iff hFirst]

------------------------------------------------------------
-- Bodies of Functions
------------------------------------------------------------

/- The characters that are printed behind an arrow. -/
def Expr.bodyText (body : Expr) : String :=
  printBody body
    (enclose Precedence.arrow body.precedence body.print)

/- A body that is an object is always enclosed. -/
theorem not_opensBrace_bodyText_object
    (properties : List Property) :
    ¬ OpensBrace (Expr.object properties).bodyText.toList := by
  simp [Expr.bodyText, printBody, parenthesize, OpensBrace]

/- Any other body is printed as an operand. -/
theorem toList_bodyText
    {body : Expr}
    (hObject : ∀ properties, body ≠ .object properties) :
    body.bodyText.toList = body.text Precedence.arrow := by
  unfold Expr.bodyText printBody
  split
  · exact absurd rfl (hObject _)
  · rfl

/-
  Behind an arrow a brace is printed exactly if the body is
  no object itself, is not enclosed, and exposes an object.
-/
theorem body_opens_block_iff
    (params : List String)
    (body : Expr)
    (hNames : ∀ name,
      Node.Occurs (.expr (.identifier name))
          (.expr (.arrow params body)) →
        Text.IsLegalName name) :
    ∃ text,
      (Expr.arrow params body).print =
          "(" ++ Text.joinWith ", " params ++ ") => " ++ text ∧
        (OpensBrace text.toList ↔
          (∀ properties, body ≠ .object properties) ∧
            Precedence.arrow ≤ body.precedence ∧
            ∃ properties,
              body.Exposes (.object properties)) := by
  refine ⟨body.bodyText, by rw [Expr.print, Expr.bodyText], ?_⟩
  have hBody : ∀ name,
      Node.Occurs (.expr (.identifier name)) (.expr body) →
        Text.IsLegalName name :=
    fun name hOccurs =>
      hNames name (.inside List.mem_cons_self hOccurs)
  by_cases hObject : ∀ properties, body ≠ .object properties
  · rw [toList_bodyText hObject, opensBrace_text_iff,
      opensBrace_print_iff hBody, and_iff_right hObject]
  · refine iff_of_false ?_ fun hAll => hObject hAll.1
    rw [not_forall] at hObject
    rcases hObject with ⟨properties, hObject⟩
    rw [not_not.mp hObject]
    exact not_opensBrace_bodyText_object properties

/- A property that is taken from an object at once. -/
def picked : Expr :=
  .member (.object [.mk "a" (.identifier "x")]) "a"

/- The same with something to fall back on. -/
def pickedOr : Expr :=
  .binary .or picked (.identifier "x")

theorem eq_of_occurs_picked
    {name : String}
    (hOccurs :
      Node.Occurs (.expr (.identifier name)) (.expr picked)) :
    name = "x" := by
  rcases hOccurs with _ | ⟨hObject, hOccurs⟩
  rw [List.mem_singleton.mp hObject] at hOccurs
  rcases hOccurs with _ | ⟨hProperty, hOccurs⟩
  rw [List.mem_singleton.mp hProperty] at hOccurs
  rcases hOccurs with _ | ⟨hValue, hOccurs⟩
  rw [List.mem_singleton.mp hValue] at hOccurs
  rcases hOccurs with _ | ⟨hNone, _⟩
  · rfl
  · cases hNone

theorem eq_of_occurs_pickedOr
    {name : String}
    (hOccurs :
      Node.Occurs (.expr (.identifier name))
        (.expr pickedOr)) :
    name = "x" := by
  rcases hOccurs with _ | ⟨hOperand, hOccurs⟩
  rcases List.mem_cons.mp hOperand with rfl | hRight
  · exact eq_of_occurs_picked hOccurs
  · rw [List.mem_singleton.mp hRight] at hOccurs
    rcases hOccurs with _ | ⟨hNone, _⟩
    · rfl
    · cases hNone

/- The object is exposed as part of a left operand. -/
theorem body_opens_block_iff_pickedOr :
    ∃ text,
      (Expr.arrow ["x"] pickedOr).print = "(x) => " ++ text ∧
        OpensBrace text.toList := by
  have hNames : ∀ name,
      Node.Occurs (.expr (.identifier name))
          (.expr (.arrow ["x"] pickedOr)) →
        Text.IsLegalName name := by
    intro name hOccurs
    rcases hOccurs with _ | ⟨hBody, hOccurs⟩
    rw [List.mem_singleton.mp hBody] at hOccurs
    rw [eq_of_occurs_pickedOr hOccurs]
    decide
  rcases body_opens_block_iff ["x"] pickedOr hNames with
    ⟨text, hPrint, hOpens⟩
  have hExposes :
      pickedOr.Exposes
        (.object [.mk "a" (.identifier "x")]) :=
    .operand rfl (by decide)
      (.operand rfl (by decide) (.self _))
  exact ⟨text, hPrint,
    hOpens.mpr ⟨by simp [pickedOr], by decide, _, hExposes⟩⟩

/- An object that is the object of a member opens a block. -/
theorem body_opened_by_member :
    (∀ name,
      Node.Occurs (.expr (.identifier name))
          (.expr (.arrow ["x"] picked)) →
        Text.IsLegalName name) ∧
      (Expr.arrow ["x"] picked).print =
        "(" ++ Text.joinWith ", " ["x"] ++ ") => "
          ++ "\x7b a: x \x7d.a" ∧
      OpensBrace "\x7b a: x \x7d.a".toList := by
  refine ⟨?_, by decide, by decide⟩
  intro name hOccurs
  rcases hOccurs with _ | ⟨hBody, hOccurs⟩
  rw [List.mem_singleton.mp hBody] at hOccurs
  rw [eq_of_occurs_picked hOccurs]
  decide

end Jsx

end TemplateJsx
