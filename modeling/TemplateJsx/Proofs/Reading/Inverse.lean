import TemplateJsx.Proofs.Reading.Tokens

/-
  The reader undoes the printer, so printed expressions tell
  trees apart. A tree is read back in front of any text that
  can follow it: a chain in front of links, an operand in
  front of operators, and a whole expression in front of
  what closes it.

  Where the printer opens a bracket around an operand, the
  reader must not take it for the start of a function. That
  is shown first, along the left edge of the tree.

  Key definitions include:
    * `Jsx.Script`
    * `Jsx.Expr.text`
    * `Jsx.NoParams`
    * `Jsx.Readable`
    * `Jsx.decodeNumeral`

  Main declarations:
    * `Jsx.Script.noParams`
    * `Jsx.Script.noArrow`
    * `Jsx.Script.readable`
    * `Jsx.eq_of_print_eq`
-/

------------------------------------------------------------
-- Trees of Scripts
------------------------------------------------------------

namespace TemplateJsx

namespace Jsx

open Reading

/-
  The trees without markup that can be told apart by their
  text: names are legal and no other words, numbers are
  finite, keys are not empty and operators have a sign.
-/
inductive Script : Expr → Prop
  | identifier {name : String} :
      Text.IsLegalName name →
      name ≠ "true" →
      name ≠ "false" →
      name ≠ "null" →
      Script (.identifier name)
  | string (value : String) :
      Script (.string value)
  | number {value : Number} :
      value.IsFinite →
      Script (.number value)
  | boolean (value : Bool) :
      Script (.boolean value)
  | null :
      Script .null
  | member {object : Expr} (property : String) :
      Script object →
      Script (.member object property)
  | call {callee : Expr} {arguments : List Expr} :
      Script callee →
      (∀ e ∈ arguments, Script e) →
      Script (.call callee arguments)
  | object {properties : List Property} :
      (∀ key value, .mk key value ∈ properties →
        key ≠ "") →
      (∀ key value, .mk key value ∈ properties →
        Script value) →
      Script (.object properties)
  | binary {op : BinaryOp} {left right : Expr} :
      op = .add ∨ op = .and ∨ op = .or →
      Script left →
      Script right →
      Script (.binary op left right)
  | conditional {test consequent alternate : Expr} :
      Script test →
      Script consequent →
      Script alternate →
      Script (.conditional test consequent alternate)
  | arrow {params : List String} {body : Expr} :
      (∀ name ∈ params, Text.IsLegalName name) →
      Script body →
      Script (.arrow params body)

/- The characters of an expression in a place. -/
def Expr.text
    (least : Nat)
    (e : Expr) : List Char :=
  (enclose least e.precedence e.print).toList

/- In a place that takes it an expression stands as it is. -/
theorem Expr.text_eq
    {least : Nat}
    {e : Expr}
    (hFits : least ≤ e.precedence) :
    e.text least = e.print.toList := by
  unfold Expr.text enclose
  rw [if_neg (Nat.not_lt.mpr hFits)]

/- Elsewhere it stands in brackets. -/
theorem Expr.text_eq_bracketed
    {least : Nat}
    {e : Expr}
    (hLoose : e.precedence < least) :
    e.text least = '(' :: (e.print.toList ++ [')']) := by
  unfold Expr.text enclose parenthesize
  rw [if_pos hLoose, String.toList_append,
    String.toList_append]
  rfl

/- No operator binds less tightly than a function's arrow. -/
theorem Script.arrow_le_precedence
    {e : Expr}
    (h : Script e) :
    Precedence.arrow ≤ e.precedence := by
  cases h with
  | binary hOp _ _ =>
      rcases hOp with rfl | rfl | rfl <;>
        exact Nat.le_of_ble_eq_true rfl
  | _ => exact Nat.le_of_ble_eq_true rfl

/- Nothing binds more tightly than an access. -/
theorem Script.precedence_le_member
    {e : Expr}
    (h : Script e) :
    e.precedence ≤ Precedence.member := by
  cases h with
  | binary hOp _ _ =>
      rcases hOp with rfl | rfl | rfl <;>
        exact Nat.le_of_ble_eq_true rfl
  | _ => exact Nat.le_of_ble_eq_true rfl

------------------------------------------------------------
-- The Characters of Printed Trees
------------------------------------------------------------

theorem toList_print_string
    (value : String) :
    (Expr.string value).print.toList =
      '\'' :: (escapeChars false value.toList ++ ['\'']) := by
  rw [Expr.print, toList_singleQuoted]

theorem exists_toList_print_number
    {value : Number}
    (hFinite : value.IsFinite) :
    ∃ c cs, (Expr.number value).print.toList = c :: cs ∧
      (c = '-' ∨ c.isDigit = true) := by
  rw [Expr.print]
  exact exists_start_of_numeral hFinite

theorem toList_print_member
    (object : Expr)
    (property : String) :
    (Expr.member object property).print.toList =
      object.text Precedence.member ++
        (printAccess property).toList := by
  simp [Expr.print, Expr.text, String.toList_append]

theorem toList_print_call
    (callee : Expr)
    (arguments : List Expr) :
    (Expr.call callee arguments).print.toList =
      callee.text Precedence.member ++
        '(' :: ((Text.joinWith ", "
          (printArguments arguments)).toList ++ [')']) := by
  simp [Expr.print, Expr.text, String.toList_append]

theorem toList_print_binary
    (op : BinaryOp)
    (left right : Expr) :
    (Expr.binary op left right).print.toList =
      left.text op.precedence ++
        ' ' :: (op.symbol.toList ++
          ' ' :: right.text (op.precedence + 1)) := by
  simp [Expr.print, Expr.text, String.toList_append]

theorem toList_print_conditional
    (test consequent alternate : Expr) :
    (Expr.conditional test consequent alternate).print.toList =
      test.text Precedence.or ++
        ' ' :: '?' :: ' ' ::
          (consequent.text Precedence.arrow ++
            ' ' :: ':' :: ' ' ::
              alternate.text Precedence.arrow) := by
  simp [Expr.print, Expr.text, String.toList_append]

theorem toList_print_arrow
    (params : List String)
    (body : Expr) :
    (Expr.arrow params body).print.toList =
      '(' :: ((Text.joinWith ", " params).toList ++
        ')' :: ' ' :: '=' :: '>' :: ' ' ::
          (printBody body (enclose Precedence.arrow
            body.precedence body.print)).toList) := by
  simp [Expr.print, String.toList_append]

theorem toList_print_object
    (property : Property)
    (properties : List Property) :
    (Expr.object (property :: properties)).print.toList =
      '\x7b' :: ' ' :: ((Text.joinWith ", "
        (printProperties (property :: properties))).toList ++
          [' ', '\x7d']) := by
  simp [Expr.print, String.toList_append]

/- An object starts with its brace. -/
theorem exists_toList_print_object
    (properties : List Property) :
    ∃ cs, (Expr.object properties).print.toList =
      '\x7b' :: cs := by
  cases properties with
  | nil => exact ⟨['\x7d'], rfl⟩
  | cons property properties =>
      exact ⟨_, toList_print_object property properties⟩

theorem toList_print_property
    (key : String)
    (value : Expr) :
    (Property.mk key value).print.toList =
      (nameOrQuoted false key).toList ++
        ':' :: ' ' :: value.text Precedence.arrow := by
  simp [Property.print, Expr.text, String.toList_append]

------------------------------------------------------------
-- Brackets That Open No Function
------------------------------------------------------------

/-
  The text of an expression is not read as parameters, where
  more of an expression follows it. A text that an operator
  or an arrow divides is not read so in any case.
-/
def NoParams (e : Expr) : Prop :=
  ∀ rest, Breaks rest ∨ e.precedence < Precedence.member →
    readParamList (e.print.toList ++ rest) = none

/- Nor is it in brackets. -/
theorem NoParams.text
    {e : Expr}
    {rest : List Char}
    (h : NoParams e)
    (least : Nat)
    (hBreaks : Breaks rest) :
    readParamList (e.text least ++ rest) = none := by
  by_cases hLoose : e.precedence < least
  · rw [Expr.text_eq_bracketed hLoose]
    exact readParamList_eq_none _ (by decide) (by decide)
  · rw [Expr.text_eq (Nat.not_lt.mp hLoose)]
    exact h rest (Or.inl hBreaks)

/- A word is a name, and parameters do not end in it. -/
theorem noParams_of_name
    {e : Expr}
    {name : String}
    (hName : Text.IsLegalName name)
    (hText : e.print = name)
    (hTight : e.precedence = Precedence.member) :
    NoParams e := by
  rintro rest (hBreaks | hLoose)
  · rw [hText]
    exact readParamList_name hName hBreaks
  · rw [hTight] at hLoose
    exact absurd hLoose (Nat.lt_irrefl _)

/- What starts with a mark is no name. -/
theorem noParams_of_mark
    {e : Expr}
    {c : Char}
    {cs : List Char}
    (hText : e.print.toList = c :: cs)
    (hName : Text.isNameStart c = false)
    (hBracket : c ≠ ')') :
    NoParams e := by
  intro rest _
  rw [hText]
  exact readParamList_eq_none _ hName hBracket

/- An access breaks a name. -/
theorem breaks_printAccess
    (property : String)
    (rest : List Char) :
    Breaks ((printAccess property).toList ++ rest) := by
  unfold printAccess
  split
  · rw [String.toList_append]
    exact .point _
  · rw [String.toList_append, String.toList_append]
    exact .square _

theorem Script.noParams
    {e : Expr}
    (h : Script e) :
    NoParams e := by
  -- Along the left edge of the tree, where the text starts.
  induction h with
  | identifier hName _ _ _ =>
      exact noParams_of_name hName (by rw [Expr.print]) rfl
  | string value =>
      exact noParams_of_mark (toList_print_string value)
        (by decide) (by decide)
  | number hFinite =>
      rcases exists_toList_print_number hFinite with
        ⟨c, cs, hChars, hStart⟩
      exact noParams_of_mark hChars
        (isNameStart_of_numeral hStart)
        (ne_of_numeral hStart (by decide) (by decide))
  | boolean value =>
      cases value with
      | true =>
          exact noParams_of_name isLegalName_true
            (by rw [Expr.print]; rfl) rfl
      | false =>
          exact noParams_of_name isLegalName_false
            (by rw [Expr.print]; rfl) rfl
  | null =>
      exact noParams_of_name isLegalName_null
        (by rw [Expr.print]) rfl
  | member property hObject ih =>
      intro rest _
      rw [toList_print_member, List.append_assoc]
      exact ih.text _ (breaks_printAccess property rest)
  | call hCallee hArguments ih ihs =>
      intro rest _
      rw [toList_print_call, List.append_assoc]
      exact ih.text _ (.bracket _)
  | @object properties hKeys hValues ihs =>
      rcases exists_toList_print_object properties with
        ⟨cs, hChars⟩
      exact noParams_of_mark hChars (by decide) (by decide)
  | binary hOp hLeft hRight ih _ =>
      intro rest _
      rw [toList_print_binary, List.append_assoc]
      exact ih.text _ (.blank _)
  | conditional hTest _ _ ih _ _ =>
      intro rest _
      rw [toList_print_conditional, List.append_assoc]
      exact ih.text _ (.blank _)
  | arrow hParams hBody _ =>
      exact noParams_of_mark (toList_print_arrow _ _)
        (by decide) (by decide)

/- Where no function stands no parameters are read. -/
def NoArrow (e : Expr) : Prop :=
  e.precedence ≠ Precedence.arrow →
    ∀ rest, readParams (e.print.toList ++ rest) = none

/- Nor are they in a place that encloses functions. -/
theorem readParams_text
    {e : Expr}
    {least : Nat}
    (h : Script e)
    (hNoArrow : NoArrow e)
    (hArrow : Precedence.arrow < least)
    (hMember : least ≤ Precedence.member)
    (rest : List Char) :
    readParams (e.text least ++ rest) = none := by
  by_cases hLoose : e.precedence < least
  · have hDivided : e.precedence < Precedence.member :=
      Nat.lt_of_lt_of_le hLoose hMember
    rw [Expr.text_eq_bracketed hLoose, List.cons_append,
      List.append_assoc]
    exact readParams_bracket (h.noParams _ (Or.inr hDivided))
  · have hFits := Nat.not_lt.mp hLoose
    rw [Expr.text_eq hFits]
    exact hNoArrow (by omega) rest

/- What starts with another character opens no function. -/
theorem readParams_eq_none
    {c : Char}
    (cs : List Char)
    (hStart : c ≠ '(') :
    readParams (c :: cs) = none := by
  rw [readParams]
  intro after hList
  exact hStart (List.cons.inj hList).1

theorem readParams_name
    {name : String}
    (rest : List Char)
    (hName : Text.IsLegalName name) :
    readParams (name.toList ++ rest) = none := by
  rcases exists_start_of_isLegalName hName with
    ⟨c, cs, hChars, hStart⟩
  rw [hChars]
  exact readParams_eq_none _ (ne_of_test hStart (by decide))

theorem noArrow_of_name
    {e : Expr}
    {name : String}
    (hName : Text.IsLegalName name)
    (hText : e.print = name) :
    NoArrow e := by
  intro _ rest
  rw [hText]
  exact readParams_name rest hName

theorem noArrow_of_mark
    {e : Expr}
    {c : Char}
    {cs : List Char}
    (hText : e.print.toList = c :: cs)
    (hStart : c ≠ '(') :
    NoArrow e := by
  intro _ rest
  rw [hText]
  exact readParams_eq_none _ hStart

theorem Script.noArrow
    {e : Expr}
    (h : Script e) :
    NoArrow e := by
  induction h with
  | identifier hName _ _ _ =>
      exact noArrow_of_name hName (by rw [Expr.print])
  | string value =>
      exact noArrow_of_mark (toList_print_string value)
        (by decide)
  | number hFinite =>
      rcases exists_toList_print_number hFinite with
        ⟨c, cs, hChars, hStart⟩
      exact noArrow_of_mark hChars
        (ne_of_numeral hStart (by decide) (by decide))
  | boolean value =>
      cases value with
      | true =>
          exact noArrow_of_name isLegalName_true
            (by rw [Expr.print]; rfl)
      | false =>
          exact noArrow_of_name isLegalName_false
            (by rw [Expr.print]; rfl)
  | null =>
      exact noArrow_of_name isLegalName_null
        (by rw [Expr.print])
  | member property hObject ih =>
      intro _ rest
      rw [toList_print_member, List.append_assoc]
      exact readParams_text hObject ih (by decide) (by decide) _
  | call hCallee hArguments ih ihs =>
      intro _ rest
      rw [toList_print_call, List.append_assoc]
      exact readParams_text hCallee ih (by decide) (by decide) _
  | @object properties hKeys hValues ihs =>
      rcases exists_toList_print_object properties with
        ⟨cs, hChars⟩
      exact noArrow_of_mark hChars (by decide)
  | binary hOp hLeft hRight ih _ =>
      intro _ rest
      rw [toList_print_binary, List.append_assoc]
      apply readParams_text hLeft ih
      · rcases hOp with rfl | rfl | rfl <;> decide
      · rcases hOp with rfl | rfl | rfl <;> decide
  | conditional hTest _ _ ih _ _ =>
      intro _ rest
      rw [toList_print_conditional, List.append_assoc]
      exact readParams_text hTest ih (by decide) (by decide) _
  | arrow hParams hBody _ =>
      intro hOther
      exact absurd rfl hOther

------------------------------------------------------------
-- Reading Back
------------------------------------------------------------

section Decoding

variable
  {decode : List Char → Option Number}

/- A chain ends where no access and no call follows. -/
theorem readLinks_ends
    {rest : List Char}
    (e : Expr)
    (hEnds : Ends rest) :
    plain (readLinks decode e rest) = some (e, rest) := by
  cases hEnds with
  | nothing =>
      rw [readLinks]
      rfl
  | blank rest =>
      rw [readLinks]
      rfl
  | comma rest =>
      rw [readLinks]
      rfl
  | bracket rest =>
      rw [readLinks]
      rfl

/- An expression ends where no branches follow. -/
theorem readAssignment_closes
    {e : Expr}
    {cs rest : List Char}
    (hParams : readParams cs = none)
    (hOperand :
      plain (readOperand decode Precedence.or cs) =
        some (e, rest))
    (hCloses : Closes rest) :
    plain (readAssignment decode cs) = some (e, rest) := by
  rcases eq_some_of_plain hOperand with ⟨_, hOperand⟩
  rw [readAssignment, hParams]
  dsimp only
  rw [hOperand]
  cases hCloses with
  | nothing => rfl
  | colon rest => rfl
  | brace rest => rfl
  | comma rest => rfl
  | bracket rest => rfl

/-
  A tree that is read back from its text: as a chain in
  front of links, as an operand in front of operators, and
  as a whole.
-/
structure Readable
    (decode : List Char → Option Number)
    (e : Expr) : Prop where
  chain :
    e.precedence = Precedence.member →
      ∀ rest, Stops rest →
        plain (readChain decode (e.print.toList ++ rest)) =
          plain (readLinks decode e rest)
  operand :
    Precedence.or ≤ e.precedence →
      ∀ least rest, least ≤ e.precedence → Ends rest →
        OperatorBelow e.precedence rest →
          plain
              (readOperand decode least
                (e.print.toList ++ rest)) =
            plain (readOperators decode least e rest)
  assignment :
    ∀ rest, Closes rest →
      plain (readAssignment decode (e.print.toList ++ rest)) =
        some (e, rest)

namespace Readable

/- In brackets a tree is read back in front of links. -/
theorem bracketed
    {e : Expr}
    (h : Readable decode e)
    (rest : List Char) :
    plain (readChain decode
        ('(' :: (e.print.toList ++ ')' :: rest))) =
      plain (readLinks decode e rest) :=
  readChain_eq
    (readPrimary_bracket
      (h.assignment (')' :: rest) (.bracket rest)))

/- A tree is read back as the start of a chain. -/
theorem chain_text
    {e : Expr}
    {rest : List Char}
    (h : Readable decode e)
    (hScript : Script e)
    (hStops : Stops rest) :
    plain
        (readChain decode (e.text Precedence.member ++ rest)) =
      plain (readLinks decode e rest) := by
  by_cases hLoose : e.precedence < Precedence.member
  · rw [Expr.text_eq_bracketed hLoose, List.cons_append,
      List.append_assoc]
    exact h.bracketed rest
  · have hTight : e.precedence = Precedence.member :=
      Nat.le_antisymm hScript.precedence_le_member
        (Nat.not_lt.mp hLoose)
    rw [Expr.text_eq (Nat.not_lt.mp hLoose)]
    exact h.chain hTight rest hStops

/- A tree is read back as an operand in its place. -/
theorem operand_text
    {e : Expr}
    {least place : Nat}
    {rest : List Char}
    (h : Readable decode e)
    (hPlace : Precedence.or ≤ place)
    (hLeast : least ≤ place)
    (hEnds : Ends rest)
    (hBelow : OperatorBelow place rest) :
    plain (readOperand decode least (e.text place ++ rest)) =
      plain (readOperators decode least e rest) := by
  by_cases hLoose : e.precedence < place
  · rw [Expr.text_eq_bracketed hLoose, List.cons_append,
      List.append_assoc]
    exact readOperand_eq least
      ((h.bracketed rest).trans (readLinks_ends e hEnds))
  · have hFits := Nat.not_lt.mp hLoose
    rw [Expr.text_eq hFits]
    apply h.operand (Nat.le_trans hPlace hFits) least rest
      (Nat.le_trans hLeast hFits) hEnds
    intro op after hOperator
    exact Nat.le_trans (hBelow op after hOperator) hFits

/- A tree is read back as a branch or an argument. -/
theorem assignment_text
    {e : Expr}
    {rest : List Char}
    (h : Readable decode e)
    (hScript : Script e)
    (hCloses : Closes rest) :
    plain (readAssignment decode
        (e.text Precedence.arrow ++ rest)) =
      some (e, rest) := by
  rw [Expr.text_eq hScript.arrow_le_precedence]
  exact h.assignment rest hCloses

/- A tree that is no operand is only read back as a whole. -/
theorem of_assignment
    {e : Expr}
    (hLoose : e.precedence < Precedence.or)
    (hAssignment : ∀ rest, Closes rest →
      plain (readAssignment decode (e.print.toList ++ rest)) =
        some (e, rest)) :
    Readable decode e := by
  refine ⟨?_, ?_, hAssignment⟩
  · intro hTight
    rw [hTight] at hLoose
    exact absurd hLoose (by decide)
  · intro hTight
    exact absurd hLoose (Nat.not_lt.mpr hTight)

/- What is read back as an operand is read back as a whole. -/
theorem of_operand
    {e : Expr}
    (hScript : Script e)
    (hTight : Precedence.or ≤ e.precedence)
    (hChain :
      e.precedence = Precedence.member →
        ∀ rest, Stops rest →
          plain (readChain decode (e.print.toList ++ rest)) =
            plain (readLinks decode e rest))
    (hOperand :
      ∀ least rest, least ≤ e.precedence → Ends rest →
        OperatorBelow e.precedence rest →
          plain
              (readOperand decode least
                (e.print.toList ++ rest)) =
            plain (readOperators decode least e rest)) :
    Readable decode e := by
  refine ⟨hChain, fun _ => hOperand, ?_⟩
  intro rest hCloses
  have hNone := hCloses.readOperator?_eq_none
  have hBelow : OperatorBelow e.precedence rest := by
    intro op after hOperator
    rw [hNone] at hOperator
    cases hOperator
  have hParams : readParams (e.print.toList ++ rest) = none := by
    apply hScript.noArrow
    intro hArrow
    rw [hArrow] at hTight
    exact absurd hTight (by decide)
  refine readAssignment_closes hParams ?_ hCloses
  rw [hOperand Precedence.or rest hTight hCloses.ends hBelow]
  apply readOperators_leave
  intro op after hOperator
  rw [hNone] at hOperator
  cases hOperator

/- So is what is read back as a chain. -/
theorem of_chain
    {e : Expr}
    (hScript : Script e)
    (hTight : e.precedence = Precedence.member)
    (hChain : ∀ rest, Stops rest →
      plain (readChain decode (e.print.toList ++ rest)) =
        plain (readLinks decode e rest)) :
    Readable decode e := by
  apply of_operand hScript (by rw [hTight]; decide)
    (fun _ => hChain)
  intro least rest _ hEnds _
  exact readOperand_eq least
    ((hChain rest hEnds.stops).trans (readLinks_ends e hEnds))

/- And what is read back as a primary. -/
theorem of_primary
    {e : Expr}
    (hScript : Script e)
    (hTight : e.precedence = Precedence.member)
    (hPrimary : ∀ rest, Stops rest →
      plain (readPrimary decode (e.print.toList ++ rest)) =
        some (e, rest)) :
    Readable decode e := by
  apply of_chain hScript hTight
  intro rest hStops
  exact readChain_eq (hPrimary rest hStops)

end Readable

------------------------------------------------------------
-- Leaves and Accesses
------------------------------------------------------------

/- A word is read back as what it stands for. -/
theorem readPrimary_name
    {name : String}
    {rest : List Char}
    (hName : Text.IsLegalName name)
    (hStops : Stops rest) :
    plain (readPrimary decode (name.toList ++ rest)) =
      some (wordExpr name, rest) := by
  have hRead := readName_append hName hStops.isNameRest_eq_false
  rcases exists_start_of_isLegalName hName with
    ⟨c, cs, hChars, hStart⟩
  rw [hChars, List.cons_append] at hRead ⊢
  exact readPrimary_word hStart hRead

/- A number is read back if its numeral is decoded. -/
theorem readPrimary_print
    {x : Number}
    {rest : List Char}
    (hFinite : x.IsFinite)
    (hDecode : decode x.print.toList = some x)
    (hStops : Stops rest) :
    plain (readPrimary decode (x.print.toList ++ rest)) =
      some (.number x, rest) := by
  have hSplit := splitNumeral_print hFinite hStops
  have hValue :
      decode (splitNumeral (x.print.toList ++ rest)).1 =
        some x := by
    rw [hSplit]
    exact hDecode
  rcases exists_start_of_numeral hFinite with
    ⟨c, cs, hChars, hStart⟩
  rw [hChars, List.cons_append] at hSplit hValue ⊢
  rw [readPrimary_numeral hStart
    (isNameStart_of_numeral hStart) hValue, hSplit]

/- An access continues no name and no numeral. -/
theorem stops_printAccess
    (property : String)
    (rest : List Char) :
    Stops ((printAccess property).toList ++ rest) := by
  unfold printAccess
  split
  · rename_i hName
    rcases exists_start_of_isLegalName hName with
      ⟨c, cs, hChars, hStart⟩
    rw [String.toList_append, hChars]
    exact .access _ hStart
  · rw [String.toList_append, String.toList_append]
    exact .mark _ (by decide) (by decide)

/- An access is read back as a link. -/
theorem readLinks_printAccess
    {rest : List Char}
    (e : Expr)
    (property : String)
    (hStops : Stops rest) :
    plain (readLinks decode e
        ((printAccess property).toList ++ rest)) =
      plain (readLinks decode (.member e property) rest) := by
  by_cases hName : Text.IsLegalName property
  · rw [printAccess, if_pos hName, String.toList_append,
      List.append_assoc]
    exact readLinks_name
      (readName_append hName hStops.isNameRest_eq_false)
  · have hText :
        ("[" ++ singleQuoted false property ++ "]").toList ++
            rest =
          '[' :: ((singleQuoted false property).toList ++
            ']' :: rest) := by
      simp [String.toList_append]
    rw [printAccess, if_neg hName, hText]
    exact readLinks_key
      (readKey_singleQuoted property (']' :: rest))

------------------------------------------------------------
-- Arguments and Properties
------------------------------------------------------------

/- Arguments are read back up to the closing bracket. -/
theorem readArguments_print
    {arguments : List Expr}
    (rest : List Char)
    (hScripts : ∀ e ∈ arguments, Script e)
    (hReadable : ∀ e ∈ arguments, Readable decode e) :
    plain (readArguments decode
        ((Text.joinWith ", " (printArguments arguments)).toList
          ++ ')' :: rest)) =
      some (arguments, rest) := by
  induction arguments with
  | nil =>
      rw [printArguments]
      exact congrArg plain (readArguments.eq_1 decode rest)
  | cons e others ih =>
      have hFirst := hReadable e List.mem_cons_self
      have hScript := hScripts e List.mem_cons_self
      cases others with
      | nil =>
          exact readArguments_last
            (hFirst.assignment_text hScript (.bracket rest))
      | cons next others =>
          have hOthers := ih
            (fun e hMember =>
              hScripts e (List.mem_cons_of_mem _ hMember))
            (fun e hMember =>
              hReadable e (List.mem_cons_of_mem _ hMember))
          rw [printArguments] at hOthers
          rw [printArguments, printArguments,
            toList_joinWith_cons, List.append_assoc]
          exact readArguments_comma
            (hFirst.assignment_text hScript (.comma _)) hOthers

/- Properties are read back up to the closing brace. -/
theorem readProperties_print
    {property : Property}
    {properties : List Property}
    (rest : List Char)
    (hKeys : ∀ key value,
      .mk key value ∈ property :: properties → key ≠ "")
    (hScripts : ∀ key value,
      .mk key value ∈ property :: properties → Script value)
    (hReadable : ∀ key value,
      .mk key value ∈ property :: properties →
        Readable decode value) :
    plain (readProperties decode
        ((Text.joinWith ", "
            (printProperties (property :: properties))).toList
          ++ ' ' :: '\x7d' :: rest)) =
      some (property :: properties, rest) := by
  induction properties generalizing property with
  | nil =>
      rcases property with ⟨key, value⟩
      have hFirst := hReadable key value List.mem_cons_self
      have hScript := hScripts key value List.mem_cons_self
      have hKey := hKeys key value List.mem_cons_self
      rw [printProperties, printProperties, Text.joinWith,
        toList_print_property, List.append_assoc]
      exact readProperties_last
        (readKey_append hKey (.mark _ (by decide) (by decide)))
        (hFirst.assignment_text hScript (.brace rest))
  | cons next properties ih =>
      rcases property with ⟨key, value⟩
      have hFirst := hReadable key value List.mem_cons_self
      have hScript := hScripts key value List.mem_cons_self
      have hKey := hKeys key value List.mem_cons_self
      have hOthers := ih
        (fun key value hMember =>
          hKeys key value (List.mem_cons_of_mem _ hMember))
        (fun key value hMember =>
          hScripts key value (List.mem_cons_of_mem _ hMember))
        (fun key value hMember =>
          hReadable key value (List.mem_cons_of_mem _ hMember))
      rw [printProperties] at hOthers
      rw [printProperties, printProperties,
        toList_joinWith_cons, toList_print_property,
        List.append_assoc, List.append_assoc]
      exact readProperties_comma
        (readKey_append hKey (.mark _ (by decide) (by decide)))
        (hFirst.assignment_text hScript (.comma _)) hOthers

/- An object is read back up to its closing brace. -/
theorem readPrimary_print_object
    {properties : List Property}
    (rest : List Char)
    (hKeys : ∀ key value,
      .mk key value ∈ properties → key ≠ "")
    (hScripts : ∀ key value,
      .mk key value ∈ properties → Script value)
    (hReadable : ∀ key value,
      .mk key value ∈ properties → Readable decode value) :
    plain (readPrimary decode
        ((Expr.object properties).print.toList ++ rest)) =
      some (.object properties, rest) := by
  cases properties with
  | nil =>
      apply readPrimary_object
      exact congrArg plain (readBraces.eq_1 decode rest)
  | cons property properties =>
      rw [toList_print_object, List.cons_append]
      apply readPrimary_object
      rw [List.cons_append, List.append_assoc, readBraces,
        plain_map_id]
      exact readProperties_print rest hKeys hScripts hReadable

------------------------------------------------------------
-- Operators and Functions
------------------------------------------------------------

/- The operators are read back with the blanks around them. -/
theorem readOperator?_symbol
    {op : BinaryOp}
    (rest : List Char)
    (hOp : op = .add ∨ op = .and ∨ op = .or) :
    readOperator? (' ' :: (op.symbol.toList ++ ' ' :: rest)) =
      some (op, rest) := by
  rcases hOp with rfl | rfl | rfl
  · rfl
  · rfl
  · rfl

/- A sum or a connective is read back as an operand. -/
theorem readOperand_binary
    {op : BinaryOp}
    {left right : Expr}
    {least : Nat}
    {rest : List Char}
    (hOp : op = .add ∨ op = .and ∨ op = .or)
    (hLeft : Readable decode left)
    (hRight : Readable decode right)
    (hLeast : least ≤ op.precedence)
    (hEnds : Ends rest)
    (hBelow : OperatorBelow op.precedence rest) :
    plain (readOperand decode least
        ((Expr.binary op left right).print.toList ++ rest)) =
      plain (readOperators decode least
        (.binary op left right) rest) := by
  have hPlace : Precedence.or ≤ op.precedence := by
    rcases hOp with rfl | rfl | rfl <;> decide
  rw [toList_print_binary, List.append_assoc, List.cons_append,
    List.append_assoc, List.cons_append]
  have hOperator :=
    readOperator?_symbol
      (right.text (op.precedence + 1) ++ rest) hOp
  -- The left operand is read up to the operator.
  rw [hLeft.operand_text hPlace hLeast (.blank _) (by
    intro found after hFound
    rw [hOperator] at hFound
    cases hFound
    exact Nat.le_refl _)]
  -- The right one takes no operator that follows it.
  apply readOperators_take hOperator hLeast
  rw [hRight.operand_text (Nat.le_succ_of_le hPlace)
    (Nat.le_refl _) hEnds (fun found after hFound =>
      Nat.le_succ_of_le (hBelow found after hFound))]
  apply readOperators_leave
  intro found after hFound
  exact Nat.lt_succ_of_le (hBelow found after hFound)

/- A tree in brackets is read back as a whole. -/
theorem Readable.assignment_bracketed
    {e : Expr}
    {rest : List Char}
    (h : Readable decode e)
    (hParams :
      readParamList (e.print.toList ++ ')' :: rest) = none)
    (hCloses : Closes rest) :
    plain (readAssignment decode
        ('(' :: (e.print.toList ++ ')' :: rest))) =
      some (e, rest) := by
  refine readAssignment_closes (readParams_bracket hParams) ?_
    hCloses
  rw [readOperand_eq _
    ((h.bracketed rest).trans
      (readLinks_ends e hCloses.ends))]
  apply readOperators_leave
  intro op after hOperator
  rw [hCloses.readOperator?_eq_none] at hOperator
  cases hOperator

/- The body of a function is read back, also an object. -/
theorem readAssignment_printBody
    {body : Expr}
    {rest : List Char}
    (h : Readable decode body)
    (hScript : Script body)
    (hCloses : Closes rest) :
    plain (readAssignment decode
        ((printBody body (enclose Precedence.arrow
          body.precedence body.print)).toList ++ rest)) =
      some (body, rest) := by
  cases body with
  | object properties =>
      have hText :
          (printBody (.object properties)
            (enclose Precedence.arrow
              (Expr.object properties).precedence
              (Expr.object properties).print)).toList ++ rest =
            '(' :: ((Expr.object properties).print.toList ++
              ')' :: rest) := by
        simp [printBody, parenthesize, enclose,
          Expr.precedence, Precedence.arrow, Precedence.member,
          String.toList_append]
      rw [hText]
      apply h.assignment_bracketed _ hCloses
      rcases exists_toList_print_object properties with
        ⟨cs, hChars⟩
      rw [hChars]
      exact readParamList_eq_none _ (by decide) (by decide)
  | _ => exact h.assignment_text hScript hCloses

/- Every such tree is read back from its text. -/
theorem Script.readable
    {e : Expr}
    (hDecode : ∀ x : Number, x.IsFinite →
      decode x.print.toList = some x)
    (h : Script e) :
    Readable decode e := by
  induction h with
  | @identifier name hName hTrue hFalse hNull =>
      apply Readable.of_primary
        (.identifier hName hTrue hFalse hNull) rfl
      intro rest hStops
      have hWord : wordExpr name = .identifier name := by
        unfold wordExpr
        rw [if_neg hTrue, if_neg hFalse, if_neg hNull]
      rw [Expr.print, readPrimary_name hName hStops, hWord]
  | string value =>
      apply Readable.of_primary (.string value) rfl
      intro rest hStops
      rw [toList_print_string, List.cons_append,
        List.append_assoc, List.singleton_append,
        readPrimary_string
          (unquote_escapeChars value.toList rest),
        String.ofList_toList]
  | @number value hFinite =>
      apply Readable.of_primary (.number hFinite) rfl
      intro rest hStops
      rw [Expr.print]
      exact readPrimary_print hFinite (hDecode value hFinite)
        hStops
  | boolean value =>
      apply Readable.of_primary (.boolean value) rfl
      intro rest hStops
      rw [Expr.print]
      cases value with
      | true => exact readPrimary_name isLegalName_true hStops
      | false => exact readPrimary_name isLegalName_false hStops
  | null =>
      apply Readable.of_primary .null rfl
      intro rest hStops
      rw [Expr.print]
      exact readPrimary_name isLegalName_null hStops
  | member property hObject ih =>
      apply Readable.of_chain (.member property hObject) rfl
      intro rest hStops
      rw [toList_print_member, List.append_assoc,
        ih.chain_text hObject (stops_printAccess property rest)]
      exact readLinks_printAccess _ property hStops
  | call hCallee hArguments ih ihs =>
      apply Readable.of_chain (.call hCallee hArguments) rfl
      intro rest hStops
      rw [toList_print_call, List.append_assoc,
        List.cons_append, List.append_assoc,
        ih.chain_text hCallee
          (.mark _ (by decide) (by decide))]
      exact readLinks_call
        (readArguments_print rest hArguments ihs)
  | object hKeys hValues ihs =>
      apply Readable.of_primary (.object hKeys hValues) rfl
      intro rest _
      exact readPrimary_print_object rest hKeys hValues ihs
  | @binary op left right hOp hLeft hRight ih ih' =>
      apply Readable.of_operand (.binary hOp hLeft hRight)
      · rcases hOp with rfl | rfl | rfl <;>
          exact Nat.le_of_ble_eq_true rfl
      · intro hTight
        rcases hOp with rfl | rfl | rfl <;> cases hTight
      · intro least rest hLeast hEnds hBelow
        exact readOperand_binary hOp ih ih' hLeast hEnds hBelow
  | @conditional test consequent alternate hTest hConsequent
      hAlternate ih ih' ih'' =>
      apply Readable.of_assignment (Nat.le_of_ble_eq_true rfl)
      intro rest hCloses
      have hParams :=
        (Script.conditional hTest hConsequent
          hAlternate).noArrow (by intro h; cases h) rest
      have hText :
          (Expr.conditional test consequent
              alternate).print.toList ++ rest =
            test.text Precedence.or ++ ' ' :: '?' :: ' ' ::
              (consequent.text Precedence.arrow ++
                ' ' :: ':' :: ' ' ::
                  (alternate.text Precedence.arrow ++
                    rest)) := by
        simp [toList_print_conditional]
      rw [hText] at hParams ⊢
      refine readAssignment_conditional hParams ?_
        (ih'.assignment_text hConsequent (.colon _))
        (ih''.assignment_text hAlternate hCloses)
      rw [ih.operand_text (Nat.le_refl _) (Nat.le_refl _)
        (.blank _) (fun op after hOperator => by
          cases hOperator)]
      apply readOperators_leave
      intro op after hOperator
      cases hOperator
  | @arrow params body hParams hBody ih =>
      apply Readable.of_assignment (Nat.le_of_ble_eq_true rfl)
      intro rest hCloses
      have hText :
          (Expr.arrow params body).print.toList ++ rest =
            '(' :: ((Text.joinWith ", " params).toList ++
              ')' :: ' ' :: '=' :: '>' :: ' ' ::
                ((printBody body (enclose Precedence.arrow
                  body.precedence body.print)).toList ++
                    rest)) := by
        simp [toList_print_arrow]
      rw [hText]
      exact readAssignment_arrow
        (readParams_joinWith _ hParams)
        (readAssignment_printBody ih hBody hCloses)

end Decoding

------------------------------------------------------------
-- Unique Reading
------------------------------------------------------------

/- The finite number that a numeral was printed for. -/
open Classical in
noncomputable def decodeNumeral
    (cs : List Char) : Option Number :=
  if h : ∃ x : Number, x.IsFinite ∧ x.print.toList = cs then
    some h.choose
  else
    none

/- A printed number is decoded to itself. -/
theorem decodeNumeral_print
    (x : Number)
    (hFinite : x.IsFinite) :
    decodeNumeral x.print.toList = some x := by
  have hSome : ∃ y : Number, y.IsFinite ∧
      y.print.toList = x.print.toList :=
    ⟨x, hFinite, rfl⟩
  unfold decodeNumeral
  rw [dif_pos hSome]
  congr 1
  apply Number.print_injective hSome.choose_spec.1 hFinite
  exact String.toList_injective hSome.choose_spec.2

/-
  Trees that are printed alike are equal: a text has at most
  one reading.
-/
theorem eq_of_print_eq
    {a b : Expr}
    (hFirst : Script a)
    (hSecond : Script b)
    (hText : a.print = b.print) :
    a = b := by
  have hRead :=
    (hFirst.readable decodeNumeral_print).assignment [] .nothing
  have hRead' :=
    (hSecond.readable decodeNumeral_print).assignment []
      .nothing
  rw [hText, hRead'] at hRead
  cases hRead
  rfl

/- A text with brackets, quotes, a key and a function. -/
theorem eq_of_print_eq_nested :
    ∃ a b : Expr,
      Script a ∧ Script b ∧
      a.print =
        "(x + -2)['a\\'b']((y) => (\x7b k: true \x7d), z)" ∧
      a.print = b.print ∧ a = b := by
  have hScript :
      Script (.call
        (.member
          (.binary .add (.identifier "x")
            (.number ⟨true, 1024, 0⟩))
          "a'b")
        [.arrow ["y"] (.object [.mk "k" (.boolean true)]),
          .identifier "z"]) := by
    refine .call (.member _ (.binary (Or.inl rfl) ?_ ?_)) ?_
    · exact .identifier (by decide) (by decide) (by decide)
        (by decide)
    · exact .number (by decide)
    · intro e hMember
      rcases List.mem_pair.mp hMember with rfl | rfl
      · refine .arrow ?_ (.object ?_ ?_)
        · intro name hName
          rw [List.mem_singleton.mp hName]
          decide
        · intro key value hPair
          cases List.mem_singleton.mp hPair
          decide
        · intro key value hPair
          cases List.mem_singleton.mp hPair
          exact .boolean true
      · exact .identifier (by decide) (by decide) (by decide)
          (by decide)
  refine ⟨_, _, hScript, hScript, ?_, rfl, ?_⟩
  · decide +kernel
  · exact eq_of_print_eq hScript hScript rfl

end Jsx

end TemplateJsx
