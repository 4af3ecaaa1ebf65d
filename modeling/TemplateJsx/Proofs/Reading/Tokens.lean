import TemplateJsx.Proofs.Numeral
import TemplateJsx.Proofs.Reading.Reader

/-
  Reading names, keys, numerals and parameters. Each is read
  back from its text in front of any text that does not
  continue it, and what follows is left as it is.

  Key definitions include:
    * `Jsx.Stops`
    * `Jsx.Ends`
    * `Jsx.Closes`
    * `Jsx.Breaks`

  Main declarations:
    * `Jsx.readName_append`
    * `Jsx.readKey_append`
    * `Jsx.splitNumeral_print`
    * `Jsx.readParams_joinWith`
    * `Jsx.readParamList_name`
-/

------------------------------------------------------------
-- What May Follow
------------------------------------------------------------

namespace TemplateJsx

namespace Jsx

open Reading

/- Texts that continue no name and no numeral. -/
inductive Stops : List Char → Prop
  | nothing : Stops []
  | mark {c : Char} (rest : List Char) :
      Text.isNameRest c = false →
      c ≠ '.' →
      Stops (c :: rest)
  | access {c : Char} (rest : List Char) :
      Text.isNameStart c = true →
      Stops ('.' :: c :: rest)

/- Texts that continue no chain. -/
inductive Ends : List Char → Prop
  | nothing : Ends []
  | blank (rest : List Char) : Ends (' ' :: rest)
  | comma (rest : List Char) : Ends (',' :: rest)
  | bracket (rest : List Char) : Ends (')' :: rest)

/- Texts that continue no expression. -/
inductive Closes : List Char → Prop
  | nothing : Closes []
  | colon (rest : List Char) : Closes (' ' :: ':' :: rest)
  | brace (rest : List Char) : Closes (' ' :: '\x7d' :: rest)
  | comma (rest : List Char) : Closes (',' :: rest)
  | bracket (rest : List Char) : Closes (')' :: rest)

/- The operator in front, if any, binds at most so tightly. -/
def OperatorBelow
    (bound : Nat)
    (rest : List Char) : Prop :=
  ∀ op after, readOperator? rest = some (op, after) →
    op.precedence ≤ bound

theorem Ends.stops
    {rest : List Char}
    (h : Ends rest) :
    Stops rest := by
  cases h with
  | nothing => exact .nothing
  | blank rest => exact .mark rest (by decide) (by decide)
  | comma rest => exact .mark rest (by decide) (by decide)
  | bracket rest => exact .mark rest (by decide) (by decide)

theorem Closes.ends
    {rest : List Char}
    (h : Closes rest) :
    Ends rest := by
  cases h with
  | nothing => exact .nothing
  | colon rest => exact .blank _
  | brace rest => exact .blank _
  | comma rest => exact .comma rest
  | bracket rest => exact .bracket rest

/- What closes an expression starts with no operator. -/
theorem Closes.readOperator?_eq_none
    {rest : List Char}
    (h : Closes rest) :
    readOperator? rest = none := by
  cases h with
  | nothing => rfl
  | colon rest => rfl
  | brace rest => rfl
  | comma rest => rfl
  | bracket rest => rfl

/- What stops a name does not start with one of its letters. -/
theorem Stops.isNameRest_eq_false
    {rest : List Char}
    (h : Stops rest)
    (c : Char)
    (after : List Char)
    (hRest : rest = c :: after) :
    Text.isNameRest c = false := by
  subst hRest
  cases h with
  | mark rest hMark hPoint => exact hMark
  | access rest hStart => decide

------------------------------------------------------------
-- Names, Quoted Texts and Numerals
------------------------------------------------------------

/- What satisfies a test is divided off from what does not. -/
theorem takeWhile_append_stop
    {p : Char → Bool}
    {front rest : List Char}
    (hFront : ∀ c ∈ front, p c = true)
    (hRest : ∀ c after, rest = c :: after → p c = false) :
    (front ++ rest).takeWhile p = front ∧
      (front ++ rest).dropWhile p = rest := by
  have hNone : rest.takeWhile p = [] ∧
      rest.dropWhile p = rest := by
    cases rest with
    | nil => exact ⟨rfl, rfl⟩
    | cons c after =>
        have hStop := hRest c after rfl
        constructor
        · rw [List.takeWhile_cons, hStop]
          rfl
        · rw [List.dropWhile_cons, hStop]
          rfl
  constructor
  · rw [List.takeWhile_append_of_pos hFront, hNone.1,
      List.append_nil]
  · rw [List.dropWhile_append_of_pos hFront, hNone.2]

/- A name is read up to its end. -/
theorem readName_append
    {name : String}
    {rest : List Char}
    (hName : Text.IsLegalName name)
    (hEnd : ∀ c after, rest = c :: after →
      Text.isNameRest c = false) :
    readName (name.toList ++ rest) = some (name, rest) := by
  have hAll : ∀ c ∈ name.toList, Text.isNameRest c = true :=
    List.all_eq_true.mp (all_isNameRest_of_isName hName)
  rcases takeWhile_append_stop hAll hEnd with ⟨hTake, hDrop⟩
  have hTrue : Text.isName name.toList = true := hName
  unfold readName
  rw [hTake, hDrop, if_pos hTrue, String.ofList_toList]

/- Only a name starts with a letter. -/
theorem readName_eq_none
    {c : Char}
    {rest : List Char}
    (hStart : Text.isNameStart c = false) :
    readName (c :: rest) = none := by
  unfold readName
  rw [List.takeWhile_cons]
  split
  · simp [Text.isName, hStart]
  · rfl

/- A name starts with one of its letters. -/
theorem exists_start_of_isLegalName
    {name : String}
    (hName : Text.IsLegalName name) :
    ∃ c rest, name.toList = c :: rest ∧
      Text.isNameStart c = true := by
  unfold Text.IsLegalName at hName
  cases hChars : name.toList with
  | nil =>
      rw [hChars] at hName
      cases hName
  | cons c rest =>
      rw [hChars, Text.isName, Bool.and_eq_true] at hName
      exact ⟨c, rest, rfl, hName.1⟩

/- The characters of a quoted text. -/
theorem toList_singleQuoted
    (text : String) :
    (singleQuoted false text).toList =
      '\'' :: (escapeChars false text.toList ++ ['\'']) := by
  unfold singleQuoted
  exact String.toList_ofList

/- The other words are written like names. -/
theorem isLegalName_true : Text.IsLegalName "true" := by
  decide

theorem isLegalName_false : Text.IsLegalName "false" := by
  decide

theorem isLegalName_null : Text.IsLegalName "null" := by
  decide

/- A quoted text is read back up to its closing quote. -/
theorem readKey_singleQuoted
    (text : String)
    (rest : List Char) :
    readKey ((singleQuoted false text).toList ++ rest) =
      some (text, rest) := by
  rw [toList_singleQuoted, List.cons_append, readKey,
    if_pos rfl, List.append_assoc, List.singleton_append,
    unquote_escapeChars]
  simp [String.ofList_toList]

/- A key is read back up to its end. -/
theorem readKey_append
    {key : String}
    {rest : List Char}
    (hKey : key ≠ "")
    (hStops : Stops rest) :
    readKey ((nameOrQuoted false key).toList ++ rest) =
      some (key, rest) := by
  rcases nameOrQuoted_eq hKey with ⟨hName, hSame⟩ | hQuoted
  · rw [hSame]
    have hRead := readName_append hName hStops.isNameRest_eq_false
    rcases exists_start_of_isLegalName hName with
      ⟨c, after, hChars, hStart⟩
    rw [hChars, List.cons_append] at hRead ⊢
    have hQuote : c ≠ '\'' := ne_of_test hStart (by decide)
    rw [readKey, if_neg hQuote]
    exact hRead
  · rw [hQuoted]
    exact readKey_singleQuoted key rest

/- A digit may stand in a name, but not at its start. -/
theorem isNameStart_of_isDigit
    {c : Char}
    (hDigit : c.isDigit = true) :
    Text.isNameStart c = false := by
  have hAlpha : c.isAlpha = false := by
    delta Char.isDigit at hDigit
    delta Char.isAlpha Char.isUpper Char.isLower
    grind
  have hOther : ∀ d : Char, d.isDigit = false →
      (c == d) = false := by
    intro d hMark
    exact beq_eq_false_iff_ne.mpr (ne_of_test hDigit hMark)
  unfold Text.isNameStart
  rw [hAlpha, hOther '_' (by decide), hOther '$' (by decide),
    hOther '\u017f' (by decide), hOther '\u212a' (by decide)]
  rfl

/- The characters that start a numeral start no name. -/
theorem isNameStart_of_numeral
    {c : Char}
    (hStart : c = '-' ∨ c.isDigit = true) :
    Text.isNameStart c = false := by
  rcases hStart with hMinus | hDigit
  · rw [hMinus]
    decide
  · exact isNameStart_of_isDigit hDigit

/- A printed number starts like a numeral. -/
theorem exists_start_of_numeral
    {x : Number}
    (hFinite : x.IsFinite) :
    ∃ c cs, x.print.toList = c :: cs ∧
      (c = '-' ∨ c.isDigit = true) := by
  rw [Number.toList_print hFinite]
  by_cases hSign : x.negative = true
  · rw [if_pos hSign]
    exact ⟨'-', x.printMagnitude, rfl, Or.inl rfl⟩
  · rw [if_neg hSign]
    rcases Number.printMagnitude_eq_cons x with
      ⟨c, cs, hChars, hDigit⟩
    exact ⟨c, cs, hChars, Or.inr hDigit⟩

/- A magnitude is divided off where no digit follows it. -/
theorem splitMagnitude_append
    {whole after rest : List Char}
    (hWhole : ∀ c ∈ whole, c.isDigit = true)
    (hAfter : ∀ c ∈ after, c.isDigit = true)
    (hStops : Stops rest) :
    splitMagnitude (Number.pointed whole after ++ rest) =
      (Number.pointed whole after, rest) := by
  have hEnd : ∀ c tail, rest = c :: tail →
      c.isDigit = false := by
    intro c tail hRest
    have hMark := hStops.isNameRest_eq_false c tail hRest
    unfold Text.isNameRest at hMark
    rw [Bool.or_eq_false_iff] at hMark
    exact hMark.2
  unfold Number.pointed
  by_cases hNone : after = []
  · rw [if_pos hNone]
    rcases takeWhile_append_stop hWhole hEnd with
      ⟨hTake, hDrop⟩
    unfold splitMagnitude
    rw [hTake, hDrop]
    cases hStops with
    | nothing => rfl
    | mark tail hMark hPoint =>
        split
        · rename_i hList
          exact absurd (List.cons.inj hList).1 hPoint
        · rfl
    | @access c tail hStart =>
        have hDigit : c.isDigit = false := by
          rw [← Bool.not_eq_true]
          intro hDigit
          rw [isNameStart_of_isDigit hDigit] at hStart
          cases hStart
        simp [hDigit]
  · rw [if_neg hNone]
    have hPoint : ∀ c tail, '.' :: (after ++ rest) = c :: tail →
        c.isDigit = false := by
      intro c tail hList
      rw [← (List.cons.inj hList).1]
      decide
    rcases takeWhile_append_stop hWhole hPoint with
      ⟨hTake, hDrop⟩
    rcases takeWhile_append_stop hAfter hEnd with
      ⟨hTake', hDrop'⟩
    rw [List.append_assoc, List.cons_append]
    unfold splitMagnitude
    rw [hTake, hDrop]
    cases after with
    | nil => exact absurd rfl hNone
    | cons c tail =>
        have hDigit := hAfter c List.mem_cons_self
        rw [List.cons_append] at hTake' hDrop' ⊢
        change (if c.isDigit = true then _ else _) = _
        rw [if_pos hDigit, hTake', hDrop']

/- A printed number is divided off as it was printed. -/
theorem splitNumeral_print
    {x : Number}
    {rest : List Char}
    (hFinite : x.IsFinite)
    (hStops : Stops rest) :
    splitNumeral (x.print.toList ++ rest) =
      (x.print.toList, rest) := by
  rcases Number.printMagnitude_denotes x with
    ⟨d, whole, after, _, hDenotes⟩
  have hSplit :
      splitMagnitude (x.printMagnitude ++ rest) =
        (x.printMagnitude, rest) := by
    rw [hDenotes.text]
    exact splitMagnitude_append hDenotes.digits_whole
      hDenotes.digits_after hStops
  rcases Number.printMagnitude_eq_cons x with
    ⟨c, tail, hStart, hDigit⟩
  have hMinus : c ≠ '-' := by
    rintro rfl
    exact absurd hDigit (by decide)
  rw [Number.toList_print hFinite]
  by_cases hSign : x.negative = true
  · rw [if_pos hSign, List.cons_append, splitNumeral,
      if_pos rfl, hSplit]
  · rw [if_neg hSign]
    rw [hStart, List.cons_append] at hSplit ⊢
    rw [splitNumeral, if_neg hMinus]
    exact hSplit

------------------------------------------------------------
-- Parameters
------------------------------------------------------------

/- Joined texts, from the left. -/
theorem toList_joinWith_cons
    (first second : String)
    (rest : List String) :
    (Text.joinWith ", " (first :: second :: rest)).toList =
      first.toList ++ ',' :: ' ' ::
        (Text.joinWith ", " (second :: rest)).toList := by
  simp [Text.joinWith, String.toList_append]

/- Parameters are read up to the arrow. -/
theorem readNames_joinWith
    {name : String}
    {names : List String}
    (rest : List Char)
    (hFirst : Text.IsLegalName name)
    (hNames : ∀ other ∈ names, Text.IsLegalName other) :
    plain (readNames
        ((Text.joinWith ", " (name :: names)).toList ++
          ')' :: ' ' :: '=' :: '>' :: ' ' :: rest)) =
      some (name :: names, rest) := by
  induction names generalizing name with
  | nil =>
      exact readNames_arrow
        (readName_append hFirst
          (Ends.bracket _).stops.isNameRest_eq_false)
  | cons next names ih =>
      have hNext := hNames next List.mem_cons_self
      have hOthers : ∀ other ∈ names,
          Text.IsLegalName other :=
        fun other hOther =>
          hNames other (List.mem_cons_of_mem _ hOther)
      rw [toList_joinWith_cons, List.append_assoc,
        List.cons_append, List.cons_append]
      exact readNames_comma
        (readName_append hFirst
          (Ends.comma _).stops.isNameRest_eq_false)
        (ih hNext hOthers)

/- What does not start with a bracket starts with a name. -/
theorem readParamList_eq
    {c : Char}
    (cs : List Char)
    (hStart : c ≠ ')') :
    readParamList (c :: cs) = readNames (c :: cs) := by
  rw [readParamList]
  intro after hList
  exact hStart (List.cons.inj hList).1

/- Joined texts start as the first of them does. -/
theorem toList_joinWith_eq_cons
    {first : String}
    {c : Char}
    {cs : List Char}
    (others : List String)
    (hFirst : first.toList = c :: cs) :
    ∃ rest,
      (Text.joinWith ", " (first :: others)).toList =
        c :: rest := by
  cases others with
  | nil => exact ⟨cs, hFirst⟩
  | cons next others =>
      rw [toList_joinWith_cons, hFirst, List.cons_append]
      exact ⟨_, rfl⟩

/- Parameters in brackets are read with their arrow. -/
theorem readParams_joinWith
    {params : List String}
    (rest : List Char)
    (hParams : ∀ name ∈ params, Text.IsLegalName name) :
    plain (readParams
        ('(' :: ((Text.joinWith ", " params).toList ++
          ')' :: ' ' :: '=' :: '>' :: ' ' :: rest))) =
      some (params, rest) := by
  cases params with
  | nil => rfl
  | cons name names =>
      have hFirst := hParams name List.mem_cons_self
      have hRead := readNames_joinWith rest hFirst
        (fun other hOther =>
          hParams other (List.mem_cons_of_mem _ hOther))
      rcases exists_start_of_isLegalName hFirst with
        ⟨c, after, hChars, hStart⟩
      rcases toList_joinWith_eq_cons names hChars with
        ⟨tail, hTail⟩
      have hBracket : c ≠ ')' := ne_of_test hStart (by decide)
      rw [hTail, List.cons_append] at hRead ⊢
      rw [readParams, readParamList_eq _ hBracket, plain_map_id]
      exact hRead

/- A bracket without parameters opens no function. -/
theorem readParams_bracket
    {cs : List Char}
    (hNone : readParamList cs = none) :
    readParams ('(' :: cs) = none := by
  rw [readParams, hNone]
  rfl

/- Texts that end a name without ending a parameter. -/
inductive Breaks : List Char → Prop
  | mark {c : Char} (rest : List Char) :
      Text.isNameRest c = false →
      c ≠ ',' →
      c ≠ ')' →
      Breaks (c :: rest)

theorem Breaks.blank (rest : List Char) :
    Breaks (' ' :: rest) :=
  .mark rest (by decide) (by decide) (by decide)

theorem Breaks.point (rest : List Char) :
    Breaks ('.' :: rest) :=
  .mark rest (by decide) (by decide) (by decide)

theorem Breaks.square (rest : List Char) :
    Breaks ('[' :: rest) :=
  .mark rest (by decide) (by decide) (by decide)

theorem Breaks.bracket (rest : List Char) :
    Breaks ('(' :: rest) :=
  .mark rest (by decide) (by decide) (by decide)

/- Parameters start with a name. -/
theorem readParamList_eq_none
    {c : Char}
    (cs : List Char)
    (hStart : Text.isNameStart c = false)
    (hBracket : c ≠ ')') :
    readParamList (c :: cs) = none := by
  rw [readParamList_eq cs hBracket, readNames,
    attach_eq_none _ (readName_eq_none hStart)]
  rfl

/- A name must be followed by a comma or the arrow. -/
theorem readParamList_name
    {name : String}
    {rest : List Char}
    (hName : Text.IsLegalName name)
    (hBreaks : Breaks rest) :
    readParamList (name.toList ++ rest) = none := by
  rcases hBreaks with ⟨after, hMark, hComma, hBracket⟩
  have hRead : readName (name.toList ++ _ :: after) = _ :=
    readName_append hName fun c tail hList => by
      rw [← (List.cons.inj hList).1]
      exact hMark
  rcases exists_start_of_isLegalName hName with
    ⟨c, tail, hChars, hStart⟩
  have hFirst : c ≠ ')' := ne_of_test hStart (by decide)
  rw [hChars, List.cons_append] at hRead ⊢
  rw [readParamList_eq _ hFirst, readNames,
    attach_eq_some _ hRead, Option.bind_eq_bind,
    Option.bind_some]
  exact andMore_eq_none rfl hComma hBracket

end Jsx

end TemplateJsx
