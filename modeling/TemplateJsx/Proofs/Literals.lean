import TemplateJsx.Jsx.Print

/-
  What is quoted can be told again. A string literal ends at
  its first quote that is not escaped, stays on one line, and
  gives back its text when its escapes are undone. The text
  of an attribute is printed in one of three ways, and each
  of them gives back the text, whatever is printed next.

  Key definitions include:
    * `Jsx.splitLiteral`
    * `Jsx.unescaped?`
    * `Jsx.unescape?`
    * `Jsx.IsLiteral`
    * `Jsx.readUpTo`
    * `Jsx.readAttributeText`

  Main declarations:
    * `Jsx.escapeChar_cases`
    * `Jsx.splitLiteral_escapeChars`
    * `Jsx.unescape?_escapeChars`
    * `Jsx.isLiteral_singleQuoted`
    * `Jsx.quoted_text_recovered`
-/

------------------------------------------------------------
-- Reading Literals
------------------------------------------------------------

namespace TemplateJsx

namespace Jsx

/-
  What follows an opening quote, divided at the first quote
  that is not escaped: the inside of the literal and what
  comes after it.
-/
def splitLiteral : List Char → Option (List Char × List Char)
  | [] => none
  | '\'' :: rest => some ([], rest)
  | '\\' :: c :: rest =>
      (splitLiteral rest).map fun (inside, after) =>
        ('\\' :: c :: inside, after)
  | c :: rest =>
      (splitLiteral rest).map fun (inside, after) =>
        (c :: inside, after)

/-
  The character that one after a backslash stands for. Only
  line ends, quotes, backslashes and dollar signs are ever
  escaped.
-/
def unescaped? (c : Char) : Option Char :=
  if c = 'n' then
    some '\n'
  else if c = 'r' then
    some '\r'
  else if c = '\'' ∨ c = '\\' ∨ c = '$' then
    some c
  else
    none

/-
  The inside of a literal with its escapes undone. There is
  no text for an unknown escape or a backslash at the end.
-/
def unescape? : List Char → Option (List Char)
  | [] => some []
  | ['\\'] => none
  | '\\' :: c :: rest => do
      let first ← unescaped? c
      let others ← unescape? rest
      return first :: others
  | c :: rest => (unescape? rest).map (c :: ·)

/-
  A literal in single quotes that stands for a text: nothing
  in it ends a line, only its last quote is not escaped, and
  its escapes undone give the text.
-/
structure IsLiteral
    (literal : String)
    (inside : List Char)
    (text : String) : Prop where
  quoted : literal.toList = '\'' :: inside ++ ['\'']
  oneLine : '\n' ∉ inside ∧ '\r' ∉ inside
  closed : splitLiteral (inside ++ ['\'']) = some (inside, [])
  meaning : unescape? inside = some text.toList

------------------------------------------------------------
-- Escaped Characters
------------------------------------------------------------

/-
  A character that stands for itself in a literal, wherever
  it comes.
-/
structure IsPlain (c : Char) : Prop where
  notQuote : c ≠ '\''
  notBackslash : c ≠ '\\'
  notLineFeed : c ≠ '\n'
  notReturn : c ≠ '\r'

/- A character becomes itself or an escape that denotes it. -/
theorem escapeChar_cases
    (escapeDollar : Bool)
    (c : Char) :
    (escapeChar escapeDollar c = [c] ∧ IsPlain c) ∨
      ∃ mark, escapeChar escapeDollar c = ['\\', mark] ∧
        unescaped? mark = some c ∧
        mark ≠ '\n' ∧ mark ≠ '\r' := by
  unfold escapeChar
  by_cases hLine : c = '\n'
  · subst hLine
    exact Or.inr ⟨'n', rfl, by decide⟩
  · rw [if_neg hLine]
    by_cases hReturn : c = '\r'
    · subst hReturn
      exact Or.inr ⟨'r', rfl, by decide⟩
    · rw [if_neg hReturn]
      by_cases hMark : c = '\'' ∨ c = '\\'
      · rw [if_pos hMark]
        refine Or.inr ⟨c, rfl, ?_, hLine, hReturn⟩
        rcases hMark with rfl | rfl
        · rfl
        · rfl
      · rw [if_neg hMark]
        by_cases hDollar : c = '$' ∧ escapeDollar = true
        · rw [if_pos hDollar, hDollar.1]
          exact Or.inr ⟨'$', rfl, by decide⟩
        · rw [if_neg hDollar]
          rw [not_or] at hMark
          exact Or.inl
            ⟨rfl, hMark.1, hMark.2, hLine, hReturn⟩

/- Escapes are made character by character. -/
theorem escapeChars_cons
    (escapeDollar : Bool)
    (c : Char)
    (cs : List Char) :
    escapeChars escapeDollar (c :: cs) =
      escapeChar escapeDollar c ++ escapeChars escapeDollar cs :=
  List.flatMap_cons

/- An escaped character ends no line. -/
theorem oneLine_escapeChar
    (escapeDollar : Bool)
    (c : Char) :
    '\n' ∉ escapeChar escapeDollar c ∧
      '\r' ∉ escapeChar escapeDollar c := by
  rcases escapeChar_cases escapeDollar c with
    ⟨hSame, hPlain⟩ | ⟨mark, hEscape, _, hLine, hReturn⟩
  · rw [hSame]
    simp [hPlain.notLineFeed.symm, hPlain.notReturn.symm]
  · rw [hEscape]
    simp [hLine.symm, hReturn.symm]

/- No escaped text ends a line. -/
theorem oneLine_escapeChars
    (escapeDollar : Bool)
    (cs : List Char) :
    '\n' ∉ escapeChars escapeDollar cs ∧
      '\r' ∉ escapeChars escapeDollar cs := by
  unfold escapeChars
  constructor
  · intro hMember
    rcases List.mem_flatMap.mp hMember with ⟨c, _, hMember⟩
    exact (oneLine_escapeChar escapeDollar c).1 hMember
  · intro hMember
    rcases List.mem_flatMap.mp hMember with ⟨c, _, hMember⟩
    exact (oneLine_escapeChar escapeDollar c).2 hMember

------------------------------------------------------------
-- Literals of Texts
------------------------------------------------------------

/- Nothing inside an escaped text closes the literal. -/
theorem splitLiteral_escapeChars
    (escapeDollar : Bool)
    (cs after : List Char) :
    splitLiteral
        (escapeChars escapeDollar cs ++ '\'' :: after) =
      some (escapeChars escapeDollar cs, after) := by
  induction cs with
  | nil => rfl
  | cons c cs ih =>
      rw [escapeChars_cons, List.append_assoc]
      rcases escapeChar_cases escapeDollar c with
        ⟨hSame, hPlain⟩ | ⟨mark, hEscape, _⟩
      · rw [hSame, List.singleton_append, splitLiteral, ih]
        · rfl
        · exact hPlain.notQuote
        · exact fun _ _ hSlash _ => hPlain.notBackslash hSlash
      · rw [hEscape]
        simp only [List.cons_append, List.nil_append,
          splitLiteral, ih, Option.map_some]

/- Undoing the escapes of a text gives it back. -/
theorem unescape?_escapeChars
    (escapeDollar : Bool)
    (cs : List Char) :
    unescape? (escapeChars escapeDollar cs) = some cs := by
  induction cs with
  | nil => rfl
  | cons c cs ih =>
      rw [escapeChars_cons]
      rcases escapeChar_cases escapeDollar c with
        ⟨hSame, hPlain⟩ | ⟨mark, hEscape, hMark, _⟩
      · rw [hSame, List.singleton_append, unescape?, ih]
        · rfl
        · exact fun hSlash _ => hPlain.notBackslash hSlash
        · exact fun _ _ hSlash _ => hPlain.notBackslash hSlash
      · rw [hEscape]
        simp only [List.cons_append, List.nil_append,
          unescape?, hMark, ih]
        rfl

/- A quoted text is a literal that stands for the text. -/
theorem isLiteral_singleQuoted
    (escapeDollar : Bool)
    (text : String) :
    IsLiteral (singleQuoted escapeDollar text)
      (escapeChars escapeDollar text.toList) text where
  quoted := String.toList_ofList
  oneLine := oneLine_escapeChars escapeDollar text.toList
  closed :=
    splitLiteral_escapeChars escapeDollar text.toList []
  meaning := unescape?_escapeChars escapeDollar text.toList

------------------------------------------------------------
-- Texts of Attributes
------------------------------------------------------------

/- The text up to a quote, and what comes after the quote. -/
def readUpTo
    (quote : Char) : List Char → Option (List Char × List Char)
  | [] => none
  | c :: rest =>
      if c = quote then
        some ([], rest)
      else
        (readUpTo quote rest).map fun (text, after) =>
          (c :: text, after)

/-
  The text that is printed for an attribute, and what comes
  after it. There are no escapes between plain quotes, and a
  literal stands in braces.
-/
def readAttributeText :
    List Char → Option (List Char × List Char)
  | '"' :: rest => readUpTo '"' rest
  | '\'' :: rest => readUpTo '\'' rest
  | '\x7b' :: '\'' :: rest =>
      match splitLiteral rest with
      | some (inside, '\x7d' :: after) =>
          (unescape? inside).map fun text => (text, after)
      | _ => none
  | _ => none

/- A text without a quote is read up to the quote after it. -/
theorem readUpTo_append
    {quote : Char}
    {cs : List Char}
    (after : List Char)
    (hQuote : quote ∉ cs) :
    readUpTo quote (cs ++ quote :: after) =
      some (cs, after) := by
  induction cs with
  | nil => simp [readUpTo]
  | cons c cs ih =>
      rw [List.mem_cons, not_or] at hQuote
      rw [List.cons_append, readUpTo,
        if_neg (Ne.symm hQuote.1), ih hQuote.2]
      rfl

/- A literal in braces is read by undoing its escapes. -/
theorem readAttributeText_braces
    (text : String)
    (after : List Char) :
    readAttributeText
        ('\x7b' :: (singleQuoted false text).toList
          ++ '\x7d' :: after) =
      some (text.toList, after) := by
  rw [(isLiteral_singleQuoted false text).quoted]
  simp only [List.cons_append, List.append_assoc,
    List.nil_append]
  rw [readAttributeText, splitLiteral_escapeChars]
  exact congrArg (Option.map fun text => (text, after))
    (unescape?_escapeChars false text.toList)

/- What is printed of an attribute gives back its text. -/
theorem readAttributeText_print
    (name text : String)
    (after : List Char) :
    ∃ printed,
      (Attribute.text name text).print =
          name ++ "=" ++ printed ∧
        readAttributeText (printed.toList ++ after) =
          some (text.toList, after) := by
  rw [Attribute.print, printTextAttribute]
  by_cases hDouble : '"' ∈ text.toList
  · rw [if_neg (not_not_intro hDouble)]
    by_cases hSingle : '\'' ∈ text.toList
    · rw [if_neg (not_not_intro hSingle)]
      refine ⟨"\x7b" ++ singleQuoted false text ++ "\x7d",
        ?_, ?_⟩
      · simp only [← String.toList_inj, String.toList_append]
        simp
      · have hRead := readAttributeText_braces text after
        simpa using hRead
    · rw [if_pos hSingle]
      refine ⟨"'" ++ text ++ "'", ?_, ?_⟩
      · simp only [← String.toList_inj, String.toList_append]
        simp
      · have hRead := readUpTo_append after hSingle
        simpa [readAttributeText] using hRead
  · rw [if_pos hDouble]
    refine ⟨"\"" ++ text ++ "\"", ?_, ?_⟩
    · simp only [← String.toList_inj, String.toList_append]
      simp
    · have hRead := readUpTo_append after hDouble
      simpa [readAttributeText] using hRead

/-
  Quoting loses nothing: a text in single quotes is a literal
  that stands for it, and what is printed of it as the text
  of an attribute is read back as the text.
-/
theorem quoted_text_recovered
    (escapeDollar : Bool)
    (text : String) :
    (∃ inside,
        IsLiteral (singleQuoted escapeDollar text) inside
          text) ∧
      ∀ (name : String) (after : List Char), ∃ printed,
        (Attribute.text name text).print =
            name ++ "=" ++ printed ∧
          readAttributeText (printed.toList ++ after) =
            some (text.toList, after) :=
  ⟨⟨escapeChars escapeDollar text.toList,
      isLiteral_singleQuoted escapeDollar text⟩,
    fun name after => readAttributeText_print name text after⟩

end Jsx

end TemplateJsx
