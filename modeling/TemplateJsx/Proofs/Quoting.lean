import TemplateJsx.Jsx.Quote

/-
  Facts about quoting. A text that is a name after escaping
  was a name before, so an unquoted key stands for itself,
  and a quoted text can be read back up to its closing
  quote.

  Main declarations:
    * `Jsx.escapeChars_eq_self_of_isName`
    * `Jsx.nameOrQuoted_eq`
    * `Jsx.unquote`
    * `Jsx.unquote_escapeChars`
    * `Jsx.Quotes`
-/

------------------------------------------------------------
-- Names Need No Escapes
------------------------------------------------------------

namespace TemplateJsx

namespace Jsx

/- The backslash is in no name. -/
theorem isNameRest_backslash :
    Text.isNameRest '\\' = false := by
  decide

/- A character that is escaped turns into a backslash. -/
theorem escapeChar_eq_or_backslash
    (c : Char) :
    escapeChar false c = [c] ∨
      ∃ d, escapeChar false c = ['\\', d] := by
  unfold escapeChar
  by_cases hLine : c = '\n'
  · exact Or.inr ⟨'n', by simp [hLine]⟩
  · by_cases hReturn : c = '\r'
    · exact Or.inr ⟨'r', by simp [hReturn]⟩
    · by_cases hMark : c = '\'' ∨ c = '\\'
      · exact Or.inr ⟨c, by simp [hLine, hReturn, hMark]⟩
      · exact Or.inl (by simp [hLine, hReturn, hMark])

/- Escapes leave their mark among the name characters. -/
theorem escapeChars_eq_self_of_all
    {cs : List Char}
    (hAll : (escapeChars false cs).all Text.isNameRest) :
    escapeChars false cs = cs := by
  induction cs with
  | nil => rfl
  | cons c rest ih =>
      have hSplit :
          escapeChars false (c :: rest) =
            escapeChar false c ++ escapeChars false rest :=
        rfl
      rw [hSplit] at hAll ⊢
      rw [List.all_append, Bool.and_eq_true] at hAll
      rcases escapeChar_eq_or_backslash c with
        hSame | ⟨d, hEscaped⟩
      · rw [hSame, ih hAll.2]
        rfl
      · have hFalse := hAll.1
        simp [hEscaped, isNameRest_backslash] at hFalse

/- A name consists of characters that may follow in one. -/
theorem all_isNameRest_of_isName
    {cs : List Char}
    (hName : Text.isName cs) :
    cs.all Text.isNameRest := by
  cases cs with
  | nil => rfl
  | cons c rest =>
      simp only [Text.isName, Bool.and_eq_true] at hName
      simp only [List.all_cons, Bool.and_eq_true]
      refine ⟨?_, hName.2⟩
      simp [Text.isNameRest, hName.1]

/- A text that is a name after escaping was one before. -/
theorem escapeChars_eq_self_of_isName
    {cs : List Char}
    (hName : Text.isName (escapeChars false cs)) :
    escapeChars false cs = cs :=
  escapeChars_eq_self_of_all
    (all_isNameRest_of_isName hName)

/-
  A key that is not empty is written as itself if it is a
  name, and in quotes otherwise.
-/
theorem nameOrQuoted_eq
    {key : String}
    (hKey : key ≠ "") :
    (Text.IsLegalName key ∧ nameOrQuoted false key = key) ∨
      nameOrQuoted false key = singleQuoted false key := by
  unfold nameOrQuoted
  rw [if_neg hKey]
  by_cases hName :
      Text.isName (escapeChars false key.toList) = true
  · have hSame := escapeChars_eq_self_of_isName hName
    rw [if_pos hName, hSame, String.ofList_toList]
    rw [hSame] at hName
    exact Or.inl ⟨hName, rfl⟩
  · rw [if_neg hName]
    exact Or.inr rfl

------------------------------------------------------------
-- Reading Quoted Texts
------------------------------------------------------------

/- The character that an escaped character stands for. -/
def unescapeChar (c : Char) : Char :=
  if c = 'n' then
    '\n'
  else if c = 'r' then
    '\r'
  else
    c

/-
  Read up to the closing quote, and return the text with
  its escapes undone and what follows the quote.
-/
def unquote : List Char → Option (List Char × List Char)
  | [] => none
  | '\'' :: rest => some ([], rest)
  | '\\' :: c :: rest =>
      (unquote rest).map fun (text, after) =>
        (unescapeChar c :: text, after)
  | c :: rest =>
      (unquote rest).map fun (text, after) =>
        (c :: text, after)

/- A character in quotes reads as itself. -/
theorem unquote_escapeChar
    (c : Char)
    (rest : List Char) :
    unquote (escapeChar false c ++ rest) =
      (unquote rest).map fun (text, after) =>
        (c :: text, after) := by
  unfold escapeChar
  by_cases hLine : c = '\n'
  · subst hLine
    rfl
  · by_cases hReturn : c = '\r'
    · subst hReturn
      rfl
    · by_cases hQuote : c = '\''
      · subst hQuote
        rfl
      · by_cases hSlash : c = '\\'
        · subst hSlash
          rfl
        · simp [hLine, hReturn, hQuote, hSlash, unquote]

/- Reading undoes quoting. -/
theorem unquote_escapeChars
    (cs rest : List Char) :
    unquote (escapeChars false cs ++ '\'' :: rest) =
      some (cs, rest) := by
  induction cs with
  | nil => simp [escapeChars, unquote]
  | cons c cs ih =>
      have hSplit :
          escapeChars false (c :: cs) ++ '\'' :: rest =
            escapeChar false c ++
              (escapeChars false cs ++ '\'' :: rest) := by
        simp [escapeChars]
      rw [hSplit, unquote_escapeChar, ih]
      rfl

/- A literal in single quotes that reads as the given text. -/
def Quotes
    (literal : String)
    (text : String) : Prop :=
  ∃ cs, literal.toList = '\'' :: cs ∧
    unquote cs = some (text.toList, [])

/- A quoted text is a literal of that text. -/
theorem quotes_singleQuoted
    (text : String) :
    Quotes (singleQuoted false text) text := by
  refine ⟨escapeChars false text.toList ++ ['\''], ?_, ?_⟩
  · rw [singleQuoted, String.toList_ofList]
  · exact unquote_escapeChars text.toList []

end Jsx

end TemplateJsx
