import TemplateJsx.Text.Join

/-
  Splitting and joining. A text is split at a character into
  runs without it, and joining such runs with the character
  is undone by splitting.

  Main declarations:
    * `Text.splitChars_append`
    * `Text.splitAt_append`
    * `Text.splitAt_joinWith`
    * `Text.joinWith_splitAt`
-/

------------------------------------------------------------
-- Runs of Characters
------------------------------------------------------------

namespace TemplateJsx

namespace Text

theorem splitChars_ne_nil
    (sep : Char)
    (cs : List Char) :
    splitChars sep cs ≠ [] := by
  cases cs with
  | nil => simp [splitChars]
  | cons c rest =>
      rw [splitChars]
      split
      · simp
      · split
        · simp
        · simp

/- A separator divides what stands before it from the rest. -/
theorem splitChars_append
    (sep : Char)
    (xs ys : List Char) :
    splitChars sep (xs ++ sep :: ys) =
      splitChars sep xs ++ splitChars sep ys := by
  induction xs with
  | nil => simp [splitChars]
  | cons c rest ih =>
      rw [List.cons_append, splitChars, splitChars, ih]
      split
      · rfl
      · cases hRuns : splitChars sep rest with
        | nil => exact absurd hRuns (splitChars_ne_nil sep rest)
        | cons run runs => rfl

/- Without a separator there is one run. -/
theorem splitChars_of_not_mem
    {sep : Char}
    {cs : List Char}
    (hNone : sep ∉ cs) :
    splitChars sep cs = [cs] := by
  induction cs with
  | nil => rfl
  | cons c rest ih =>
      rw [List.mem_cons, not_or] at hNone
      rw [splitChars, if_neg (Ne.symm hNone.1), ih hNone.2]

/- No run holds a separator. -/
theorem not_mem_of_mem_splitChars
    {sep : Char}
    {cs run : List Char}
    (hRun : run ∈ splitChars sep cs) :
    sep ∉ run := by
  induction cs generalizing run with
  | nil =>
      rw [List.mem_singleton.mp hRun]
      exact List.not_mem_nil
  | cons c rest ih =>
      rw [splitChars] at hRun
      split at hRun
      · rcases List.mem_cons.mp hRun with rfl | hRest
        · exact List.not_mem_nil
        · exact ih hRest
      · rename_i hOther
        cases hRuns : splitChars sep rest with
        | nil => exact absurd hRuns (splitChars_ne_nil sep rest)
        | cons first runs =>
            rw [hRuns] at hRun ih
            rcases List.mem_cons.mp hRun with rfl | hRest
            · rw [List.mem_cons, not_or]
              exact ⟨Ne.symm hOther, ih List.mem_cons_self⟩
            · exact ih (List.mem_cons_of_mem _ hRest)

------------------------------------------------------------
-- Runs of Texts
------------------------------------------------------------

theorem splitAt_ne_nil
    (sep : Char)
    (s : String) :
    splitAt sep s ≠ [] := by
  unfold splitAt
  rw [Ne, List.map_eq_nil_iff]
  exact splitChars_ne_nil _ _

theorem splitAt_append
    {sep : Char}
    {between : String}
    (hBetween : between.toList = [sep])
    (first second : String) :
    splitAt sep (first ++ between ++ second) =
      splitAt sep first ++ splitAt sep second := by
  have hText :
      (first ++ between ++ second).toList =
        first.toList ++ sep :: second.toList := by
    simp [hBetween]
  unfold splitAt
  rw [hText, splitChars_append, List.map_append]

theorem splitAt_of_not_mem
    {sep : Char}
    {s : String}
    (hNone : sep ∉ s.toList) :
    splitAt sep s = [s] := by
  unfold splitAt
  rw [splitChars_of_not_mem hNone]
  simp

theorem not_mem_of_mem_splitAt
    {sep : Char}
    {s run : String}
    (hRun : run ∈ splitAt sep s) :
    sep ∉ run.toList := by
  rcases List.mem_map.mp hRun with ⟨cs, hChars, rfl⟩
  rw [String.toList_ofList]
  exact not_mem_of_mem_splitChars hChars

/- The runs of joined texts are the texts. -/
theorem splitAt_joinWith
    {sep : Char}
    {between : String}
    {texts : List String}
    (hBetween : between.toList = [sep])
    (hSome : texts ≠ [])
    (hNone : ∀ text ∈ texts, sep ∉ text.toList) :
    splitAt sep (joinWith between texts) = texts := by
  induction texts with
  | nil => exact absurd rfl hSome
  | cons text rest ih =>
      have hText := hNone text List.mem_cons_self
      cases rest with
      | nil => exact splitAt_of_not_mem hText
      | cons next others =>
          have hRest :=
            ih (List.cons_ne_nil _ _) fun other hOther =>
              hNone other (List.mem_cons_of_mem _ hOther)
          rw [joinWith, ← String.append_assoc,
            splitAt_append hBetween, splitAt_of_not_mem hText,
            hRest]
          rfl

/- What stands in front of joined texts joins the first. -/
theorem joinWith_append_cons
    (between front first : String)
    (rest : List String) :
    joinWith between ((front ++ first) :: rest) =
      front ++ joinWith between (first :: rest) := by
  cases rest with
  | nil => rfl
  | cons next others =>
      rw [joinWith, joinWith, String.append_assoc]

theorem joinWith_splitChars
    {sep : Char}
    {between : String}
    (hBetween : between = String.ofList [sep])
    (cs : List Char) :
    joinWith between ((splitChars sep cs).map String.ofList) =
      String.ofList cs := by
  induction cs with
  | nil => rfl
  | cons c rest ih =>
      have hFirst (tail : List Char) :
          String.ofList (c :: tail) =
            String.ofList [c] ++ String.ofList tail := by
        rw [← List.singleton_append, String.ofList_append]
      rw [splitChars, hFirst, ← ih]
      cases hRuns : splitChars sep rest with
      | nil => exact absurd hRuns (splitChars_ne_nil sep rest)
      | cons run runs =>
          split
          · rename_i hSep
            rw [hSep, ← hBetween]
            exact String.empty_append
          · rw [List.map_cons, List.map_cons, hFirst,
              joinWith_append_cons]

/- The runs of a text, joined, are the text. -/
theorem joinWith_splitAt
    {sep : Char}
    {between : String}
    (hBetween : between.toList = [sep])
    (s : String) :
    joinWith between (splitAt sep s) = s := by
  have hSingle : between = String.ofList [sep] := by
    rw [← hBetween, String.ofList_toList]
  unfold splitAt
  rw [joinWith_splitChars hSingle, String.ofList_toList]

end Text

end TemplateJsx
