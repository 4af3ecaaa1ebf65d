import TemplateJsx.Project.Compile

/-
  The names of the files that hold modules. No change of case
  brings a separator into a name, so that the module of a
  template lies in the output directory itself. It is never
  taken for a template.

  Main declarations:
    * `Text.eq_of_upperCase`
    * `Text.eq_of_lowerCase`
    * `Component.not_mem_name`
    * `Component.baseName?_module`
    * `Project.TemplateFile.isName_moduleName`
-/

------------------------------------------------------------
-- Cases
------------------------------------------------------------

namespace TemplateJsx

namespace Text

/- All images of the run lie behind the separator. -/
def CaseRun.IsBehind (run : CaseRun) : Prop :=
  47 < (run.first : Int) + run.shift

instance (run : CaseRun) : Decidable run.IsBehind := by
  unfold CaseRun.IsBehind
  infer_instance

theorem isBehind_of_mem_upperRuns :
    ∀ run ∈ upperRuns, run.IsBehind := by
  decide +kernel

theorem isBehind_of_mem_lowerRuns :
    ∀ run ∈ lowerRuns, run.IsBehind := by
  decide +kernel

theorem ofNat_ne_separator
    {code : Nat}
    (hCode : code ≠ 47) :
    Char.ofNat code ≠ '/' := by
  intro hSame
  have hValue : (Char.ofNat code).toNat = 47 := by
    rw [hSame]
    rfl
  -- What is no code point is mapped to the first one.
  by_cases hValid : code.isValidChar
  · rw [Char.ofNat, dif_pos hValid] at hValue
    exact hCode hValue
  · rw [Char.ofNat, dif_neg hValid] at hValue
    cases hValue

theorem CaseRun.mapped?_ne_separator
    {run : CaseRun}
    (code : Nat)
    (hBehind : run.IsBehind) :
    run.mapped? code ≠ some '/' := by
  unfold mapped?
  unfold IsBehind at hBehind
  split
  · rename_i hCode
    rw [Ne, Option.some_inj]
    apply ofNat_ne_separator
    omega
  · simp

/- Only the separator itself is mapped to the separator. -/
theorem eq_separator_of_mapped
    {runs : List CaseRun}
    {c : Char}
    (hBehind : ∀ run ∈ runs, run.IsBehind)
    (hSame :
      (runs.findSome? (·.mapped? c.toNat)).getD c = '/') :
    c = '/' := by
  cases hFound : runs.findSome? (·.mapped? c.toNat) with
  | none =>
      rw [hFound] at hSame
      exact hSame
  | some image =>
      rw [hFound, Option.getD_some] at hSame
      subst hSame
      rcases List.exists_of_findSome?_eq_some hFound with
        ⟨run, hRun, hMapped⟩
      exact absurd hMapped
        (run.mapped?_ne_separator _ (hBehind run hRun))

theorem eq_separator_of_upperCase
    {c : Char}
    (hSame : upperCase c = '/') :
    c = '/' :=
  eq_separator_of_mapped isBehind_of_mem_upperRuns hSame

theorem eq_separator_of_lowerCase
    {c : Char}
    (hSame : lowerCase c = '/') :
    c = '/' :=
  eq_separator_of_mapped isBehind_of_mem_lowerRuns hSame

theorem eq_separator_of_toUpper
    {c : Char}
    (hSame : c.toUpper = '/') :
    c = '/' := by
  by_cases hLower : 'a'.val ≤ c.val ∧ c.val ≤ 'z'.val
  · have hImage : c.toUpper.val = c.val + ('A'.val - 'a'.val) := by
      delta Char.toUpper
      rw [dif_pos hLower]
    rw [hSame] at hImage
    have hFirst := UInt32.le_iff_toNat_le.mp hLower.1
    have hLast := UInt32.le_iff_toNat_le.mp hLower.2
    have hSum := congrArg UInt32.toNat hImage
    rw [UInt32.toNat_add] at hSum
    change 97 ≤ c.val.toNat at hFirst
    change c.val.toNat ≤ 122 at hLast
    change 47 = (c.val.toNat + 4294967264) % 4294967296 at hSum
    omega
  · have hKept : c.toUpper = c := dif_neg hLower
    exact hKept.symm.trans hSame

/- Camel case takes its characters from the name. -/
theorem mem_of_mem_camelChars
    {dashes : Nat}
    {cs : List Char}
    (hMember : '/' ∈ camelChars dashes cs) :
    '/' ∈ cs := by
  have hDashes : ∀ count, '/' ∉ List.replicate count '-' := by
    intro count hIn
    have hSame := List.eq_of_mem_replicate hIn
    revert hSame
    decide
  induction cs generalizing dashes with
  | nil => exact absurd hMember (hDashes dashes)
  | cons c rest ih =>
      rw [camelChars] at hMember
      split at hMember
      · exact List.mem_cons_of_mem _ (ih hMember)
      · split at hMember
        · rcases List.mem_cons.mp hMember with hFirst | hRest
          · rw [eq_separator_of_toUpper hFirst.symm]
            exact List.mem_cons_self
          · exact List.mem_cons_of_mem _ (ih hRest)
        · rcases List.mem_append.mp hMember with hDash | hOther
          · exact absurd hDash (hDashes dashes)
          · rcases List.mem_cons.mp hOther with hFirst | hRest
            · rw [← hFirst]
              exact List.mem_cons_self
            · exact List.mem_cons_of_mem _ (ih hRest)

theorem mem_of_mem_capitalize
    {s : String}
    (hMember : '/' ∈ (capitalize s).toList) :
    '/' ∈ s.toList := by
  unfold capitalize at hMember
  split at hMember
  · exact hMember
  · rename_i c rest hChars
    rw [String.toList_ofList] at hMember
    rw [hChars]
    rcases List.mem_cons.mp hMember with hFirst | hRest
    · rw [eq_separator_of_upperCase hFirst.symm]
      exact List.mem_cons_self
    · exact List.mem_cons_of_mem _ hRest

end Text

------------------------------------------------------------
-- Components
------------------------------------------------------------

namespace Component

theorem not_mem_of_baseName?
    {file base : String}
    (hFile : '/' ∉ file.toList)
    (hBase : baseName? file = some base) :
    '/' ∉ base.toList := by
  unfold baseName? at hBase
  rcases Option.map_eq_some_iff.mp hBase with ⟨cs, hFound, rfl⟩
  rcases List.exists_of_findSome?_eq_some hFound with
    ⟨suffix, _, hBefore⟩
  unfold before? at hBefore
  split at hBefore
  · cases hBefore
    rw [String.toList_ofList]
    exact fun hMember => hFile (List.mem_of_mem_take hMember)
  · cases hBefore

/- A component has no separator that its file has not. -/
theorem not_mem_name
    {base : String}
    (hBase : '/' ∉ base.toList) :
    '/' ∉ (name base).toList := by
  intro hMember
  have hCamel :
      '/' ∉ (Text.camelCase (Text.lowerText
        (String.ofList (base.toList.map dashed)))).toList := by
    intro hIn
    rw [Text.camelCase, Text.lowerText, String.toList_ofList,
      String.toList_ofList, String.toList_ofList] at hIn
    have hLower := Text.mem_of_mem_camelChars hIn
    rcases List.mem_map.mp hLower with ⟨small, hSmall, hSame⟩
    rw [Text.eq_separator_of_lowerCase hSame] at hSmall
    rcases List.mem_map.mp hSmall with ⟨c, hChar, hDashed⟩
    unfold dashed at hDashed
    split at hDashed
    · revert hDashed
      decide
    · rw [hDashed] at hChar
      exact hBase hChar
  unfold name at hMember
  simp only at hMember
  split at hMember
  · revert hMember
    decide
  · split at hMember
    · have hIn := Text.mem_of_mem_capitalize hMember
      rw [String.toList_append] at hIn
      rcases List.mem_append.mp hIn with hFirst | hRest
      · revert hFirst
        decide
      · exact hCamel hRest
    · exact hCamel (Text.mem_of_mem_capitalize hMember)

/- A module is no template. -/
theorem baseName?_module
    (component : String) :
    baseName? (component ++ ".jsx") = none := by
  have hEnd : ∀ suffix ∈ suffixes,
      before? suffix.toList (component ++ ".jsx").toList = none := by
    intro suffix hSuffix
    unfold before?
    rw [if_neg]
    rw [List.isSuffixOf_iff_suffix]
    rintro ⟨before, hSame⟩
    rw [String.toList_append] at hSame
    have hLast := congrArg List.getLast? hSame
    simp [suffixes] at hSuffix
    rcases hSuffix with rfl | rfl | rfl
    all_goals simp at hLast
  unfold baseName?
  rw [Option.map_eq_none_iff, List.findSome?_eq_none_iff]
  exact hEnd

end Component

namespace Project

namespace TemplateFile

/- The module of a template is a file that can be written. -/
theorem isName_moduleName
    {file : TemplateFile}
    (hComponent : '/' ∉ file.component.toList) :
    IsName file.moduleName := by
  unfold moduleName
  have hLong : 4 ≤ (file.component ++ ".jsx").length := by
    rw [String.length_append]
    exact Nat.le_add_left 4 _
  have hOther : ∀ short ∈ ["", ".", ".."],
      file.component ++ ".jsx" ≠ short := by
    intro short hShort hSame
    have hLess : ∀ s ∈ ["", ".", ".."], s.length < 4 := by decide
    rw [hSame] at hLong
    exact absurd hLong (Nat.not_le.mpr (hLess short hShort))
  refine ⟨hOther _ (by simp), hOther _ (by simp),
    hOther _ (by simp), ?_⟩
  rw [String.toList_append, List.mem_append]
  rintro (hFirst | hEnd)
  · exact hComponent hFirst
  · revert hEnd
    decide

theorem moduleName_injective
    {file other : TemplateFile}
    (hSame : file.moduleName = other.moduleName) :
    file.component = other.component := by
  unfold moduleName at hSame
  exact (String.append_left_inj ".jsx").mp hSame

end TemplateFile

end Project

end TemplateJsx
