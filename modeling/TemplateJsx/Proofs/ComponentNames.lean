import Mathlib.Data.Bool.AllAny
import Mathlib.Logic.Relation
import TemplateJsx.Component.Name
import TemplateJsx.Proofs.CamelCase

/-
  The names of components. A file whose name consists of
  letters, digits and separators gives its component a name
  of letters and digits with a capital in front, unless a
  separator stands last. Such a name does not depend on which
  separators divide the words of the file's name, on how many
  there are between two words, or on the case of its letters.

  Key definitions include:
    * `Component.IsWordChar`
    * `Component.IsSeparator`
    * `Component.IsComponentName`
    * `Component.EndsInWord`
    * `Component.Variant`
    * `Component.Restyles`

  Main declarations:
    * `Component.camelChars_run_length`
    * `Component.name_eq_titled`
    * `Component.IsBase.step`
    * `Component.IsBase.steps`
    * `Component.name_well_formed_and_stable`
-/

------------------------------------------------------------
-- The Case of Letters
------------------------------------------------------------

namespace TemplateJsx

namespace Text

/- Only the first run of a table reaches the first codes. -/
theorem findSome?_mapped?_of_lt
    {runs : List CaseRun}
    {code : Nat}
    (hBehind : ∀ run ∈ runs.tail, 128 ≤ run.first)
    (hCode : code < 128) :
    runs.findSome? (·.mapped? code) =
      runs.head?.bind (·.mapped? code) := by
  cases runs with
  | nil => rfl
  | cons first rest =>
      have hRest : rest.findSome? (·.mapped? code) = none := by
        rw [List.findSome?_eq_none_iff]
        intro run hRun
        have hFirst := hBehind run hRun
        exact if_neg fun hMapped => by omega
      rw [List.findSome?_cons, hRest]
      cases hMapped : first.mapped? code with
      | none => simp [hMapped]
      | some image => simp [hMapped]

/- A table that agrees with `f` on the first codes. -/
theorem getD_mapped?_of_lt
    {runs : List CaseRun}
    {f : Char → Char}
    {c : Char}
    (hBehind : ∀ run ∈ runs.tail, 128 ≤ run.first)
    (hFirst : ∀ code < 128,
      let c := Char.ofNat code
      (runs.head?.bind (·.mapped? c.toNat)).getD c = f c)
    (hCode : c.toNat < 128) :
    (runs.findSome? (·.mapped? c.toNat)).getD c = f c := by
  rw [findSome?_mapped?_of_lt hBehind hCode]
  exact forall_ascii
    (P := fun c =>
      (runs.head?.bind (·.mapped? c.toNat)).getD c = f c)
    hFirst hCode

theorem upperCase_of_lt
    {c : Char}
    (hCode : c.toNat < 128) :
    upperCase c = c.toUpper :=
  getD_mapped?_of_lt (by decide +kernel) (by decide +kernel)
    hCode

theorem lowerCase_of_lt
    {c : Char}
    (hCode : c.toNat < 128) :
    lowerCase c = c.toLower :=
  getD_mapped?_of_lt (by decide +kernel) (by decide +kernel)
    hCode

end Text

------------------------------------------------------------
-- Characters of Names
------------------------------------------------------------

namespace Component

open Text (AbsorbsDashes IsSmallLetter EndsInDash camelChars)

/- The letters from `A` to `Z`. -/
def IsCapital (c : Char) : Prop :=
  'A' ≤ c ∧ c ≤ 'Z'

instance (c : Char) : Decidable (IsCapital c) := by
  unfold IsCapital
  infer_instance

/- The letters of either case. -/
def IsLetter (c : Char) : Prop :=
  IsSmallLetter c ∨ IsCapital c

instance (c : Char) : Decidable (IsLetter c) := by
  unfold IsLetter
  infer_instance

/- Letters and digits. -/
def IsWordChar (c : Char) : Prop :=
  IsLetter c ∨ ('0' ≤ c ∧ c ≤ '9')

instance (c : Char) : Decidable (IsWordChar c) := by
  unfold IsWordChar
  infer_instance

/- The characters that divide words. -/
def IsSeparator (c : Char) : Prop :=
  c = '_' ∨ c = '-' ∨ c = '.' ∨ c = ' '

instance (c : Char) : Decidable (IsSeparator c) := by
  unfold IsSeparator
  infer_instance

theorem IsWordChar.toNat_lt
    {c : Char}
    (hWord : IsWordChar c) :
    c.toNat < 128 := by
  rcases hWord with (hSmall | hCapital) | hDigit
  · exact AbsorbsDashes.toNat_lt (.inl hSmall)
  · exact Nat.lt_of_le_of_lt
      (UInt32.le_iff_toNat_le.mp hCapital.2) (by decide)
  · exact AbsorbsDashes.toNat_lt (.inr hDigit)

theorem IsSeparator.not_isWordChar
    {c : Char}
    (hSeparator : IsSeparator c) :
    ¬ IsWordChar c := by
  rcases hSeparator with rfl | rfl | rfl | rfl
  · decide
  · decide
  · decide
  · decide

/- A character as it enters camel case. -/
def settled (c : Char) : Char :=
  Text.lowerCase (dashed c)

theorem IsSeparator.settled_eq
    {c : Char}
    (hSeparator : IsSeparator c) :
    settled c = '-' := by
  have hDash : dashed c = '-' := by
    rcases hSeparator with rfl | rfl | rfl | rfl
    · rfl
    · rfl
    · rfl
    · rfl
  unfold settled
  rw [hDash, Text.lowerCase_of_lt (by decide)]
  rfl

theorem IsWordChar.settled_eq
    {c : Char}
    (hWord : IsWordChar c) :
    settled c = c.toLower := by
  have hSame : dashed c = c := by
    apply if_neg
    rintro (rfl | rfl | rfl)
    · exact IsSeparator.not_isWordChar (by decide) hWord
    · exact IsSeparator.not_isWordChar (by decide) hWord
    · exact IsSeparator.not_isWordChar (by decide) hWord
  unfold settled
  rw [hSame, Text.lowerCase_of_lt hWord.toNat_lt]

theorem IsWordChar.absorbsDashes_settled
    {c : Char}
    (hWord : IsWordChar c) :
    AbsorbsDashes (settled c) := by
  rw [hWord.settled_eq]
  exact Text.forall_ascii
    (P := fun c => IsWordChar c → AbsorbsDashes c.toLower)
    (by decide +kernel) hWord.toNat_lt hWord

theorem isWordChar_of_absorbsDashes
    {c : Char}
    (hAbsorbs : AbsorbsDashes c) :
    IsWordChar c := by
  rcases hAbsorbs with hSmall | hDigit
  · exact .inl (.inl hSmall)
  · exact .inr hDigit

theorem isWordChar_toUpper
    {c : Char}
    (hAbsorbs : AbsorbsDashes c) :
    IsWordChar c.toUpper :=
  Text.forall_ascii
    (P := fun c => AbsorbsDashes c → IsWordChar c.toUpper)
    (by decide +kernel) hAbsorbs.toNat_lt hAbsorbs

/- What is no digit has a capital. -/
theorem IsWordChar.isCapital_upperCase
    {c : Char}
    (hWord : IsWordChar c)
    (hDigit : ¬ c.isDigit = true) :
    IsCapital (Text.upperCase c) := by
  rw [Text.upperCase_of_lt hWord.toNat_lt]
  exact Text.forall_ascii
    (P := fun c =>
      IsWordChar c → ¬ c.isDigit = true → IsCapital c.toUpper)
    (by decide +kernel) hWord.toNat_lt hWord hDigit

------------------------------------------------------------
-- Words with Dashes between Them
------------------------------------------------------------

/- Small letters and digits with dashes between them. -/
def IsDashed (cs : List Char) : Prop :=
  ∀ c ∈ cs, c = '-' ∨ AbsorbsDashes c

variable {dashes dashes' : Nat}
variable {cs : List Char}

theorem IsDashed.tail
    {c : Char}
    (hDashed : IsDashed (c :: cs)) :
    IsDashed cs :=
  fun d hMember => hDashed d (List.mem_cons_of_mem c hMember)

/- In such a text every other character absorbs dashes. -/
theorem IsDashed.absorbsDashes
    {c : Char}
    (hDashed : IsDashed (c :: cs))
    (hDash : c ≠ '-') :
    AbsorbsDashes c :=
  (hDashed c List.mem_cons_self).resolve_left hDash

/- So no dash is left unless the text ends in one. -/
theorem isWordChar_of_mem_camelChars
    (hDashed : IsDashed cs)
    (hEnds : ¬ EndsInDash dashes cs) :
    ∀ c ∈ camelChars dashes cs, IsWordChar c := by
  induction dashes, cs using Text.camel_induction with
  | nil dashes =>
      rw [Text.endsInDash_nil_iff, not_not] at hEnds
      rw [hEnds]
      exact List.forall_mem_nil _
  | dash dashes rest ih =>
      rw [Text.endsInDash_dash_iff] at hEnds
      rw [Text.camelChars_dash]
      exact ih hDashed.tail hEnds
  | absorbed dashes c rest hDash hSome hAbsorbs ih =>
      rw [Text.endsInDash_cons_iff hDash] at hEnds
      rw [Text.camelChars_absorbed hAbsorbs hSome,
        List.forall_mem_cons]
      exact ⟨isWordChar_toUpper hAbsorbs,
        ih hDashed.tail hEnds⟩
  | kept dashes c rest hDash hKept ih =>
      have hAbsorbs := hDashed.absorbsDashes hDash
      have hNone : dashes = 0 := by
        by_contra hSome
        exact hKept ⟨hSome, hAbsorbs⟩
      rw [Text.endsInDash_cons_iff hDash] at hEnds
      rw [Text.camelChars_kept hDash hKept, hNone,
        List.replicate_zero, List.nil_append,
        List.forall_mem_cons]
      exact ⟨isWordChar_of_absorbsDashes hAbsorbs,
        ih hDashed.tail hEnds⟩

/- It does not matter how many dashes come first. -/
theorem camelChars_of_some_dashes
    (hDashed : IsDashed cs)
    (hSome : dashes ≠ 0)
    (hSome' : dashes' ≠ 0)
    (hEnds : ¬ EndsInDash dashes cs)
    (hEnds' : ¬ EndsInDash dashes' cs) :
    camelChars dashes cs = camelChars dashes' cs := by
  induction cs generalizing dashes dashes' with
  | nil =>
      rw [Text.endsInDash_nil_iff] at hEnds
      exact absurd hSome hEnds
  | cons c rest ih =>
      by_cases hDash : c = '-'
      · subst hDash
        rw [Text.endsInDash_dash_iff] at hEnds hEnds'
        rw [Text.camelChars_dash, Text.camelChars_dash]
        exact ih hDashed.tail (Nat.succ_ne_zero _)
          (Nat.succ_ne_zero _) hEnds hEnds'
      · have hAbsorbs := hDashed.absorbsDashes hDash
        rw [Text.camelChars_absorbed hAbsorbs hSome,
          Text.camelChars_absorbed hAbsorbs hSome']

------------------------------------------------------------
-- Base Names
------------------------------------------------------------

/- A letter or a digit stands last. -/
def EndsInWord (cs : List Char) : Prop :=
  ∃ c, cs.getLast? = some c ∧ IsWordChar c

/- Letters, digits and separators, with no separator last. -/
structure IsBase (cs : List Char) : Prop where
  chars : ∀ c ∈ cs, IsWordChar c ∨ IsSeparator c
  ends : EndsInWord cs

theorem isDashed_map_settled
    (hChars : ∀ c ∈ cs, IsWordChar c ∨ IsSeparator c) :
    IsDashed (cs.map settled) := by
  intro d hMember
  rcases List.mem_map.mp hMember with ⟨c, hChar, rfl⟩
  rcases hChars c hChar with hWord | hSeparator
  · exact .inr hWord.absorbsDashes_settled
  · exact .inl hSeparator.settled_eq

theorem EndsInWord.not_endsInDash
    (hEnds : EndsInWord cs)
    (dashes : Nat) :
    ¬ EndsInDash dashes (cs.map settled) := by
  rcases hEnds with ⟨c, hLast, hWord⟩
  unfold EndsInDash
  rw [List.getLast?_append, List.getLast?_map, hLast]
  intro hDash
  have hSettled : settled c = '-' := Option.some.inj hDash
  have hAbsorbs := hWord.absorbsDashes_settled
  rw [hSettled] at hAbsorbs
  exact Text.not_absorbsDashes_dash hAbsorbs

/- The last of two parts decides how both end. -/
theorem endsInWord_append_iff
    {first second : List Char}
    (hSome : second ≠ []) :
    EndsInWord (first ++ second) ↔ EndsInWord second := by
  unfold EndsInWord
  rw [List.getLast?_append_of_ne_nil first hSome]

theorem map_settled_of_separators
    (hSeparators : ∀ c ∈ cs, IsSeparator c) :
    cs.map settled = List.replicate cs.length '-' :=
  List.map_eq_replicate_iff.mpr
    fun c hMember => (hSeparators c hMember).settled_eq

/- Any number of any separators divide words alike. -/
theorem camelChars_run_length
    {before run run' after : List Char}
    (hRun : ∀ c ∈ run, IsSeparator c)
    (hRun' : ∀ c ∈ run', IsSeparator c)
    (hSome : run ≠ [])
    (hSome' : run' ≠ [])
    (hAfter : IsBase after) :
    camelChars 0 ((before ++ (run ++ after)).map settled) =
      camelChars 0 ((before ++ (run' ++ after)).map settled) := by
  rw [List.map_append, List.map_append, List.map_append,
    List.map_append, map_settled_of_separators hRun,
    map_settled_of_separators hRun']
  refine Text.camelChars_append_congr (fun dashes => ?_) 0 _
  rw [Text.camelChars_replicate, Text.camelChars_replicate]
  have hLength := List.length_pos_of_ne_nil hSome
  have hLength' := List.length_pos_of_ne_nil hSome'
  exact camelChars_of_some_dashes
    (isDashed_map_settled hAfter.chars) (by omega) (by omega)
    (hAfter.ends.not_endsInDash _) (hAfter.ends.not_endsInDash _)

------------------------------------------------------------
-- Other Ways to Write a Base Name
------------------------------------------------------------

/-
  Characters that may be written for others: a separator for
  a separator, a longer run of separators for a run, and a
  letter for itself in either case.
-/
inductive Variant : List Char → List Char → Prop
  | separator
      {c d : Char}
      (hOld : IsSeparator c)
      (hNew : IsSeparator d) :
      Variant [c] [d]
  | longer
      {run longer : List Char}
      (hSome : run ≠ [])
      (hOld : ∀ c ∈ run, IsSeparator c)
      (hNew : ∀ c ∈ longer, IsSeparator c)
      (hLength : run.length ≤ longer.length) :
      Variant run longer
  | letter
      {c d : Char}
      (hOld : IsLetter c)
      (hNew : IsLetter d)
      (hSame : c.toLower = d.toLower) :
      Variant [c] [d]

/- One place of a text is written in another way. -/
inductive Restyles : List Char → List Char → Prop
  | here
      {old new : List Char}
      (before after : List Char)
      (hVariant : Variant old new) :
      Restyles (before ++ (old ++ after)) (before ++ (new ++ after))

/- Two runs of separators, or two cases of one letter. -/
theorem Variant.cases
    {old new : List Char}
    (hVariant : Variant old new) :
    (old ≠ [] ∧ new ≠ [] ∧ (∀ c ∈ old, IsSeparator c) ∧
        ∀ c ∈ new, IsSeparator c) ∨
      ∃ c d, old = [c] ∧ new = [d] ∧ IsLetter d ∧
        settled c = settled d := by
  cases hVariant with
  | @separator c d hOld hNew =>
      refine .inl ⟨List.cons_ne_nil c [], List.cons_ne_nil d [],
        ?_, ?_⟩
      · exact List.forall_mem_singleton.mpr hOld
      · exact List.forall_mem_singleton.mpr hNew
  | longer hSome hOld hNew hLength =>
      have hPositive := List.length_pos_of_ne_nil hSome
      exact .inl ⟨hSome,
        List.ne_nil_of_length_pos (by omega), hOld, hNew⟩
  | @letter c d hOld hNew hSame =>
      refine .inr ⟨c, d, rfl, rfl, hNew, ?_⟩
      rw [IsWordChar.settled_eq (.inl hOld),
        IsWordChar.settled_eq (.inl hNew), hSame]

/-
  One step: the text stays a base name and gives the same
  name in camel case.
-/
theorem IsBase.step
    {cs' : List Char}
    (hBase : IsBase cs)
    (hStep : Restyles cs cs') :
    IsBase cs' ∧
      camelChars 0 (cs'.map settled) =
        camelChars 0 (cs.map settled) := by
  cases hStep with
  | @here old new before after hVariant =>
      have hChars := hBase.chars
      have hEnds := hBase.ends
      rw [List.forall_mem_append, List.forall_mem_append] at hChars
      rcases hVariant.cases with
        ⟨hOldSome, hNewSome, hOld, hNew⟩ |
        ⟨c, d, rfl, rfl, hLetter, hSame⟩
      · rw [endsInWord_append_iff (by simp [hOldSome])] at hEnds
        -- A run of separators does not stand last.
        have hAfter : after ≠ [] := by
          rintro rfl
          rcases hEnds with ⟨c, hLast, hWord⟩
          rw [List.append_nil] at hLast
          exact (hOld c (List.mem_of_getLast? hLast)).not_isWordChar
            hWord
        rw [endsInWord_append_iff hAfter] at hEnds
        refine ⟨⟨?_, ?_⟩, ?_⟩
        · rw [List.forall_mem_append, List.forall_mem_append]
          exact ⟨hChars.1, fun c hMember =>
            .inr (hNew c hMember), hChars.2.2⟩
        · rw [endsInWord_append_iff (by simp [hNewSome]),
            endsInWord_append_iff hAfter]
          exact hEnds
        · exact camelChars_run_length hNew hOld hNewSome hOldSome
            ⟨hChars.2.2, hEnds⟩
      · refine ⟨⟨?_, ?_⟩, ?_⟩
        · rw [List.forall_mem_append, List.forall_mem_append]
          exact ⟨hChars.1, List.forall_mem_singleton.mpr
            (.inl (.inl hLetter)), hChars.2.2⟩
        · rw [endsInWord_append_iff (by simp)] at hEnds ⊢
          by_cases hAfter : after = []
          · rw [hAfter]
            exact ⟨d, rfl, .inl hLetter⟩
          · rw [endsInWord_append_iff hAfter] at hEnds ⊢
            exact hEnds
        · simp only [List.map_append, List.map_cons, List.map_nil,
            hSame]

/- All steps. -/
theorem IsBase.steps
    {cs' : List Char}
    (hBase : IsBase cs)
    (hSteps : Relation.ReflTransGen Restyles cs cs') :
    IsBase cs' ∧
      camelChars 0 (cs'.map settled) =
        camelChars 0 (cs.map settled) := by
  induction hSteps with
  | refl => exact ⟨hBase, rfl⟩
  | tail _ hStep ih =>
      have hNext := ih.1.step hStep
      exact ⟨hNext.1, hNext.2.trans ih.2⟩

------------------------------------------------------------
-- Component Names
------------------------------------------------------------

/- Letters and digits with a capital in front. -/
def IsComponentName (name : String) : Prop :=
  ∃ c rest, name.toList = c :: rest ∧ IsCapital c ∧
    ∀ d ∈ rest, IsWordChar d

/- The name that a component has by its name in camel case. -/
def titled : List Char → String
  | [] => "Template"
  | c :: rest =>
      String.ofList
        (if c.isDigit then
          'T' :: c :: rest
        else
          Text.upperCase c :: rest)

theorem capitalize_ofList_cons
    (c : Char)
    (rest : List Char) :
    Text.capitalize (String.ofList (c :: rest)) =
      String.ofList (Text.upperCase c :: rest) := by
  unfold Text.capitalize
  rw [String.toList_ofList]

theorem name_eq_titled
    (base : String) :
    name base =
      titled (camelChars 0 (base.toList.map settled)) := by
  have hCamel :
      Text.camelCase
          (Text.lowerText
            (String.ofList (base.toList.map dashed))) =
        String.ofList
          (camelChars 0 (base.toList.map settled)) := by
    unfold Text.camelCase Text.lowerText
    rw [String.toList_ofList, String.toList_ofList,
      List.map_map]
    rfl
  unfold name
  simp only [hCamel, String.toList_ofList]
  cases camelChars 0 (base.toList.map settled) with
  | nil => rfl
  | cons c rest =>
      rw [titled, apply_ite String.ofList]
      have hInitial :
          "T" ++ String.ofList (c :: rest) =
            String.ofList ('T' :: c :: rest) := by
        rw [← String.toList_inj]
        simp
      have hUpper : Text.upperCase 'T' = 'T' :=
        Text.upperCase_of_lt (by decide)
      simp only [hInitial, capitalize_ofList_cons, hUpper]

theorem isComponentName_titled
    (hWords : ∀ c ∈ cs, IsWordChar c) :
    IsComponentName (titled cs) := by
  cases cs with
  | nil =>
      exact ⟨'T', _, rfl, by decide,
        List.all_iff_forall_prop.mp (by decide)⟩
  | cons c rest =>
      by_cases hDigit : c.isDigit = true
      · refine ⟨'T', c :: rest, ?_, by decide, hWords⟩
        rw [titled, if_pos hDigit, String.toList_ofList]
      · rw [List.forall_mem_cons] at hWords
        refine ⟨Text.upperCase c, rest, ?_,
          hWords.1.isCapital_upperCase hDigit, hWords.2⟩
        rw [titled, if_neg hDigit, String.toList_ofList]

/- A dash at the end stays in the name. -/
theorem not_isComponentName_titled
    (cs : List Char) :
    ¬ IsComponentName (titled (cs ++ ['-'])) := by
  have hDash : '-' ∈ (titled (cs ++ ['-'])).toList := by
    cases cs with
    | nil =>
        have hSame : Text.upperCase '-' = '-' :=
          Text.upperCase_of_lt (by decide)
        rw [List.nil_append, titled, if_neg (by decide), hSame]
        decide
    | cons c rest =>
        rw [List.cons_append, titled, String.toList_ofList]
        split
        · simp
        · simp
  rintro ⟨c, rest, hChars, hCapital, hWords⟩
  rw [hChars] at hDash
  rcases List.mem_cons.mp hDash with rfl | hMember
  · exact absurd hCapital (by decide)
  · exact absurd (hWords '-' hMember) (by decide)

/-
  The name of a component is a capital with letters and
  digits behind it exactly if the base name is empty or ends
  in a letter or a digit. And if it ends so, no other way of
  writing it, in any number of places, changes the name.
-/
theorem name_well_formed_and_stable
    (base : String)
    (hChars : ∀ c ∈ base.toList, IsWordChar c ∨ IsSeparator c) :
    (IsComponentName (name base) ↔
        base = "" ∨ EndsInWord base.toList) ∧
      (EndsInWord base.toList →
        ∀ base' : String,
          Relation.ReflTransGen Restyles base.toList
            base'.toList →
          name base' = name base) := by
  constructor
  · rw [name_eq_titled]
    constructor
    · intro hName
      rcases List.eq_nil_or_concat' base.toList with
        hEmpty | ⟨front, c, hLast⟩
      · exact .inl (String.toList_eq_nil_iff.mp hEmpty)
      · rw [hLast] at hChars hName ⊢
        rcases hChars c (by simp) with hWord | hSeparator
        · exact .inr ⟨c, by simp, hWord⟩
        · rw [List.map_append, List.map_singleton,
            hSeparator.settled_eq,
            Text.camelChars_concat_dash] at hName
          exact absurd hName (not_isComponentName_titled _)
    · rintro (rfl | hEnds)
      · exact isComponentName_titled (List.forall_mem_nil _)
      · exact isComponentName_titled
          (isWordChar_of_mem_camelChars
            (isDashed_map_settled hChars)
            (hEnds.not_endsInDash 0))
  · intro hEnds base' hSteps
    have hBase : IsBase base.toList := ⟨hChars, hEnds⟩
    rw [name_eq_titled, name_eq_titled, (hBase.steps hSteps).2]

/-
  A separator that is replaced and then joined by another,
  and a letter in the other case.
-/
theorem name_well_formed_and_stable_userCard :
    (∀ c ∈ "user_2card".toList, IsWordChar c ∨ IsSeparator c) ∧
      EndsInWord "user_2card".toList ∧
      IsComponentName (name "user_2card") ∧
      name "user. 2Card" = name "user_2card" := by
  have hChars :
      ∀ c ∈ "user_2card".toList,
        IsWordChar c ∨ IsSeparator c :=
    List.all_iff_forall_prop.mp (by decide)
  have hEnds : EndsInWord "user_2card".toList :=
    ⟨'d', by decide, by decide⟩
  have hSteps :
      Relation.ReflTransGen Restyles "user_2card".toList
        "user. 2Card".toList := by
    let front := ['u', 's', 'e', 'r']
    let rest := ['a', 'r', 'd']
    have hSeparator :
        Restyles (front ++ (['_'] ++ '2' :: 'c' :: rest))
          (front ++ (['.'] ++ '2' :: 'c' :: rest)) :=
      .here _ _ (.separator (by decide) (by decide))
    have hLonger :
        Restyles (front ++ (['.'] ++ '2' :: 'c' :: rest))
          (front ++ (['.', ' '] ++ '2' :: 'c' :: rest)) :=
      .here _ _ (.longer (by decide)
        (List.all_iff_forall_prop.mp (by decide))
        (List.all_iff_forall_prop.mp (by decide)) (by decide))
    have hLetter :
        Restyles ((front ++ ['.', ' ', '2']) ++ (['c'] ++ rest))
          ((front ++ ['.', ' ', '2']) ++ (['C'] ++ rest)) :=
      .here _ _ (.letter (by decide) (by decide) (by decide))
    have hFirst :
        "user_2card".toList =
          front ++ (['_'] ++ '2' :: 'c' :: rest) := by
      decide
    have hLast :
        "user. 2Card".toList =
          (front ++ ['.', ' ', '2']) ++ (['C'] ++ rest) := by
      decide
    rw [hFirst, hLast]
    exact ((Relation.ReflTransGen.single hSeparator).tail
      hLonger).tail hLetter
  rcases name_well_formed_and_stable "user_2card" hChars with
    ⟨hForm, hStable⟩
  exact ⟨hChars, hEnds, hForm.mpr (.inr hEnds),
    hStable hEnds "user. 2Card" hSteps⟩

end Component

end TemplateJsx
