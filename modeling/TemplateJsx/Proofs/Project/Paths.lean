import TemplateJsx.Project.FileTree
import TemplateJsx.Proofs.Splitting

/-
  Paths as texts and the addresses they name. The text of an
  address leads back to the address, and a path that follows
  another one is read from where the other one ends. An
  address has no components left that stand for themselves
  or for the directory above.

  Main declarations:
    * `Project.components_append`
    * `Project.components_joinWith`
    * `Project.Address.isLegal_ofPath`
    * `Project.Address.ofPath_print`
    * `Project.Address.ofPath_joinPath`
-/

namespace TemplateJsx

namespace Project

------------------------------------------------------------
-- Components
------------------------------------------------------------

theorem components_ne_nil
    (path : String) :
    components path ≠ [] :=
  Text.splitAt_ne_nil '/' path

theorem components_append
    (first second : String) :
    components (first ++ "/" ++ second) =
      components first ++ components second :=
  Text.splitAt_append rfl first second

theorem not_mem_of_mem_components
    {path component : String}
    (hComponent : component ∈ components path) :
    '/' ∉ component.toList :=
  Text.not_mem_of_mem_splitAt hComponent

/- The components of names in a row are the names. -/
theorem components_joinWith
    {names : List String}
    (hSome : names ≠ [])
    (hNone : ∀ name ∈ names, '/' ∉ name.toList) :
    components (Text.joinWith "/" names) = names :=
  Text.splitAt_joinWith rfl hSome hNone

/- Names in a row do not start with the separator. -/
theorem head?_joinWith
    {names : List String}
    (hNames : ∀ name ∈ names, name ≠ "" ∧ '/' ∉ name.toList) :
    (Text.joinWith "/" names).toList.head? ≠ some '/' := by
  have hFirst : ∀ (name rest : String), name ≠ "" →
      '/' ∉ name.toList →
        (name ++ rest).toList.head? ≠ some '/' := by
    intro name rest hSome hNone hHead
    rw [String.toList_append] at hHead
    cases hChars : name.toList with
    | nil => exact hSome (String.toList_eq_nil_iff.mp hChars)
    | cons c cs =>
        rw [hChars, List.cons_append, List.head?_cons,
          Option.some_inj] at hHead
        rw [hChars, hHead] at hNone
        exact hNone List.mem_cons_self
  cases names with
  | nil => simp [Text.joinWith]
  | cons name rest =>
      rcases hNames name List.mem_cons_self with ⟨hSome, hNone⟩
      cases rest with
      | nil =>
          rw [Text.joinWith, ← String.append_empty (s := name)]
          exact hFirst name "" hSome hNone
      | cons next others => exact hFirst name _ hSome hNone

/- A path is read from where its first characters say. -/
theorem startOf_append
    {first : String}
    (rest : String)
    (hSome : first ≠ "") :
    startOf (first ++ rest) = startOf first := by
  unfold startOf
  rw [String.toList_append]
  cases hChars : first.toList with
  | nil => exact absurd (String.toList_eq_nil_iff.mp hChars) hSome
  | cons c cs => rfl

------------------------------------------------------------
-- Addresses
------------------------------------------------------------

namespace Address

/- All names of an address are names that files can have. -/
def IsLegal (a : Address) : Prop :=
  ∀ name ∈ a.names, IsName name

theorem step_of_isName
    {name : String}
    (a : Address)
    (hName : IsName name) :
    a.step name = a.child name := by
  rcases hName with ⟨hEmpty, hHere, hUp, _⟩
  unfold step
  rw [if_neg (by simp [hEmpty, hHere]), if_neg hUp]

theorem foldl_step_of_isName
    {names : List String}
    (a : Address)
    (hNames : ∀ name ∈ names, IsName name) :
    names.foldl step a = ⟨a.base, a.names ++ names⟩ := by
  induction names generalizing a with
  | nil => simp
  | cons name rest ih =>
      rw [List.foldl_cons,
        step_of_isName a (hNames name List.mem_cons_self),
        ih (a.child name) fun other hOther =>
          hNames other (List.mem_cons_of_mem _ hOther)]
      simp [child]

/- A component keeps an address legal: it adds a name or none. -/
theorem isLegal_step
    {a : Address}
    {component : String}
    (hLegal : a.IsLegal)
    (hComponent : '/' ∉ component.toList) :
    (a.step component).IsLegal := by
  unfold step
  split
  · exact hLegal
  · rename_i hOther
    rw [not_or] at hOther
    split
    · intro name hName
      unfold parent at hName
      split at hName
      · exact absurd hName List.not_mem_nil
      · exact hLegal name hName
      · exact hLegal name (List.dropLast_subset _ hName)
    · rename_i hUp
      intro name hName
      rcases List.mem_append.mp hName with hOld | hNew
      · exact hLegal name hOld
      · rw [List.mem_singleton.mp hNew]
        exact ⟨hOther.1, hOther.2, hUp, hComponent⟩

theorem isLegal_foldl_step
    {a : Address}
    {cs : List String}
    (hLegal : a.IsLegal)
    (hNone : ∀ c ∈ cs, '/' ∉ c.toList) :
    (cs.foldl step a).IsLegal := by
  induction cs generalizing a with
  | nil => exact hLegal
  | cons c rest ih =>
      exact ih
        (isLegal_step hLegal (hNone c List.mem_cons_self))
        fun other hOther =>
          hNone other (List.mem_cons_of_mem _ hOther)

/- The address of a path has no other components left. -/
theorem isLegal_ofPath
    (path : String) :
    (ofPath path).IsLegal := by
  have hStart : (startOf path).names = [] := by
    unfold startOf
    split
    · rfl
    · rfl
  apply isLegal_foldl_step
  · intro name hName
    rw [hStart] at hName
    exact absurd hName List.not_mem_nil
  · intro c hComponent
    exact not_mem_of_mem_components hComponent

/- Going up from the working directory is counted. -/
theorem foldl_step_up
    (above count : Nat) :
    (List.replicate count "..").foldl step ⟨.above above, []⟩ =
      ⟨.above (above + count), []⟩ := by
  induction count generalizing above with
  | zero => rfl
  | succ count ih =>
      have hUp :
          step ⟨.above above, []⟩ ".." = ⟨.above (above + 1), []⟩ :=
        rfl
      rw [List.replicate_succ, List.foldl_cons, hUp, ih]
      congr 2
      omega

------------------------------------------------------------
-- Printed Addresses
------------------------------------------------------------

/- A relative address names what it climbs, then its names. -/
theorem print_above
    {levels : Nat}
    {names : List String}
    (hSome : List.replicate levels ".." ++ names ≠ []) :
    print ⟨.above levels, names⟩ =
      Text.joinWith "/" (List.replicate levels ".." ++ names) := by
  simp only [print]

theorem written_of_isName
    {names : List String}
    (levels : Nat)
    (hNames : ∀ name ∈ names, IsName name) :
    ∀ name ∈ List.replicate levels ".." ++ names,
      name ≠ "" ∧ '/' ∉ name.toList := by
  intro name hName
  rcases List.mem_append.mp hName with hUp | hDown
  · rw [List.eq_of_mem_replicate hUp]
    decide
  · rcases hNames name hDown with ⟨hSome, _, _, hNone⟩
    exact ⟨hSome, hNone⟩

/- The components of a path from the root of all files. -/
theorem components_print_root
    {names : List String}
    (hNames : ∀ name ∈ names, IsName name) :
    components (print ⟨.root, names⟩) =
      "" :: if names = [] then [""] else names := by
  have hText :
      print ⟨.root, names⟩ =
        "" ++ "/" ++ Text.joinWith "/" names := by
    simp [print]
  rw [hText, components_append]
  split
  · rename_i hNone
    rw [hNone]
    rfl
  · rename_i hSome
    rw [components_joinWith hSome fun name hName =>
      (hNames name hName).2.2.2]
    rfl

theorem startOf_print_root
    (names : List String) :
    startOf (print ⟨.root, names⟩) = ⟨.root, []⟩ := by
  rw [startOf, if_pos]
  simp [print]

/- The components of a path from the working directory. -/
theorem components_print_above
    {levels : Nat}
    {names : List String}
    (hSome : List.replicate levels ".." ++ names ≠ [])
    (hNames : ∀ name ∈ names, IsName name) :
    components (print ⟨.above levels, names⟩) =
      List.replicate levels ".." ++ names := by
  rw [print_above hSome]
  exact components_joinWith hSome fun name hName =>
    (written_of_isName levels hNames name hName).2

theorem startOf_print_above
    {levels : Nat}
    {names : List String}
    (hSome : List.replicate levels ".." ++ names ≠ [])
    (hNames : ∀ name ∈ names, IsName name) :
    startOf (print ⟨.above levels, names⟩) = here := by
  rw [print_above hSome, startOf, if_neg]
  exact head?_joinWith (written_of_isName levels hNames)

theorem print_ne_empty
    {a : Address}
    (hLegal : a.IsLegal) :
    a.print ≠ "" := by
  rcases a with ⟨base, names⟩
  cases base with
  | root => simp [print]
  | above levels =>
      by_cases hSome : List.replicate levels ".." ++ names = []
      · simp [print, hSome]
      · intro hEmpty
        have hComponents := components_print_above hSome hLegal
        rw [hEmpty] at hComponents
        have hMember :
            "" ∈ List.replicate levels ".." ++ names := by
          rw [← hComponents]
          exact List.mem_cons_self
        exact (written_of_isName levels hLegal _ hMember).1 rfl

/- The text of an address leads back to the address. -/
theorem ofPath_print
    {a : Address}
    (hLegal : a.IsLegal) :
    ofPath a.print = a := by
  rcases a with ⟨base, names⟩
  change ∀ name ∈ names, IsName name at hLegal
  cases base with
  | root =>
      unfold ofPath
      rw [components_print_root hLegal, startOf_print_root]
      split
      · rename_i hNone
        rw [hNone]
        rfl
      · change names.foldl step ⟨.root, []⟩ = _
        rw [foldl_step_of_isName _ hLegal, List.nil_append]
  | above levels =>
      by_cases hSome : List.replicate levels ".." ++ names = []
      · rcases List.append_eq_nil_iff.mp hSome with ⟨hUp, hNames⟩
        rw [List.replicate_eq_nil_iff] at hUp
        subst hUp hNames
        rfl
      · unfold ofPath
        rw [components_print_above hSome hLegal,
          startOf_print_above hSome hLegal, List.foldl_append,
          here, foldl_step_up, foldl_step_of_isName _ hLegal,
          Nat.zero_add, List.nil_append]

/- Another path is read from where the first one ends. -/
theorem ofPath_append
    {first : String}
    (second : String)
    (hSome : first ≠ "") :
    ofPath (first ++ "/" ++ second) =
      (components second).foldl step (ofPath first) := by
  unfold ofPath
  rw [String.append_assoc, startOf_append _ hSome,
    ← String.append_assoc, components_append, List.foldl_append]

/- Paths that follow each other are printed as one. -/
theorem joinPath_eq_print
    {first : String}
    (second : String)
    (hSome : first ≠ "") :
    joinPath first second =
      print ((components second).foldl step (ofPath first)) := by
  unfold joinPath cleanPath
  rw [if_neg (by simp [hSome]), if_neg hSome,
    ofPath_append _ hSome]

theorem ofPath_joinPath
    {first : String}
    (second : String)
    (hSome : first ≠ "") :
    ofPath (joinPath first second) =
      (components second).foldl step (ofPath first) := by
  rw [joinPath_eq_print _ hSome, ← ofPath_append _ hSome]
  exact ofPath_print (isLegal_ofPath _)

/- No component leads to the root of all files or away. -/
theorem base_step
    (a : Address)
    (component : String) :
    (a.step component).base = .root ↔ a.base = .root := by
  unfold step
  split
  · rfl
  · split
    · unfold parent
      split
      · rename_i hBase
        simp [hBase]
      · rfl
      · rfl
    · rfl

theorem base_foldl_step
    (a : Address)
    (cs : List String) :
    (cs.foldl step a).base = .root ↔ a.base = .root := by
  induction cs generalizing a with
  | nil => rfl
  | cons c rest ih => rw [List.foldl_cons, ih, base_step]

end Address

end Project

end TemplateJsx
