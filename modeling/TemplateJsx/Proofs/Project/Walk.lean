import Mathlib.Data.List.Sort
import Mathlib.Data.List.Lex
import Mathlib.Data.String.Basic
import TemplateJsx.Proofs.Project.ModuleNames
import TemplateJsx.Proofs.Project.Tree

/-
  Which templates a walk finds, and in which order. A walk
  below a directory is given by what it meets: the template
  files outside of skipped directories, each once, in the
  order of their names. There is one such walk, it depends
  on nothing else the tree holds, and it is what the
  compiler collects.

  Key definitions include:
    * `Project.HoldsTemplate`
    * `Project.IsWalk`
    * `Project.templateAt`
    * `Project.TemplateFile.IsHeld`
    * `Project.KeepsSources`

  Main declarations:
    * `Project.FileTree.mem_below_iff`
    * `Project.IsWalk.unique`
    * `Project.templateFiles_of_isWalk`
    * `Project.isHeld_of_mem_templateFiles`
    * `Project.KeepsSources.templateFiles_eq`
-/

------------------------------------------------------------
-- The Order of a Walk
------------------------------------------------------------

namespace TemplateJsx

namespace Project

namespace FileTree

theorem meetsFirst_iff
    (x y : List String) :
    meetsFirst x y = true ↔ x ≤ y := by
  rw [le_iff_lt_or_eq]
  induction x generalizing y with
  | nil =>
      cases y with
      | nil => simp [meetsFirst]
      | cons b bs => simp [meetsFirst]
  | cons a as ih =>
      cases y with
      | nil => simp [meetsFirst]
      | cons b bs =>
          rw [meetsFirst, List.cons_lt_cons_iff, List.cons.injEq]
          split
          · rename_i hSame
            rw [ih]
            simp [hSame]
          · rename_i hOther
            simp [hOther]

theorem namesBelow?_eq_some_iff
    (directory p : Place)
    (names : List String) :
    namesBelow? directory p = some names ↔
      names ≠ [] ∧ p = directory ++ names := by
  unfold namesBelow?
  constructor
  · intro hNames
    split at hNames
    · rename_i hBelow
      rcases hBelow with ⟨hPrefix, hLength⟩
      rcases List.isPrefixOf_iff_prefix.mp hPrefix with ⟨rest, rfl⟩
      rw [List.drop_left, Option.some_inj] at hNames
      subst hNames
      refine ⟨?_, rfl⟩
      rintro rfl
      simp at hLength
    · cases hNames
  · rintro ⟨hSome, rfl⟩
    rw [if_pos, List.drop_left]
    refine ⟨List.isPrefixOf_iff_prefix.mpr (List.prefix_append _ _), ?_⟩
    rw [List.length_append]
    have := List.length_pos_of_ne_nil hSome
    omega

/- A walk meets everything that is held below. -/
theorem mem_below_iff
    (t : FileTree)
    (directory : Place)
    (names : List String)
    (entry : FileEntry) :
    (names, entry) ∈ t.below directory ↔
      names ≠ [] ∧ t.get? (directory ++ names) = some entry := by
  rw [below, List.mem_mergeSort, List.mem_filterMap]
  constructor
  · rintro ⟨⟨p, held⟩, hMember, hNames⟩
    rcases Option.map_eq_some_iff.mp hNames with ⟨found, hFound, hSame⟩
    cases hSame
    rcases (namesBelow?_eq_some_iff _ _ _).mp hFound with
      ⟨hSome, rfl⟩
    exact ⟨hSome, ((t.mem_entries_iff _ _).mp hMember).2⟩
  · rintro ⟨hSome, hHeld⟩
    refine ⟨(directory ++ names, entry), ?_, ?_⟩
    · exact (t.mem_entries_iff _ _).mpr ⟨by simp [hSome], hHeld⟩
    · exact Option.map_eq_some_iff.mpr
        ⟨names, (namesBelow?_eq_some_iff _ _ _).mpr ⟨hSome, rfl⟩, rfl⟩

/- A walk meets each place once and in order. -/
theorem pairwise_below
    (t : FileTree)
    (directory : Place) :
    (t.below directory).Pairwise (fun x y => x.1 < y.1) := by
  have hSorted :
      (t.below directory).Pairwise
        (fun x y => meetsFirst x.1 y.1 = true) := by
    apply List.pairwise_mergeSort
    · intro x y z hFirst hSecond
      rw [meetsFirst_iff] at hFirst hSecond ⊢
      exact le_trans hFirst hSecond
    · intro x y
      rw [Bool.or_eq_true, meetsFirst_iff, meetsFirst_iff]
      exact le_total _ _
  have hDistinct :
      (t.below directory).Pairwise (fun x y => x.1 ≠ y.1) := by
    refine (List.Perm.pairwise_iff (fun h => Ne.symm h)
      (List.mergeSort_perm _ _)).mpr ?_
    rw [List.pairwise_filterMap]
    refine List.Pairwise.imp ?_ (List.pairwise_map.mp t.distinct)
    rintro ⟨p, first⟩ ⟨q, second⟩ hOther x hX y hY hSame
    rcases Option.map_eq_some_iff.mp hX with ⟨names, hNames, rfl⟩
    rcases Option.map_eq_some_iff.mp hY with ⟨others, hOthers, rfl⟩
    apply hOther
    change p = q
    rw [((namesBelow?_eq_some_iff _ _ _).mp hNames).2,
      ((namesBelow?_eq_some_iff _ _ _).mp hOthers).2]
    exact congrArg _ hSame
  refine List.Pairwise.imp ?_ (List.Pairwise.and hSorted hDistinct)
  rintro x y ⟨hFirst, hOther⟩
  exact lt_of_le_of_ne ((meetsFirst_iff _ _).mp hFirst) hOther

end FileTree

------------------------------------------------------------
-- Templates Below a Directory
------------------------------------------------------------

/-
  The names lead from a directory down to a template file,
  through no skipped directory.
-/
structure HoldsTemplate
    (tree : FileTree)
    (directory : Place)
    (names : List String) : Prop where
  isFile :
    ∃ content, tree.get? (directory ++ names) = some (.file content)
  isNamed : (Component.baseName? (names.getLastD "")).isSome
  isOutside : ∀ name ∈ names.dropLast, name ∉ skippedNames

/-
  The templates below a directory, in the order in which a
  walk meets them.
-/
structure IsWalk
    (tree : FileTree)
    (directory : Place)
    (walk : List (List String)) : Prop where
  complete : ∀ names, names ∈ walk ↔ HoldsTemplate tree directory names
  ordered : walk.Pairwise (· < ·)

/- The component of a template file with the given name. -/
def componentOf (name : String) : String :=
  Component.name ((Component.baseName? name).getD "")

/- A template below a root with the given path. -/
def templateAt
    (root : String)
    (names : List String) : TemplateFile where
  path := joinPath root (Text.joinWith "/" names)
  component := componentOf (names.getLastD "")

theorem component_templateAt
    (root : String)
    (names : List String) :
    (templateAt root names).component =
      componentOf (names.getLastD "") := by
  rw [templateAt]

theorem ne_nil_of_isNamed
    {names : List String}
    (hNamed : (Component.baseName? (names.getLastD "")).isSome) :
    names ≠ [] := by
  rintro rfl
  revert hNamed
  decide

theorem HoldsTemplate.ne_nil
    {tree : FileTree}
    {directory : Place}
    {names : List String}
    (hHolds : HoldsTemplate tree directory names) :
    names ≠ [] :=
  ne_nil_of_isNamed hHolds.isNamed

/- Two walks meet the same templates in the same order. -/
theorem IsWalk.unique
    {tree : FileTree}
    {directory : Place}
    {walk other : List (List String)}
    (hWalk : IsWalk tree directory walk)
    (hOther : IsWalk tree directory other) :
    walk = other := by
  refine hWalk.ordered.eq_of_mem_iff hOther.ordered ?_
  intro names
  rw [hWalk.complete, hOther.complete]

------------------------------------------------------------
-- Templates That Are Collected
------------------------------------------------------------

/- Whether something below a directory is a template. -/
def isTemplateBelow : List String × FileEntry → Bool
  | (_, .directory) => false
  | (names, .file _) =>
      !names.dropLast.any (· ∈ skippedNames)
        && (Component.baseName? (names.getLastD "")).isSome

theorem templateBelow?_eq
    (root : String)
    (held : List String × FileEntry) :
    templateBelow? root held =
      if isTemplateBelow held then some (templateAt root held.1)
      else none := by
  rcases held with ⟨names, entry⟩
  cases entry with
  | directory => rfl
  | file content =>
      rw [templateBelow?, isTemplateBelow]
      cases names.dropLast.any (· ∈ skippedNames) with
      | true => rfl
      | false =>
          unfold templateFile? templateAt componentOf
          cases Component.baseName? (names.getLastD "") with
          | none => rfl
          | some base => rfl

theorem filterMap_templateBelow?
    (root : String)
    (held : List (List String × FileEntry)) :
    held.filterMap (templateBelow? root) =
      ((held.filter isTemplateBelow).map Prod.fst).map
        (templateAt root) := by
  induction held with
  | nil => rfl
  | cons first rest ih =>
      rw [List.filterMap_cons, List.filter_cons, templateBelow?_eq, ih]
      cases isTemplateBelow first with
      | false => rfl
      | true => rfl

theorem isWalk_below
    (tree : FileTree)
    (directory : Place) :
    IsWalk tree directory
      (((tree.below directory).filter isTemplateBelow).map
        Prod.fst) where
  complete := by
    intro names
    constructor
    · intro hMember
      rcases List.mem_map.mp hMember with
        ⟨⟨found, entry⟩, hFound, rfl⟩
      rcases List.mem_filter.mp hFound with ⟨hBelow, hTemplate⟩
      rw [FileTree.mem_below_iff] at hBelow
      cases entry with
      | directory => cases hTemplate
      | file content =>
          simp only [isTemplateBelow, Bool.and_eq_true,
            Bool.not_eq_true', List.any_eq_false,
            decide_eq_true_eq] at hTemplate
          exact ⟨⟨content, hBelow.2⟩, hTemplate.2, hTemplate.1⟩
    · intro hHolds
      rcases hHolds.isFile with ⟨content, hHeld⟩
      refine List.mem_map.mpr
        ⟨(names, .file content), List.mem_filter.mpr ⟨?_, ?_⟩, rfl⟩
      · rw [FileTree.mem_below_iff]
        exact ⟨hHolds.ne_nil, hHeld⟩
      · simp only [isTemplateBelow, Bool.and_eq_true,
          Bool.not_eq_true', List.any_eq_false,
          decide_eq_true_eq]
        exact ⟨hHolds.isOutside, hHolds.isNamed⟩
  ordered := by
    rw [List.pairwise_map]
    exact (tree.pairwise_below directory).filter _

/- The compiler collects the templates of the walk. -/
theorem templateFiles_of_isWalk
    {tree : FileTree}
    {root : String}
    {directory : Place}
    {walk : List (List String)}
    (hRoot : tree.find root = .ok (directory, .directory))
    (hWalk : IsWalk tree directory walk) :
    templateFiles tree root = .ok (walk.map (templateAt root)) := by
  rw [templateFiles, hRoot]
  simp only
  rw [filterMap_templateBelow?,
    hWalk.unique (isWalk_below tree directory)]

------------------------------------------------------------
-- Templates in Place
------------------------------------------------------------

/-
  The path of a template leads to a file, whose name tells
  that it is a template and how the component is called.
-/
structure TemplateFile.IsHeld
    (file : TemplateFile)
    (tree : FileTree)
    (p : Place) : Prop where
  isFile : ∃ content, tree.find file.path = .ok (p, .file content)
  isNamed : (Component.baseName? (p.getLastD "")).isSome
  component : file.component = componentOf (p.getLastD "")

theorem getLastD_append
    {names : List String}
    (p : Place)
    (hSome : names ≠ []) :
    (p ++ names).getLastD "" = names.getLastD "" := by
  rcases List.eq_nil_or_concat names with rfl | ⟨before, last, rfl⟩
  · exact absurd rfl hSome
  · rw [List.concat_eq_append, ← List.append_assoc,
      List.getLastD_concat, List.getLastD_concat]

theorem HoldsTemplate.isHeld
    {tree : FileTree}
    {root : String}
    {directory : Place}
    {names : List String}
    (hRoot : tree.find root = .ok (directory, .directory))
    (hHolds : HoldsTemplate tree directory names) :
    (templateAt root names).IsHeld tree (directory ++ names) := by
  rcases hHolds.isFile with ⟨content, hHeld⟩
  refine ⟨⟨content, ?_⟩, ?_, ?_⟩
  · exact FileTree.find_joinPath hRoot hHeld hHolds.ne_nil
  · rw [getLastD_append _ hHolds.ne_nil]
    exact hHolds.isNamed
  · rw [getLastD_append _ hHolds.ne_nil, component_templateAt]

/- All templates that are collected are in place. -/
theorem isHeld_of_mem_templateFiles
    {tree : FileTree}
    {root : String}
    {files : List TemplateFile}
    {file : TemplateFile}
    (hFiles : templateFiles tree root = .ok files)
    (hMember : file ∈ files) :
    ∃ p, file.IsHeld tree p := by
  cases hRoot : tree.find root with
  | error problem =>
      rw [templateFiles, hRoot] at hFiles
      cases hFiles
  | ok found =>
      rcases found with ⟨p, entry⟩
      cases entry with
      | directory =>
          have hWalk := isWalk_below tree p
          rw [templateFiles_of_isWalk hRoot hWalk] at hFiles
          cases hFiles
          rcases List.mem_map.mp hMember with ⟨names, hNames, rfl⟩
          exact ⟨p ++ names,
            ((hWalk.complete names).mp hNames).isHeld hRoot⟩
      | file content =>
          rw [templateFiles, hRoot] at hFiles
          cases hFiles
          rw [Option.mem_toList, templateFile?,
            ← FileTree.getLastD_of_find_file hRoot] at hMember
          rcases Option.map_eq_some_iff.mp hMember with
            ⟨base, hBase, rfl⟩
          refine ⟨p, ⟨content, hRoot⟩, ?_, ?_⟩
          · rw [hBase]
            rfl
          · rw [componentOf, hBase, Option.getD_some]

------------------------------------------------------------
-- Trees With the Same Templates
------------------------------------------------------------

/-
  One tree keeps what a compiler reads of another: its
  directories and its templates. Other files may come, go or
  change.
-/
structure KeepsSources
    (tree later : FileTree) : Prop extends
    FileTree.KeepsDirectories tree later where
  templates :
    ∀ p content, (Component.baseName? (p.getLastD "")).isSome →
      (later.get? p = some (.file content) ↔
        tree.get? p = some (.file content))

namespace KeepsSources

theorem refl
    (tree : FileTree) :
    KeepsSources tree tree where
  home := rfl
  directories := fun _ hHeld => hHeld
  templates := fun _ _ _ => Iff.rfl

theorem trans
    {tree middle later : FileTree}
    (hFirst : KeepsSources tree middle)
    (hSecond : KeepsSources middle later) :
    KeepsSources tree later where
  home := hSecond.home.trans hFirst.home
  directories := fun p hHeld =>
    hSecond.directories p (hFirst.directories p hHeld)
  templates := fun p content hNamed =>
    (hSecond.templates p content hNamed).trans
      (hFirst.templates p content hNamed)

/- Making a directory keeps all files. -/
theorem of_isMade
    {tree made : FileTree}
    {p : Place}
    (hMade : tree.IsMade made p) :
    KeepsSources tree made where
  toKeepsDirectories := hMade.keepsDirectories
  templates := fun _ _ _ => hMade.get?_file

variable {tree later : FileTree}

/- A template is found where it was. -/
theorem find_template
    {path : String}
    {p : Place}
    {content : String}
    (hKeeps : KeepsSources tree later)
    (hNamed : (Component.baseName? (p.getLastD "")).isSome)
    (hFound : tree.find path = .ok (p, .file content)) :
    later.find path = .ok (p, .file content) := by
  rcases FileTree.find_eq_ok hFound with ⟨_, _, _, hHeld⟩
  exact hKeeps.find_eq hFound
    ((hKeeps.templates p content hNamed).mpr hHeld)

theorem readFile_eq
    {file : TemplateFile}
    {p : Place}
    (hKeeps : KeepsSources tree later)
    (hHeld : file.IsHeld tree p) :
    later.readFile file.path = tree.readFile file.path := by
  rcases hHeld.isFile with ⟨content, hFound⟩
  unfold FileTree.readFile
  rw [hFound, hKeeps.find_template hHeld.isNamed hFound]

theorem isHeld
    {file : TemplateFile}
    {p : Place}
    (hKeeps : KeepsSources tree later)
    (hHeld : file.IsHeld tree p) :
    file.IsHeld later p := by
  rcases hHeld.isFile with ⟨content, hFound⟩
  exact ⟨⟨content, hKeeps.find_template hHeld.isNamed hFound⟩,
    hHeld.isNamed, hHeld.component⟩

theorem holdsTemplate_iff
    (hKeeps : KeepsSources tree later)
    (directory : Place)
    (names : List String) :
    HoldsTemplate later directory names ↔
      HoldsTemplate tree directory names := by
  have hNamed : (Component.baseName? (names.getLastD "")).isSome →
      (Component.baseName?
        ((directory ++ names).getLastD "")).isSome := by
    intro hName
    rw [getLastD_append _ (ne_nil_of_isNamed hName)]
    exact hName
  constructor
  · rintro ⟨⟨content, hHeld⟩, hName, hOutside⟩
    exact ⟨⟨content,
      (hKeeps.templates _ content (hNamed hName)).mp hHeld⟩,
      hName, hOutside⟩
  · rintro ⟨⟨content, hHeld⟩, hName, hOutside⟩
    exact ⟨⟨content,
      (hKeeps.templates _ content (hNamed hName)).mpr hHeld⟩,
      hName, hOutside⟩

/- The walk is the same, wherever other files have come. -/
theorem isWalk
    {directory : Place}
    {walk : List (List String)}
    (hKeeps : KeepsSources tree later)
    (hWalk : IsWalk tree directory walk) :
    IsWalk later directory walk where
  complete := fun names =>
    (hWalk.complete names).trans
      (hKeeps.holdsTemplate_iff directory names).symm
  ordered := hWalk.ordered

/- The same templates are collected, if there are any. -/
theorem templateFiles_eq
    {root : String}
    {files : List TemplateFile}
    (hKeeps : KeepsSources tree later)
    (hFiles : templateFiles tree root = .ok files)
    (hSome : files ≠ []) :
    templateFiles later root = .ok files := by
  cases hRoot : tree.find root with
  | error problem =>
      rw [templateFiles, hRoot] at hFiles
      cases hFiles
  | ok found =>
      rcases found with ⟨p, entry⟩
      cases entry with
      | directory =>
          rcases FileTree.find_eq_ok hRoot with ⟨_, _, _, hHeld⟩
          have hWalk := isWalk_below tree p
          have hLater :=
            hKeeps.find_eq hRoot (hKeeps.directories p hHeld)
          rw [templateFiles_of_isWalk hRoot hWalk] at hFiles
          rw [templateFiles_of_isWalk hLater (hKeeps.isWalk hWalk)]
          exact hFiles
      | file content =>
          rw [templateFiles, hRoot] at hFiles
          cases hFiles
          have hNamed :
              (Component.baseName? (p.getLastD "")).isSome := by
            rw [FileTree.getLastD_of_find_file hRoot]
            by_contra hNone
            rw [Option.not_isSome_iff_eq_none] at hNone
            apply hSome
            rw [templateFile?, hNone]
            rfl
          rw [templateFiles, hKeeps.find_template hNamed hRoot]

end KeepsSources

end Project

end TemplateJsx
