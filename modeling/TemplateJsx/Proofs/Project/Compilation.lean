import TemplateJsx.Proofs.Project.Walk

/-
  What compiling a project does to the tree of files. Each
  template has a verdict, which depends on its own file and
  on whether a directory stands in the place of its module.
  A template that is compiled changes that place only, so
  that the verdicts of the others stay what they were before
  the run, also when the modules are written between the
  templates.

  Key definitions include:
    * `Project.verdict`
    * `Project.SameSources`
    * `Project.Runs`

  Main declarations:
    * `Project.SameSources.verdict_eq`
    * `Project.compileFrom_runs`
    * `Project.compileFrom_events`
    * `Project.compileFrom_of_settled`
    * `Project.collectAfter_of_repeated`
    * `Project.compile_eq_finished`
    * `Project.compile_cases`
-/

------------------------------------------------------------
-- Verdicts
------------------------------------------------------------

namespace TemplateJsx

namespace Project

/- The module of a template that a tree holds. -/
def moduleIn
    (t : Resolve.Setup)
    (tree : FileTree)
    (file : TemplateFile) : Except TemplateError String := do
  let content ←
    (tree.readFile file.path).mapError (.unread file.path)
  moduleOf t file content

/-
  What compiling a template comes to: the text of its module,
  or what keeps it from being written.
-/
def verdict
    (t : Resolve.Setup)
    (directory : Address)
    (tree : FileTree)
    (file : TemplateFile) : Except TemplateError String := do
  let text ← moduleIn t tree file
  let path := (target directory file).print
  if tree.get? (tree.locate (target directory file)) =
      some .directory then
    .error (.unwritten path ⟨"open", path, .isDirectory⟩)
  else
    .ok text

theorem TemplateFile.IsHeld.isName_moduleName
    {file : TemplateFile}
    {tree : FileTree}
    {p : Place}
    (hHeld : file.IsHeld tree p) :
    IsName file.moduleName := by
  apply TemplateFile.isName_moduleName
  rw [hHeld.component, componentOf]
  rcases hHeld.isFile with ⟨content, hFound⟩
  rcases FileTree.find_eq_ok hFound with ⟨_, _, _, hFile⟩
  rcases Option.isSome_iff_exists.mp hHeld.isNamed with
    ⟨base, hBase⟩
  have hLast : '/' ∉ (p.getLastD "").toList := by
    rcases List.eq_nil_or_concat p with rfl | ⟨before, last, rfl⟩
    · simp
    · rw [List.concat_eq_append] at hFile ⊢
      rw [List.getLastD_concat]
      exact (FileTree.get?_of_concat hFile).1.2.2.2
  rw [hBase, Option.getD_some]
  exact Component.not_mem_name
    (Component.not_mem_of_baseName? hLast hBase)

section Step

variable {t : Resolve.Setup}
variable {directory : Address}
variable {tree : FileTree}
variable {file : TemplateFile}

theorem compileFile_eq :
    compileFile t directory tree file =
      moduleIn t tree file >>= fun text =>
        (tree.writeFile directory file.moduleName text).mapError
          (.unwritten (target directory file).print) := by
  unfold compileFile moduleIn
  rw [bind_assoc]

/- A template with a good verdict is written. -/
theorem compileFile_of_ok
    {text : String}
    (hDirectory :
      tree.get? (tree.locate directory) = some .directory)
    (hName : IsName file.moduleName)
    (hVerdict : verdict t directory tree file = .ok text) :
    ∃ hAdmits : tree.Admits (tree.locate directory) file.moduleName,
      compileFile t directory tree file =
        .ok (tree.put (tree.locate directory) file.moduleName
          (.file text) hAdmits) := by
  unfold verdict at hVerdict
  rw [compileFile_eq]
  cases hModule : moduleIn t tree file with
  | error error =>
      rw [hModule] at hVerdict
      cases hVerdict
  | ok found =>
      simp only [hModule, bind, Except.bind] at hVerdict ⊢
      split at hVerdict
      · cases hVerdict
      · rename_i hFree
        cases hVerdict
        rw [target, FileTree.locate_child] at hFree
        refine ⟨⟨hDirectory, hName, hFree⟩, ?_⟩
        rw [FileTree.writeFile_of_admits]
        rfl

/- Any other template is reported with its verdict. -/
theorem compileFile_of_error
    {error : TemplateError}
    (hDirectory :
      tree.get? (tree.locate directory) = some .directory)
    (hVerdict : verdict t directory tree file = .error error) :
    compileFile t directory tree file = .error error := by
  unfold verdict at hVerdict
  rw [compileFile_eq]
  cases hModule : moduleIn t tree file with
  | error found =>
      rw [hModule] at hVerdict
      cases hVerdict
      rfl
  | ok text =>
      simp only [hModule, bind, Except.bind] at hVerdict ⊢
      split at hVerdict
      · rename_i hTaken
        cases hVerdict
        rw [target, FileTree.locate_child] at hTaken
        rw [FileTree.writeFile_of_taken _ hDirectory hTaken]
        rfl
      · cases hVerdict

end Step

------------------------------------------------------------
-- Sources
------------------------------------------------------------

/- Two trees have the same directories and templates. -/
structure SameSources
    (tree later : FileTree) : Prop where
  keeps : KeepsSources tree later
  back : KeepsSources later tree

namespace SameSources

theorem refl
    (tree : FileTree) :
    SameSources tree tree :=
  ⟨KeepsSources.refl tree, KeepsSources.refl tree⟩

theorem symm
    {tree later : FileTree}
    (hSame : SameSources tree later) :
    SameSources later tree :=
  ⟨hSame.back, hSame.keeps⟩

theorem trans
    {tree middle later : FileTree}
    (hFirst : SameSources tree middle)
    (hSecond : SameSources middle later) :
    SameSources tree later :=
  ⟨hFirst.keeps.trans hSecond.keeps, hSecond.back.trans hFirst.back⟩

/- A module is neither a directory nor a template. -/
theorem put_module
    {tree : FileTree}
    {place : Place}
    {file : TemplateFile}
    (text : String)
    (hAdmits : tree.Admits place file.moduleName) :
    SameSources tree
      (tree.put place file.moduleName (.file text) hAdmits) := by
  have hOthers : ∀ p : Place,
      (Component.baseName? (p.getLastD "")).isSome →
        (tree.put place file.moduleName (.file text)
          hAdmits).get? p = tree.get? p := by
    intro p hNamed
    rw [FileTree.get?_put, if_neg]
    rintro rfl
    rw [List.getLastD_concat, TemplateFile.moduleName,
      Component.baseName?_module] at hNamed
    cases hNamed
  constructor
  · refine ⟨⟨rfl, ?_⟩, ?_⟩
    · intro p hHeld
      rw [FileTree.get?_put, if_neg]
      · exact hHeld
      · rintro rfl
        exact hAdmits.2.2 hHeld
    · intro p content hNamed
      rw [hOthers p hNamed]
  · refine ⟨⟨rfl, ?_⟩, ?_⟩
    · intro p hHeld
      rw [FileTree.get?_put] at hHeld
      split at hHeld
      · cases hHeld
      · exact hHeld
    · intro p content hNamed
      rw [hOthers p hNamed]

variable {tree later : FileTree}

theorem locate_eq
    (hSame : SameSources tree later)
    (a : Address) :
    later.locate a = tree.locate a :=
  FileTree.locate_congr hSame.keeps.home a

theorem get?_directory_iff
    (hSame : SameSources tree later)
    (p : Place) :
    later.get? p = some .directory ↔
      tree.get? p = some .directory :=
  ⟨hSame.back.directories p, hSame.keeps.directories p⟩

/- The verdict on a template depends on the sources only. -/
theorem verdict_eq
    {file : TemplateFile}
    {p : Place}
    (t : Resolve.Setup)
    (directory : Address)
    (hSame : SameSources tree later)
    (hHeld : file.IsHeld tree p) :
    verdict t directory later file =
      verdict t directory tree file := by
  unfold verdict moduleIn
  simp only [hSame.keeps.readFile_eq hHeld, hSame.locate_eq,
    hSame.get?_directory_iff]

end SameSources

------------------------------------------------------------
-- Runs
------------------------------------------------------------

/- The output directory exists, and templates are in place. -/
structure IsReady
    (directory : Address)
    (tree : FileTree)
    (files : List TemplateFile) : Prop where
  isDirectory : tree.get? (tree.locate directory) = some .directory
  isHeld : ∀ file ∈ files, ∃ p, file.IsHeld tree p

namespace IsReady

variable {directory : Address}
variable {tree later : FileTree}
variable {file : TemplateFile}
variable {rest : List TemplateFile}

theorem tail
    (hReady : IsReady directory tree (file :: rest)) :
    IsReady directory tree rest :=
  ⟨hReady.isDirectory, fun other hOther =>
    hReady.isHeld other (List.mem_cons_of_mem _ hOther)⟩

theorem of_same
    (hReady : IsReady directory tree rest)
    (hSame : SameSources tree later) :
    IsReady directory later rest := by
  constructor
  · rw [hSame.locate_eq]
    exact hSame.keeps.directories _ hReady.isDirectory
  · intro other hOther
    rcases hReady.isHeld other hOther with ⟨p, hHeld⟩
    exact ⟨p, hSame.keeps.isHeld hHeld⟩

end IsReady

/-
  What compiling templates from a current tree on comes to,
  by their verdicts in the tree before the run.
-/
structure Runs
    (t : Resolve.Setup)
    (directory : Address)
    (initial current : FileTree)
    (files : List TemplateFile)
    (progress : Progress) : Prop where
  same : SameSources initial progress.tree
  compiled :
    progress.compiled =
      files.countP (fun file =>
        (verdict t directory initial file).isOk)
  elsewhere :
    ∀ p,
      (∀ file ∈ files, ∀ text,
        verdict t directory initial file = .ok text →
          p ≠ initial.locate (target directory file)) →
      progress.tree.get? p = current.get? p
  written :
    (files.map TemplateFile.component).Nodup →
      ∀ file ∈ files, ∀ text,
        verdict t directory initial file = .ok text →
          progress.tree.get? (initial.locate (target directory file)) =
            some (.file text)

section Run

variable {t : Resolve.Setup}
variable {directory : Address}
variable {initial current next : FileTree}
variable {file : TemplateFile}
variable {files : List TemplateFile}
variable {progress : Progress}

theorem compileFrom_cons_of_error
    {error : TemplateError}
    (count index : Nat)
    (hStep : compileFile t directory current file = .error error) :
    compileFrom t directory count index current (file :: files) =
      let later :=
        compileFrom t directory count (index + 1) current files
      ⟨.compiling index count file.component
          :: .failed error :: later.events,
        later.compiled, later.tree⟩ := by
  rw [compileFrom, hStep]

theorem compileFrom_cons_of_ok
    (count index : Nat)
    (hStep : compileFile t directory current file = .ok next) :
    compileFrom t directory count index current (file :: files) =
      let later :=
        compileFrom t directory count (index + 1) next files
      ⟨.compiling index count file.component
          :: .wrote (target directory file).print :: later.events,
        later.compiled + 1, later.tree⟩ := by
  rw [compileFrom, hStep]

theorem locate_target
    (tree : FileTree)
    (directory : Address)
    (file : TemplateFile) :
    tree.locate (target directory file) =
      tree.locate directory ++ [file.moduleName] :=
  tree.locate_child directory file.moduleName

/- The modules of different components lie apart. -/
theorem component_eq_of_target
    {tree : FileTree}
    {other : TemplateFile}
    (hSame :
      tree.locate (target directory file) =
        tree.locate (target directory other)) :
    file.component = other.component := by
  rw [locate_target, locate_target] at hSame
  have hName := List.append_cancel_left hSame
  exact TemplateFile.moduleName_injective (List.singleton_inj.mp hName)

namespace Runs

theorem skip
    {error : TemplateError}
    (events : List Event)
    (hVerdict : verdict t directory initial file = .error error)
    (hRuns : Runs t directory initial current files progress) :
    Runs t directory initial current (file :: files)
      ⟨events, progress.compiled, progress.tree⟩ where
  same := hRuns.same
  compiled := by
    rw [List.countP_cons_of_neg (by simp [hVerdict, Except.isOk,
      Except.toBool])]
    exact hRuns.compiled
  elsewhere := by
    intro p hOther
    exact hRuns.elsewhere p fun later hLater =>
      hOther later (List.mem_cons_of_mem _ hLater)
  written := by
    intro hDistinct other hOther text hText
    rcases List.mem_cons.mp hOther with rfl | hLater
    · rw [hVerdict] at hText
      cases hText
    · exact hRuns.written (List.nodup_cons.mp hDistinct).2 other
        hLater text hText

/- What is written first is not written over. -/
theorem write
    {text : String}
    (events : List Event)
    (hVerdict : verdict t directory initial file = .ok text)
    (hNext :
      ∀ p, next.get? p =
        if p = initial.locate (target directory file) then
          some (.file text)
        else
          current.get? p)
    (hRuns : Runs t directory initial next files progress) :
    Runs t directory initial current (file :: files)
      ⟨events, progress.compiled + 1, progress.tree⟩ where
  same := hRuns.same
  compiled := by
    rw [List.countP_cons_of_pos (by simp [hVerdict, Except.isOk,
      Except.toBool])]
    exact congrArg (· + 1) hRuns.compiled
  elsewhere := by
    intro p hOther
    have hLater :=
      hRuns.elsewhere p fun later hLater =>
        hOther later (List.mem_cons_of_mem _ hLater)
    rw [hLater, hNext,
      if_neg (hOther file List.mem_cons_self text hVerdict)]
  written := by
    intro hDistinct other hOther content hText
    rcases List.nodup_cons.mp hDistinct with ⟨hNew, hRest⟩
    rcases List.mem_cons.mp hOther with rfl | hLater
    · rw [hVerdict] at hText
      cases hText
      rw [hRuns.elsewhere, hNext, if_pos rfl]
      intro later hMember _ _ hSame
      apply hNew
      rw [component_eq_of_target hSame]
      exact List.mem_map_of_mem hMember
    · exact hRuns.written hRest other hLater content hText

end Runs

/- Every template meets the verdict it had before the run. -/
theorem compileFrom_runs
    (count index : Nat)
    (hReady : IsReady directory initial files)
    (hSame : SameSources initial current) :
    Runs t directory initial current files
      (compileFrom t directory count index current files) := by
  induction files generalizing current index with
  | nil =>
      exact ⟨hSame, rfl, fun _ _ => rfl, fun _ file hFile =>
        absurd hFile List.not_mem_nil⟩
  | cons file rest ih =>
      rcases hReady.isHeld file List.mem_cons_self with ⟨p, hHeld⟩
      have hDirectory := (hReady.of_same hSame).isDirectory
      have hAgree := hSame.verdict_eq t directory hHeld
      cases hVerdict : verdict t directory initial file with
      | error error =>
          rw [hVerdict] at hAgree
          rw [compileFrom_cons_of_error count index
            (compileFile_of_error hDirectory hAgree)]
          exact (ih (index + 1) hReady.tail hSame).skip _ hVerdict
      | ok text =>
          rw [hVerdict] at hAgree
          rcases compileFile_of_ok hDirectory
            hHeld.isName_moduleName hAgree with ⟨hAdmits, hStep⟩
          rw [compileFrom_cons_of_ok count index hStep]
          have hNext := SameSources.put_module text hAdmits
          refine (ih (index + 1) hReady.tail
            (hSame.trans hNext)).write _ hVerdict ?_
          intro q
          rw [FileTree.get?_put, hSame.locate_eq, locate_target]

/- Runs in trees with the same sources report the same. -/
theorem compileFrom_events
    {other : FileTree}
    (count index : Nat)
    (hReady : IsReady directory current files)
    (hSame : SameSources current other) :
    (compileFrom t directory count index other files).events =
        (compileFrom t directory count index current files).events ∧
      (compileFrom t directory count index other files).compiled =
        (compileFrom t directory count index current
          files).compiled := by
  induction files generalizing current other index with
  | nil => exact ⟨rfl, rfl⟩
  | cons file rest ih =>
      rcases hReady.isHeld file List.mem_cons_self with ⟨p, hHeld⟩
      have hDirectory := hReady.isDirectory
      have hOther := (hReady.of_same hSame).isDirectory
      have hAgree := hSame.verdict_eq t directory hHeld
      cases hVerdict : verdict t directory current file with
      | error error =>
          rw [hVerdict] at hAgree
          rw [compileFrom_cons_of_error count index
              (compileFile_of_error hDirectory hVerdict),
            compileFrom_cons_of_error count index
              (compileFile_of_error hOther hAgree)]
          rcases ih (index + 1) hReady.tail hSame with
            ⟨hEvents, hCompiled⟩
          simp only [hEvents, hCompiled, and_self]
      | ok text =>
          rw [hVerdict] at hAgree
          have hName := hHeld.isName_moduleName
          rcases compileFile_of_ok hDirectory hName hVerdict with
            ⟨hAdmits, hStep⟩
          rcases compileFile_of_ok hOther hName hAgree with
            ⟨hAdmitsOther, hStepOther⟩
          rw [compileFrom_cons_of_ok count index hStep,
            compileFrom_cons_of_ok count index hStepOther]
          have hNext := SameSources.put_module text hAdmits
          have hNextOther :=
            hSame.trans (SameSources.put_module text hAdmitsOther)
          rcases ih (index + 1) (hReady.tail.of_same hNext)
            (hNext.symm.trans hNextOther) with
            ⟨hEvents, hCompiled⟩
          simp only [hEvents, hCompiled, and_self]

/- Modules that are there already are not changed. -/
theorem compileFrom_of_settled
    (count index : Nat)
    (hReady : IsReady directory current files)
    (hSettled :
      ∀ file ∈ files, ∀ text,
        verdict t directory current file = .ok text →
          current.get? (current.locate (target directory file)) =
            some (.file text)) :
    (compileFrom t directory count index current files).tree =
      current := by
  induction files generalizing index with
  | nil => rfl
  | cons file rest ih =>
      rcases hReady.isHeld file List.mem_cons_self with ⟨p, hHeld⟩
      have hLater :=
        ih (index + 1) hReady.tail fun other hOther =>
          hSettled other (List.mem_cons_of_mem _ hOther)
      cases hVerdict : verdict t directory current file with
      | error error =>
          rw [compileFrom_cons_of_error count index
            (compileFile_of_error hReady.isDirectory hVerdict)]
          exact hLater
      | ok text =>
          rcases compileFile_of_ok hReady.isDirectory
            hHeld.isName_moduleName hVerdict with ⟨hAdmits, hStep⟩
          have hWritten :=
            hSettled file List.mem_cons_self text hVerdict
          rw [locate_target] at hWritten
          rw [FileTree.put_eq_self hAdmits hWritten] at hStep
          rw [compileFrom_cons_of_ok count index hStep]
          exact hLater

end Run

------------------------------------------------------------
-- Repeated Components
------------------------------------------------------------

/- Templates of different components are all collected. -/
theorem collectAfter_of_nodup
    {seen files : List TemplateFile}
    (hDistinct :
      ((seen ++ files).map TemplateFile.component).Nodup) :
    collectAfter seen files = ⟨files, none⟩ := by
  induction files generalizing seen with
  | nil => rfl
  | cons file rest ih =>
      have hNew :
          seen.find? (·.component == file.component) = none := by
        rw [List.find?_eq_none]
        intro former hFormer hSame
        rw [List.map_append, List.nodup_append] at hDistinct
        exact hDistinct.2.2 _ (List.mem_map_of_mem hFormer) _
          (List.mem_map_of_mem List.mem_cons_self)
          (beq_iff_eq.mp hSame)
      rw [List.append_cons] at hDistinct
      rw [collectAfter, hNew]
      simp only [ih hDistinct]

/- A repeated component is found. -/
theorem collectAfter_of_repeated
    {seen files : List TemplateFile}
    (hSeen : (seen.map TemplateFile.component).Nodup)
    (hRepeated :
      ¬((seen ++ files).map TemplateFile.component).Nodup) :
    (collectAfter seen files).clash.isSome := by
  induction files generalizing seen with
  | nil =>
      rw [List.append_nil] at hRepeated
      exact absurd hSeen hRepeated
  | cons file rest ih =>
      rw [collectAfter]
      cases hFound :
          seen.find? (·.component == file.component) with
      | some former => rfl
      | none =>
          rw [List.append_cons] at hRepeated
          refine ih ?_ hRepeated
          rw [List.map_append, List.nodup_append]
          refine ⟨hSeen, by simp, ?_⟩
          intro component hComponent other hOther hSame
          rcases List.mem_map.mp hComponent with
            ⟨former, hFormer, rfl⟩
          rw [List.find?_eq_none] at hFound
          apply hFound former hFormer
          rw [hSame, beq_iff_eq]
          simpa using hOther

------------------------------------------------------------
-- The Output Directory
------------------------------------------------------------

section Output

variable {tree : FileTree}
variable {root out : String}
variable {p : Place}
variable {entry : FileEntry}

/- The output directory is reached if the root is. -/
theorem starts_outputDirectory
    (out : String)
    (hRoot : tree.find root = .ok (p, entry)) :
    tree.Starts (Address.ofPath (outputDirectory root out)) := by
  rcases FileTree.find_eq_ok hRoot with ⟨hSome, hStarts, _, _⟩
  unfold outputDirectory
  split
  · rw [Address.ofPath_joinPath _ hSome]
    exact hStarts.foldl_step _
  · split
    · rename_i hAbsolute
      exact Or.inl ((Address.base_foldl_step _ _).mpr hAbsolute)
    · rw [Address.ofPath_joinPath _ hSome]
      exact hStarts.foldl_step _

theorem find_of_templateFiles
    {files : List TemplateFile}
    (hFiles : templateFiles tree root = .ok files) :
    ∃ p entry, tree.find root = .ok (p, entry) := by
  unfold templateFiles at hFiles
  split at hFiles
  · cases hFiles
  · rename_i hFound
    exact ⟨_, _, hFound⟩
  · rename_i hFound
    exact ⟨_, _, hFound⟩

/- The templates are ready once their directory is made. -/
theorem isReady_of_isMade
    {made : FileTree}
    {directory : Address}
    {files : List TemplateFile}
    (hFiles : templateFiles tree root = .ok files)
    (hMade : tree.IsMade made (tree.locate directory)) :
    IsReady directory made files := by
  constructor
  · rw [FileTree.locate_congr hMade.home, hMade.get?_eq,
      if_pos (List.prefix_refl _)]
  · intro file hFile
    rcases isHeld_of_mem_templateFiles hFiles hFile with ⟨p, hHeld⟩
    exact ⟨p, (KeepsSources.of_isMade hMade).isHeld hHeld⟩

end Output

------------------------------------------------------------
-- Projects
------------------------------------------------------------

/- The report on a project whose templates were compiled. -/
def finished
    (root out : String)
    (files : List TemplateFile)
    (progress : Progress) : Report where
  events :=
    .started root
      :: files.map (fun file => .found file.path)
      ++ ([.counted files.length, .output (outputDirectory root out)]
        ++ progress.events
        ++ [.finished progress.compiled files.length])
  error :=
    let failures := files.length - progress.compiled
    if failures = 0 then none else some (.failed failures)
  tree := progress.tree

section Compile

variable {t : Resolve.Setup}
variable {root out : String}
variable {tree made : FileTree}
variable {files : List TemplateFile}

/- Templates that share a component are refused as a whole. -/
theorem compile_of_repeated
    (hFiles : templateFiles tree root = .ok files)
    (hRepeated : ¬(files.map TemplateFile.component).Nodup) :
    (compile t root out tree).tree = tree ∧
      ∃ error, (compile t root out tree).error = some error ∧
        error.kind? = some .duplicateComponent := by
  have hClash : (collectAfter [] files).clash.isSome :=
    collectAfter_of_repeated List.nodup_nil hRepeated
  rcases Option.isSome_iff_exists.mp hClash with
    ⟨⟨former, later⟩, hSome⟩
  unfold compile collect
  rw [hFiles]
  simp only [hSome, true_and]
  exact ⟨_, rfl, rfl⟩

/- Without templates nothing is done. -/
theorem compile_of_nil
    (hFiles : templateFiles tree root = .ok []) :
    (compile t root out tree).tree = tree := by
  unfold compile
  rw [hFiles]
  rfl

theorem compile_of_nodup
    (hFiles : templateFiles tree root = .ok files)
    (hDistinct : (files.map TemplateFile.component).Nodup)
    (hSome : files ≠ []) :
    compile t root out tree =
      let report :=
        compileCollected t (outputDirectory root out) tree files
      { report with
        events :=
          .started root
            :: files.map (fun file => .found file.path)
            ++ report.events } := by
  have hCollect : collect files = ⟨files, none⟩ := by
    unfold collect
    exact collectAfter_of_nodup hDistinct
  unfold compile
  rw [hFiles]
  simp only [hCollect]

/- Other templates are compiled when there is a directory. -/
theorem compile_eq_finished
    (hFiles : templateFiles tree root = .ok files)
    (hDistinct : (files.map TemplateFile.component).Nodup)
    (hSome : files ≠ [])
    (hMade :
      tree.makeDirectories
          (Address.ofPath (outputDirectory root out)) =
        .ok made) :
    compile t root out tree =
      finished root out files
        (compileFrom t (Address.ofPath (outputDirectory root out))
          files.length 1 made files) := by
  rw [compile_of_nodup hFiles hDistinct hSome]
  simp only [compileCollected, hMade, finished]

/- A tree changes only when templates are compiled. -/
theorem compile_cases
    (t : Resolve.Setup)
    (root out : String)
    (tree : FileTree) :
    (compile t root out tree).tree = tree ∨
      ∃ files made, templateFiles tree root = .ok files ∧
        (files.map TemplateFile.component).Nodup ∧ files ≠ [] ∧
        tree.makeDirectories
            (Address.ofPath (outputDirectory root out)) =
          .ok made := by
  cases hFiles : templateFiles tree root with
  | error error =>
      unfold compile
      rw [hFiles]
      exact Or.inl rfl
  | ok files =>
      by_cases hDistinct : (files.map TemplateFile.component).Nodup
      · by_cases hSome : files = []
        · subst hSome
          exact Or.inl (compile_of_nil hFiles)
        · cases hMade :
              tree.makeDirectories
                (Address.ofPath (outputDirectory root out)) with
          | error error =>
              left
              rw [compile_of_nodup hFiles hDistinct hSome]
              simp only [compileCollected, hMade]
          | ok made =>
              exact Or.inr ⟨files, made, rfl, hDistinct, hSome, rfl⟩
      · exact Or.inl (compile_of_repeated hFiles hDistinct).1

end Compile

end Project

end TemplateJsx
