import TemplateJsx.Proofs.Project.Compilation

/-
  Exactly what compiling a project leaves behind. Templates
  that share a component are refused before anything is
  written. Otherwise the output directory is made, and each
  template that can be compiled becomes one module in it, by
  its own file alone; nothing else changes, and the templates
  that could not be compiled are counted.

  Key definitions include:
    * `Project.outputPlace`
    * `Project.modulePlace`
    * `Project.written?`
    * `Project.SharesComponent`
    * `Project.IsRefused`
    * `Project.IsCompiled`

  Main declarations:
    * `Project.verdict_eq_ok_iff`
    * `Project.isCompiled_finished`
    * `Project.compile_exact`
-/

------------------------------------------------------------
-- Modules
------------------------------------------------------------

namespace TemplateJsx

namespace Project

/-
  The place of the output directory: its path is followed
  from the directory of the project.
-/
def outputPlace
    (directory : Place)
    (out : String) : Place :=
  let path := if out = "" then "dist/hbs-jsx" else out
  (components path).foldl advance directory

/- The place for the module of a template. -/
def modulePlace
    (directory : Place)
    (out : String)
    (names : List String) : Place :=
  outputPlace directory out
    ++ [componentOf (names.getLastD "") ++ ".jsx"]

/- The module of a template whose file has some content. -/
def moduleText?
    (t : Resolve.Setup)
    (file : TemplateFile)
    (content : String) : Option String := do
  let template ← (Template.ofText content).toOption
  let body ← (t.resolve (some template)).toOption
  return Component.moduleText file.component file.path body

/-
  The text that is written for a template, if one is: its
  content has a module, whose place is not a directory.
-/
def written?
    (t : Resolve.Setup)
    (root out : String)
    (tree : FileTree)
    (directory : Place)
    (names : List String) : Option String :=
  match tree.get? (directory ++ names) with
  | some (.file content) =>
      if tree.get? (modulePlace directory out names) =
          some .directory then
        none
      else
        moduleText? t (templateAt root names) content
  | _ => none

------------------------------------------------------------
-- Outcomes
------------------------------------------------------------

/- Two templates of a walk have the same component. -/
def SharesComponent (walk : List (List String)) : Prop :=
  ∃ names ∈ walk, ∃ other ∈ walk, names ≠ other ∧
    componentOf (names.getLastD "") = componentOf (other.getLastD "")

/- A project is refused, and its tree is left as it was. -/
structure IsRefused
    (tree : FileTree)
    (report : Report) : Prop where
  error :
    ∃ error, report.error = some error ∧
      error.kind? = some .duplicateComponent
  tree_eq : report.tree = tree

/- The error of a run in which some templates failed. -/
def failure? (failures : Nat) : Option Error :=
  if failures = 0 then none else some (.failed failures)

/-
  A project is compiled. Its tree has the output directory
  and a module for each template that is written, and holds
  what it held before at all other places.
-/
structure IsCompiled
    (t : Resolve.Setup)
    (root out : String)
    (tree : FileTree)
    (directory : Place)
    (walk : List (List String))
    (report : Report) : Prop where
  home : report.tree.home = tree.home
  directories :
    ∀ p, p <+: outputPlace directory out →
      report.tree.get? p = some .directory
  modules :
    ∀ names ∈ walk, ∀ text,
      written? t root out tree directory names = some text →
        report.tree.get? (modulePlace directory out names) =
          some (.file text)
  elsewhere :
    ∀ p, ¬p <+: outputPlace directory out →
      (∀ names ∈ walk, ∀ text,
        written? t root out tree directory names = some text →
          p ≠ modulePlace directory out names) →
      report.tree.get? p = tree.get? p
  apart :
    ∀ names ∈ walk, ∀ other ∈ walk,
      modulePlace directory out names =
          modulePlace directory out other →
        names = other
  templates :
    ∀ p content, (Component.baseName? (p.getLastD "")).isSome →
      (report.tree.get? p = some (.file content) ↔
        tree.get? p = some (.file content))
  error :
    report.error =
      failure? (walk.countP fun names =>
        (written? t root out tree directory names).isNone)

------------------------------------------------------------
-- Verdicts of a Walk
------------------------------------------------------------

theorem moduleOf_eq_ok_iff
    (t : Resolve.Setup)
    (file : TemplateFile)
    (content text : String) :
    moduleOf t file content = .ok text ↔
      moduleText? t file content = some text := by
  unfold moduleOf moduleText?
  cases Template.ofText content with
  | error error => simp [Except.mapError, Except.toOption, bind,
      Except.bind]
  | ok template =>
      simp only [Except.mapError, Except.toOption, bind, Except.bind,
        Option.bind]
      cases t.resolve (some template) with
      | error error => simp
      | ok body => simp [pure, Except.pure]

section Verdict

variable {tree made : FileTree}
variable {root out : String}
variable {directory : Place}
variable {names : List String}

theorem moduleName_templateAt
    (root : String)
    (names : List String) :
    (templateAt root names).moduleName =
      componentOf (names.getLastD "") ++ ".jsx" := by
  rw [TemplateFile.moduleName, component_templateAt]

/- The path of the output directory leads to its place. -/
theorem locate_outputDirectory
    (hRoot : tree.find root = .ok (directory, .directory))
    (hRelative : (startOf out).base ≠ .root) :
    tree.locate (Address.ofPath (outputDirectory root out)) =
      outputPlace directory out := by
  rcases FileTree.find_eq_ok hRoot with ⟨hSome, _, hPlace, _⟩
  unfold outputDirectory outputPlace
  rw [if_neg hRelative]
  split
  · rw [Address.ofPath_joinPath _ hSome, FileTree.locate_foldl_step,
      ← hPlace]
    rfl
  · rw [Address.ofPath_joinPath _ hSome, FileTree.locate_foldl_step,
      ← hPlace]

theorem locate_target_templateAt
    (names : List String)
    (hRoot : tree.find root = .ok (directory, .directory))
    (hRelative : (startOf out).base ≠ .root)
    (hHome : made.home = tree.home) :
    made.locate (target
        (Address.ofPath (outputDirectory root out))
        (templateAt root names)) =
      modulePlace directory out names := by
  rw [FileTree.locate_congr hHome, locate_target,
    locate_outputDirectory hRoot hRelative, moduleName_templateAt,
    modulePlace]

/- Making the output directory makes no module. -/
theorem get?_modulePlace
    (names : List String)
    (hMade : tree.IsMade made (outputPlace directory out)) :
    made.get? (modulePlace directory out names) =
      tree.get? (modulePlace directory out names) := by
  rw [hMade.get?_eq, if_neg]
  intro hPrefix
  have hLength := hPrefix.length_le
  rw [modulePlace, List.length_append, List.length_singleton]
    at hLength
  omega

/- A template is written by its verdict before the run. -/
theorem verdict_eq_ok_iff
    (t : Resolve.Setup)
    (text : String)
    (hRoot : tree.find root = .ok (directory, .directory))
    (hRelative : (startOf out).base ≠ .root)
    (hMade : tree.IsMade made (outputPlace directory out))
    (hHolds : HoldsTemplate tree directory names) :
    verdict t (Address.ofPath (outputDirectory root out)) made
          (templateAt root names) = .ok text ↔
      written? t root out tree directory names = some text := by
  rcases hHolds.isFile with ⟨content, hFile⟩
  have hFound :=
    hMade.keepsDirectories.find_eq
      (FileTree.find_joinPath hRoot hFile hHolds.ne_nil)
      (hMade.get?_file.mpr hFile)
  have hModule : moduleIn t made (templateAt root names) =
      moduleOf t (templateAt root names) content := by
    rw [moduleIn, FileTree.readFile, templateAt, hFound]
    rfl
  rw [verdict, hModule,
    locate_target_templateAt names hRoot hRelative hMade.home,
    get?_modulePlace names hMade, written?, hFile]
  simp only
  split
  · cases moduleOf t (templateAt root names) content with
    | error error => simp [bind, Except.bind]
    | ok found => simp [bind, Except.bind]
  · rw [← moduleOf_eq_ok_iff]
    cases moduleOf t (templateAt root names) content with
    | error error => simp [bind, Except.bind]
    | ok found => simp [bind, Except.bind]

end Verdict

------------------------------------------------------------
-- Exactness
------------------------------------------------------------

section Exact

variable {t : Resolve.Setup}
variable {root out : String}
variable {tree made : FileTree}
variable {directory : Place}
variable {walk : List (List String)}

theorem nodup_component_iff
    (root : String)
    (hWalk : IsWalk tree directory walk) :
    ((walk.map (templateAt root)).map
        TemplateFile.component).Nodup ↔
      ¬SharesComponent walk := by
  have hNodup : walk.Nodup :=
    hWalk.ordered.imp fun hLess => ne_of_lt hLess
  rw [List.map_map, List.nodup_map_iff_inj_on hNodup]
  simp only [Function.comp_apply, component_templateAt,
    SharesComponent, not_exists, not_and]
  constructor
  · intro hInjective names hNames other hOther hDifferent hSame
    exact hDifferent (hInjective names hNames other hOther hSame)
  · intro hApart names hNames other hOther hSame
    by_contra hDifferent
    exact hApart names hNames other hOther hDifferent hSame

theorem isOk_iff_isSome
    {verdict : Except TemplateError String}
    {text? : Option String}
    (hSame : ∀ text, verdict = .ok text ↔ text? = some text) :
    verdict.isOk = true ↔ text?.isSome = true := by
  cases verdict with
  | error error =>
      cases text? with
      | none => simp [Except.isOk, Except.toBool]
      | some text => cases (hSame text).mpr rfl
  | ok text =>
      rw [(hSame text).mp rfl]
      simp [Except.isOk, Except.toBool]

/- The templates that are not written are counted. -/
theorem length_sub_compiled
    {directory : Address}
    {progress : Progress}
    {texts : List String → Option String}
    (hVerdict :
      ∀ names ∈ walk, ∀ text,
        verdict t directory made (templateAt root names) = .ok text ↔
          texts names = some text)
    (hRuns :
      Runs t directory made made (walk.map (templateAt root))
        progress) :
    (walk.map (templateAt root)).length - progress.compiled =
      walk.countP fun names => (texts names).isNone := by
  have hCompiled :
      progress.compiled =
        walk.countP fun names => (texts names).isSome := by
    rw [hRuns.compiled, List.countP_map]
    exact List.countP_congr fun names hNames =>
      isOk_iff_isSome (hVerdict names hNames)
  have hTotal :
      walk.length =
        walk.countP (fun names => (texts names).isSome) +
          walk.countP (fun names => (texts names).isNone) := by
    rw [List.length_eq_countP_add_countP]
    congr 1
    exact List.countP_congr fun names _ => by simp
  rw [List.length_map, hCompiled]
  omega

/- What a run over the templates of a walk leaves. -/
theorem isCompiled_finished
    {progress : Progress}
    (hRoot : tree.find root = .ok (directory, .directory))
    (hRelative : (startOf out).base ≠ .root)
    (hWalk : IsWalk tree directory walk)
    (hApart : ¬SharesComponent walk)
    (hMade : tree.IsMade made (outputPlace directory out))
    (hRuns :
      Runs t (Address.ofPath (outputDirectory root out)) made made
        (walk.map (templateAt root)) progress) :
    IsCompiled t root out tree directory walk
      (finished root out (walk.map (templateAt root)) progress) := by
  have hTarget := fun names =>
    locate_target_templateAt names hRoot hRelative hMade.home
  have hVerdict := fun names (hNames : names ∈ walk) text =>
    verdict_eq_ok_iff t text hRoot hRelative hMade
      ((hWalk.complete names).mp hNames)
  have hKeeps :=
    (KeepsSources.of_isMade hMade).trans hRuns.same.keeps
  constructor
  case home => exact hKeeps.home
  case templates => exact hKeeps.templates
  case directories =>
    intro p hPrefix
    apply hRuns.same.keeps.directories
    rw [hMade.get?_eq, if_pos hPrefix]
  case modules =>
    intro names hNames text hText
    have hWritten :=
      hRuns.written ((nodup_component_iff root hWalk).mpr hApart)
        (templateAt root names) (List.mem_map_of_mem hNames) text
        ((hVerdict names hNames text).mpr hText)
    rw [hTarget] at hWritten
    exact hWritten
  case elsewhere =>
    intro p hOff hOther
    have hUnchanged :=
      hRuns.elsewhere p (by
        intro file hFile text hText
        rcases List.mem_map.mp hFile with ⟨names, hNames, rfl⟩
        rw [hTarget]
        exact hOther names hNames text
          ((hVerdict names hNames text).mp hText))
    rw [hMade.get?_eq, if_neg hOff] at hUnchanged
    exact hUnchanged
  case apart =>
    intro names hNames other hOther hSame
    by_contra hDifferent
    have hName := List.append_cancel_left hSame
    exact hApart ⟨names, hNames, other, hOther, hDifferent,
      (String.append_left_inj ".jsx").mp
        (List.singleton_inj.mp hName)⟩
  case error =>
    have hFailures := length_sub_compiled hVerdict hRuns
    simp only [finished, hFailures]
    rfl

end Exact

/-
  Compiling a project is exact. The walk is the only one, and
  the project is refused or compiled by it, whatever else the
  tree holds and wherever the output directory lies.
-/
theorem compile_exact
    {tree : FileTree}
    {root out : String}
    {directory : Place}
    (t : Resolve.Setup)
    (hRoot : tree.find root = .ok (directory, .directory))
    (hRelative : (startOf out).base ≠ .root) :
    ∃ walk, IsWalk tree directory walk ∧
      (SharesComponent walk →
        IsRefused tree (compile t root out tree)) ∧
      (¬SharesComponent walk → walk ≠ [] →
        tree.CanMake (outputPlace directory out) →
          IsCompiled t root out tree directory walk
            (compile t root out tree)) := by
  have hWalk := isWalk_below tree directory
  have hFiles := templateFiles_of_isWalk hRoot hWalk
  have hDistinct := nodup_component_iff root hWalk
  refine ⟨_, hWalk, ?_, ?_⟩
  · intro hShares
    rcases compile_of_repeated hFiles
      (fun hNodup => hDistinct.mp hNodup hShares) with
      ⟨hTree, hError⟩
    exact ⟨hError, hTree⟩
  · intro hApart hSome hFree
    have hStarts := starts_outputDirectory out hRoot
    rw [← locate_outputDirectory hRoot hRelative] at hFree
    rcases FileTree.makeDirectories_of_canMake hStarts
      (Address.isLegal_ofPath _) hFree with ⟨made, hMakes⟩
    have hMade := FileTree.makeDirectories_spec hStarts hMakes
    have hReady := isReady_of_isMade hFiles hMade
    rw [compile_eq_finished hFiles (hDistinct.mpr hApart)
      (by simpa using hSome) hMakes]
    rw [locate_outputDirectory hRoot hRelative] at hMade
    exact isCompiled_finished hRoot hRelative hWalk hApart hMade
      (compileFrom_runs _ 1 hReady (SameSources.refl made))

/- An empty template. -/
def cardSource : String :=
  "\x7btype: Template, body: []\x7d"

/- A template with a text. -/
def listSource : String :=
  "\x7btype: Template, "
    ++ "body: [\x7btype: TextNode, chars: Hi\x7d]\x7d"

/- The modules of the two templates. -/
def cardModule : String :=
  "// Compiled by hbs-jsx\n// Component: Card\n"
    ++ "// Template: card.hbs.json\n\n"
    ++ "export default function Card(args) \x7b\n"
    ++ "  return <></>;\n\x7d\n"

def listModule : String :=
  "// Compiled by hbs-jsx\n// Component: List\n"
    ++ "// Template: list.hbs.json\n\n"
    ++ "export default function List(args) \x7b\n"
    ++ "  return 'Hi';\n\x7d\n"

/-
  A project with both templates, a file that is no template
  tree before them, and a template that is skipped.
-/
def cardProject : FileTree where
  home := ["work"]
  entries :=
    [(["work"], .directory),
      (["work", "dist"], .directory),
      (["work", "dist", "card.hbs.json"], .file cardSource),
      (["work", "broken.hbs.json"], .file "\x7b\x7d"),
      (["work", "card.hbs.json"], .file cardSource),
      (["work", "list.hbs.json"], .file listSource)]
  distinct := by decide
  rooted := by decide

/- The templates of the project. -/
def cardWalk : List (List String) :=
  [["broken.hbs.json"], ["card.hbs.json"], ["list.hbs.json"]]

theorem isWalk_cardWalk :
    IsWalk cardProject ["work"] cardWalk where
  complete := by
    intro names
    constructor
    · intro hNames
      simp only [cardWalk, List.mem_cons, List.not_mem_nil,
        or_false] at hNames
      rcases hNames with rfl | rfl | rfl
      · exact ⟨⟨_, rfl⟩, by decide, by decide⟩
      · exact ⟨⟨_, rfl⟩, by decide, by decide⟩
      · exact ⟨⟨_, rfl⟩, by decide, by decide⟩
    · rintro ⟨⟨content, hHeld⟩, _, hOutside⟩
      have hEntry : (["work"] ++ names, .file content) ∈
          cardProject.entries :=
        (cardProject.mem_entries_iff _ _).mpr ⟨by simp, hHeld⟩
      simp only [cardProject, List.cons_append, List.nil_append,
        List.mem_cons, Prod.mk.injEq, List.cons.injEq, true_and,
        reduceCtorEq, and_false, FileEntry.file.injEq,
        List.not_mem_nil, or_false, false_or] at hEntry
      rcases hEntry with ⟨rfl, _⟩ | ⟨rfl, _⟩ | ⟨rfl, _⟩ | ⟨rfl, _⟩
      · simp [skippedNames] at hOutside
      · simp [cardWalk]
      · simp [cardWalk]
      · simp [cardWalk]
  ordered := by
    decide

theorem modulePlace_cardWalk :
    cardWalk.map (modulePlace ["work"] "out") =
      [["work", "out", "Broken.jsx"], ["work", "out", "Card.jsx"],
        ["work", "out", "List.jsx"]] := by
  decide +kernel

theorem not_sharesComponent_cardWalk :
    ¬SharesComponent cardWalk := by
  rintro ⟨names, hNames, other, hOther, hDifferent, hSame⟩
  have hNodup :
      (cardWalk.map (modulePlace ["work"] "out")).Nodup := by
    rw [modulePlace_cardWalk]
    decide
  apply hDifferent
  refine List.inj_on_of_nodup_map hNodup hNames hOther ?_
  rw [modulePlace, hSame, modulePlace]

theorem canMake_cardProject :
    cardProject.CanMake (outputPlace ["work"] "out") := by
  intro q content hPrefix
  change q <+: ["work", "out"] at hPrefix
  simp only [List.prefix_cons_iff, List.prefix_nil] at hPrefix
  rcases hPrefix with rfl | ⟨_, rfl, rfl | ⟨_, rfl, rfl⟩⟩
  · simp
  · rw [show cardProject.get? ["work"] = some .directory by rfl]
    simp
  · rw [show cardProject.get? ["work", "out"] = none by rfl]
    simp

/- Two templates have modules, and the file before them none. -/
theorem written?_cardWalk :
    cardWalk.map
        (written? (.standard .default) "." "out" cardProject
          ["work"]) =
      [none, some cardModule, some listModule] := by
  decide +kernel

/-
  The file that is no template tree is counted, and the two
  templates after it are written.
-/
theorem compile_exact_cardProject :
    let report := compile (.standard .default) "." "out" cardProject
    IsWalk cardProject ["work"] cardWalk ∧
      IsCompiled (.standard .default) "." "out" cardProject ["work"]
        cardWalk report ∧
      report.tree.get? ["work", "out", "Card.jsx"] =
        some (.file cardModule) ∧
      report.tree.get? ["work", "out", "List.jsx"] =
        some (.file listModule) ∧
      report.tree.get? ["work", "out", "Broken.jsx"] = none ∧
      report.error = some (.failed 1) := by
  intro report
  have hRoot :
      cardProject.find "." = .ok (["work"], .directory) := by rfl
  have hRelative : (startOf "out").base ≠ .root := by decide
  rcases compile_exact (.standard .default) hRoot hRelative with
    ⟨walk, hWalk, _, hCompiled⟩
  obtain rfl := hWalk.unique isWalk_cardWalk
  have hDone :=
    hCompiled not_sharesComponent_cardWalk (by decide)
      canMake_cardProject
  have hPlaces := modulePlace_cardWalk
  have hTexts := written?_cardWalk
  simp only [cardWalk, List.map_cons, List.map_nil, List.cons.injEq,
    and_true] at hPlaces hTexts
  rcases hPlaces with ⟨_, hCard, hList⟩
  rcases hTexts with ⟨hNoText, hCardText, hListText⟩
  refine ⟨hWalk, hDone, ?_, ?_, ?_, ?_⟩
  · rw [← hCard]
    exact hDone.modules _ (by decide) _ hCardText
  · rw [← hList]
    exact hDone.modules _ (by decide) _ hListText
  · rw [hDone.elsewhere _ (by decide)]
    · rfl
    · intro names hNames text hText
      simp only [cardWalk, List.mem_cons, List.not_mem_nil,
        or_false] at hNames
      rcases hNames with rfl | rfl | rfl
      · rw [hNoText] at hText
        cases hText
      · rw [hCard]
        decide
      · rw [hList]
        decide
  · have hCount :=
      congrArg (List.countP Option.isNone) written?_cardWalk
    rw [List.countP_map] at hCount
    rw [hDone.error]
    exact congrArg failure? hCount

end Project

end TemplateJsx
