import TemplateJsx.Proofs.Project.Compilation

/-
  Compiling a project again. The first run leaves the
  templates as they were and adds no others, wherever the
  output directory lies, so that a second run finds the same
  templates with the same verdicts, and finds every module it
  would write.

  Main declarations:
    * `Project.compile_again`
-/

------------------------------------------------------------
-- The Second Run
------------------------------------------------------------

namespace TemplateJsx

namespace Project

section Again

variable {t : Resolve.Setup}
variable {directory : Address}
variable {made : FileTree}
variable {files : List TemplateFile}

/- A second run over what the first one left. -/
theorem compileFrom_again
    (count index : Nat)
    (hReady : IsReady directory made files)
    (hDistinct : (files.map TemplateFile.component).Nodup) :
    compileFrom t directory count index
        (compileFrom t directory count index made files).tree files =
      compileFrom t directory count index made files := by
  have hRuns : Runs t directory made made files
      (compileFrom t directory count index made files) :=
    compileFrom_runs count index hReady (SameSources.refl made)
  have hSame := hRuns.same
  rcases compileFrom_events count index hReady hSame with
    ⟨hEvents, hCompiled⟩
  have hTree :=
    compileFrom_of_settled count index (hReady.of_same hSame) (by
      intro file hFile text hVerdict
      rcases hReady.isHeld file hFile with ⟨p, hHeld⟩
      rw [hSame.verdict_eq t directory hHeld] at hVerdict
      rw [hSame.locate_eq]
      exact hRuns.written hDistinct file hFile text hVerdict)
  rw [Progress.mk.injEq]
  exact ⟨hEvents, hCompiled, hTree⟩

end Again

------------------------------------------------------------
-- The Project Again
------------------------------------------------------------

/-
  Compiling a project a second time reports the same, ends
  with the same error or none, and changes nothing.
-/
theorem compile_again
    (t : Resolve.Setup)
    (root out : String)
    (tree : FileTree) :
    compile t root out (compile t root out tree).tree =
      compile t root out tree := by
  rcases compile_cases t root out tree with
    hUnchanged | ⟨files, made, hFiles, hDistinct, hSome, hMakes⟩
  · rw [hUnchanged]
  · rcases find_of_templateFiles hFiles with ⟨p, entry, hRoot⟩
    have hMade :=
      FileTree.makeDirectories_spec
        (starts_outputDirectory out hRoot) hMakes
    have hReady := isReady_of_isMade hFiles hMade
    have hFirst :=
      compile_eq_finished (t := t) hFiles hDistinct hSome hMakes
    have hRuns :=
      compileFrom_runs (t := t) files.length 1 hReady
        (SameSources.refl made)
    have hKeeps :=
      (KeepsSources.of_isMade hMade).trans hRuns.same.keeps
    have hSecond :=
      compile_eq_finished (t := t)
        (hKeeps.templateFiles_eq hFiles hSome) hDistinct hSome
        (FileTree.makeDirectories_of_directory
          (hReady.of_same hRuns.same).isDirectory)
    rw [compileFrom_again files.length 1 hReady hDistinct]
      at hSecond
    rw [hFirst]
    exact hSecond

end Project

end TemplateJsx
