import TemplateJsx.Component.Name
import TemplateJsx.Project.FileTree

/-
  This file defines which files of a project are templates.

  Key definitions include:
    * `Project.TemplateFile`
    * `Project.skippedNames`
    * `Project.templateFiles`
    * `Project.Collected`
    * `Project.collect`
-/

------------------------------------------------------------
-- Template Files
------------------------------------------------------------

namespace TemplateJsx

namespace Project

/- A template with its path and the name of its component. -/
structure TemplateFile where
  path : String
  component : String
  deriving DecidableEq, Repr

/- A file as a template, if its name says that it is one. -/
def templateFile?
    (path : String)
    (name : String) : Option TemplateFile :=
  (Component.baseName? name).map
    (fun base => ⟨path, Component.name base⟩)

/- The names of directories that hold no templates. -/
def skippedNames : List String :=
  ["node_modules", "dist"]

/-
  What is found below a directory as a template: a file that
  is in no skipped directory.
-/
def templateBelow?
    (root : String) :
    List String × FileEntry → Option TemplateFile
  | (_, .directory) => none
  | (names, .file _) =>
      if names.dropLast.any (· ∈ skippedNames) then
        none
      else
        templateFile?
          (joinPath root (Text.joinWith "/" names))
          (names.getLastD "")

/-
  The templates of a project in the order of a walk. The
  root may be a template itself.
-/
def templateFiles
    (tree : FileTree)
    (root : String) : Except FileError (List TemplateFile) :=
  match tree.find root with
  | .error problem => .error ⟨"lstat", root, problem⟩
  | .ok (_, .file _) =>
      .ok (templateFile? root (fileName root)).toList
  | .ok (directory, .directory) =>
      .ok ((tree.below directory).filterMap (templateBelow? root))

------------------------------------------------------------
-- Repeated Components
------------------------------------------------------------

/-
  Templates up to the first whose component an earlier one
  has, and these two if there are such.
-/
structure Collected where
  templates : List TemplateFile
  clash : Option (TemplateFile × TemplateFile)
  deriving DecidableEq, Repr

/- Collect templates after those that were seen before. -/
def collectAfter
    (seen : List TemplateFile) : List TemplateFile → Collected
  | [] => ⟨[], none⟩
  | file :: rest =>
      match seen.find? (·.component == file.component) with
      | some former => ⟨[], some (former, file)⟩
      | none =>
          let later := collectAfter (seen ++ [file]) rest
          ⟨file :: later.templates, later.clash⟩

/- Collect templates while their components differ. -/
def collect (files : List TemplateFile) : Collected :=
  collectAfter [] files

end Project

end TemplateJsx
