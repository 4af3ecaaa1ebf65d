import TemplateJsx.Component.Module
import TemplateJsx.Project.Template
import TemplateJsx.Resolve.Statement
import TemplateJsx.Template.Reader

/-
  This file defines how a project is compiled: every template
  becomes a module in the output directory, and what happens
  is reported event by event. A template that cannot be
  compiled does not keep the others from being compiled.

  Key definitions include:
    * `Project.Event`
    * `Project.Error`
    * `Project.Report`
    * `Project.outputDirectory`
    * `Project.compileFile`
    * `Project.compile`
-/

------------------------------------------------------------
-- Errors
------------------------------------------------------------

namespace TemplateJsx

namespace Project

/- Why a template was not compiled. -/
inductive TemplateError where
  | unread (path : String) (error : FileError)
  | noTemplate (path : String) (error : Template.ReadError)
  | unresolved (error : Resolve.Error)
  | unwritten (path : String) (error : FileError)
  deriving DecidableEq, Repr

/- The wording of an error. -/
def TemplateError.message : TemplateError → String
  | .unread path error =>
      "error reading " ++ path ++ ": " ++ error.message
  | .noTemplate path error =>
      "error decoding " ++ path ++ ": " ++ error.message
  | .unresolved error => error.message
  | .unwritten path error =>
      "error writing output file " ++ path ++ ": "
        ++ error.message

/- Why a project was not compiled. -/
inductive Error where
  | unreadable (error : FileError)
  | duplicate (component : String) (former later : String)
  | noOutput (error : FileError)
  | failed (count : Nat)
  deriving DecidableEq, Repr

namespace Error

/- The kind of an error, if it has one. -/
def kind? : Error → Option ErrorKind
  | .duplicate _ _ _ => some .duplicateComponent
  | _ => none

/- The wording of an error. -/
def message : Error → String
  | .unreadable error =>
      "error finding templates: " ++ error.message
  | .duplicate component former later =>
      "error finding templates: "
        ++ ErrorKind.duplicateComponent.phrase ++ " "
        ++ component ++ ": " ++ former ++ " and " ++ later
  | .noOutput error =>
      "error creating output directory: " ++ error.message
  | .failed count =>
      count.repr ++ " template(s) failed to compile"

end Error

------------------------------------------------------------
-- Events
------------------------------------------------------------

/- What happens while a project is compiled. -/
inductive Event where
  | started (root : String)
  | found (path : String)
  | nothingFound
  | counted (count : Nat)
  | output (directory : String)
  | compiling (index count : Nat) (component : String)
  | failed (error : TemplateError)
  | wrote (path : String)
  | finished (compiled count : Nat)
  deriving DecidableEq, Repr

/- The lines that report an event. -/
def Event.print : Event → String
  | .started root =>
      "🔨 Compiling templates at: " ++ root ++ "\n\n"
  | .found path => "   ✓ Found template: " ++ path ++ "\n"
  | .nothingFound => "⚠️  No template trees found\n"
  | .counted count =>
      "📦 Found " ++ count.repr ++ " template(s)\n\n"
  | .output directory =>
      "📁 Output directory: " ++ directory ++ "\n\n"
  | .compiling index count component =>
      "[" ++ index.repr ++ "/" ++ count.repr ++ "] Compiling "
        ++ component ++ "...\n"
  | .failed error => "   ❌ Error: " ++ error.message ++ "\n"
  | .wrote path => "   ✅ Wrote " ++ path ++ "\n"
  | .finished compiled count =>
      "\n✅ Compilation complete: " ++ compiled.repr ++ "/"
        ++ count.repr ++ " templates compiled\n"

/- What compiling a project did. -/
structure Report where
  events : List Event
  error : Option Error
  tree : FileTree
  deriving DecidableEq, Repr

/- The lines that report all events. -/
def Report.log (r : Report) : String :=
  Text.concatAll (r.events.map Event.print)

------------------------------------------------------------
-- Templates
------------------------------------------------------------

/- The module of a template with the content of its file. -/
def moduleOf
    (t : Resolve.Setup)
    (file : TemplateFile)
    (content : String) : Except TemplateError String := do
  let template ←
    (Template.ofText content).mapError (.noTemplate file.path)
  let body ←
    (t.resolve (some template)).mapError .unresolved
  return Component.moduleText file.component file.path body

/- The name of the file that holds a template's module. -/
def TemplateFile.moduleName (file : TemplateFile) : String :=
  file.component ++ ".jsx"

/- Where the module of a template is written. -/
def target
    (directory : Address)
    (file : TemplateFile) : Address :=
  directory.child file.moduleName

/-
  Compile a template into a directory. The file is read when
  its turn comes, after others have been compiled.
-/
def compileFile
    (t : Resolve.Setup)
    (directory : Address)
    (tree : FileTree)
    (file : TemplateFile) : Except TemplateError FileTree := do
  let content ←
    (tree.readFile file.path).mapError (.unread file.path)
  let text ← moduleOf t file content
  (tree.writeFile directory file.moduleName text).mapError
    (.unwritten (target directory file).print)

/- What compiling some templates did. -/
structure Progress where
  events : List Event
  compiled : Nat
  tree : FileTree
  deriving DecidableEq, Repr

/- Compile templates in turn, counting from an index. -/
def compileFrom
    (t : Resolve.Setup)
    (directory : Address)
    (count : Nat)
    (index : Nat)
    (tree : FileTree) : List TemplateFile → Progress
  | [] => ⟨[], 0, tree⟩
  | file :: rest =>
      let start := Event.compiling index count file.component
      match compileFile t directory tree file with
      | .error error =>
          let later :=
            compileFrom t directory count (index + 1) tree rest
          ⟨start :: .failed error :: later.events,
            later.compiled, later.tree⟩
      | .ok next =>
          let later :=
            compileFrom t directory count (index + 1) next rest
          let path := (target directory file).print
          ⟨start :: .wrote path :: later.events,
            later.compiled + 1, later.tree⟩

------------------------------------------------------------
-- Projects
------------------------------------------------------------

/-
  The directory that modules are written to. It is given
  relative to the root, unless its path starts at the root of
  all files, and has a default below the root.
-/
def outputDirectory
    (root : String)
    (out : String) : String :=
  if out = "" then
    joinPath root ("dist/" ++ Component.compilerName)
  else if (startOf out).base = .root then
    out
  else
    joinPath root out

/- Compile templates whose components differ. -/
def compileCollected
    (t : Resolve.Setup)
    (directory : String)
    (tree : FileTree)
    (files : List TemplateFile) : Report :=
  let count := files.length
  let place := Address.ofPath directory
  match tree.makeDirectories place with
  | .error error => ⟨[.counted count], some (.noOutput error), tree⟩
  | .ok tree =>
      let progress := compileFrom t place count 1 tree files
      let failures := count - progress.compiled
      { events :=
          [.counted count, .output directory] ++ progress.events
            ++ [.finished progress.compiled count]
        error :=
          if failures = 0 then none else some (.failed failures)
        tree := progress.tree }

/- Compile the templates of a project. -/
def compile
    (t : Resolve.Setup)
    (root : String)
    (out : String)
    (tree : FileTree) : Report :=
  match templateFiles tree root with
  | .error error => ⟨[.started root], some (.unreadable error), tree⟩
  | .ok files =>
      let collected := collect files
      let opening :=
        .started root
          :: collected.templates.map (fun file => .found file.path)
      match collected.clash with
      | some (former, later) =>
          ⟨opening,
            some (.duplicate later.component former.path later.path),
            tree⟩
      | none =>
          match collected.templates with
          | [] => ⟨opening ++ [.nothingFound], none, tree⟩
          | templates =>
              let report :=
                compileCollected t (outputDirectory root out) tree
                  templates
              { report with events := opening ++ report.events }

end Project

end TemplateJsx
