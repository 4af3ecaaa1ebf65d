import TemplateJsx.Command.Line
import TemplateJsx.Config.Parse
import TemplateJsx.Project.Compile

/-
  This file defines what commands do: which texts they print
  and how they change the files.

  Key definitions include:
    * `Command.Error`
    * `Command.Result`
    * `Command.loadConfig`
    * `Command.transform`
    * `Command.compile`
    * `Command.run`
-/

------------------------------------------------------------
-- Errors
------------------------------------------------------------

namespace TemplateJsx

namespace Command

open Component (compilerName)
open Project (FileTree FileError)

/- Why a command failed. -/
inductive Error where
  | usage (error : UsageError)
  | configUnread (error : FileError)
  | config (path : String) (error : Config.ParseError)
  | unread (path : String) (error : FileError)
  | noTemplate (path : String) (error : Template.ReadError)
  | unresolved (path : String) (error : Resolve.Error)
  | project (error : Project.Error)
  deriving DecidableEq, Repr

/- The wording of an error. -/
def Error.message : Error → String
  | .usage error => error.message
  | .configUnread error =>
      "failed to read config file: " ++ error.message
  | .config path error => path ++ ": " ++ error.message
  | .unread path error =>
      "error reading " ++ path ++ ": " ++ error.message
  | .noTemplate path error =>
      "error decoding " ++ path ++ ": " ++ error.message
  | .unresolved path error =>
      "error transforming " ++ path ++ ": " ++ error.message
  | .project error => error.message

/- What a command did. -/
structure Result where
  output : String
  notes : String
  error : Option Error
  tree : FileTree
  deriving DecidableEq, Repr

------------------------------------------------------------
-- Reading
------------------------------------------------------------

/- The configuration of a file, the default without one. -/
def loadConfig
    (tree : FileTree)
    (path : String) : Except Error Config :=
  if path = "" then
    .ok .default
  else do
    let text ← (tree.readFile path).mapError .configUnread
    (Config.parse text).mapError (.config path)

/- The text of a file; a dash stands for the input. -/
def readSource
    (tree : FileTree)
    (input : String)
    (path : String) : Except Error String :=
  if path = "-" then
    .ok input
  else
    (tree.readFile path).mapError (.unread path)

------------------------------------------------------------
-- Commands
------------------------------------------------------------

/- The note on a text that was read. -/
def readNote (path : String) (text : String) : String :=
  "read " ++ path ++ " (" ++ text.utf8ByteSize.repr ++ " bytes)\n"

/- The note on a template that was read. -/
def templateNote (template : Template) : String :=
  "decoded " ++ template.body.length.repr
    ++ " top-level statements\n"

/- A command that failed, with the notes it made before. -/
def failed
    (tree : FileTree)
    (notes : String)
    (error : Error) : Result :=
  ⟨"", notes, some error, tree⟩

/- Transform one template and print the expression. -/
def transform
    (s : Settings)
    (tree : FileTree)
    (input : String)
    (path : String) : Result :=
  let noted (text : String) := if s.verbose then text else ""
  match loadConfig tree s.config with
  | .error e => failed tree "" e
  | .ok config =>
    match readSource tree input path with
    | .error e => failed tree "" e
    | .ok text =>
      let notes := noted (readNote path text)
      match Template.ofText text with
      | .error e => failed tree notes (.noTemplate path e)
      | .ok template =>
        let notes := notes ++ noted (templateNote template)
        let t := Resolve.Setup.standard config
        match t.resolve (some template) with
        | .error e => failed tree notes (.unresolved path e)
        | .ok body => ⟨body.print ++ "\n", notes, none, tree⟩

/- Compile the templates of a project. -/
def compile
    (s : Settings)
    (tree : FileTree)
    (root : String) : Result :=
  match loadConfig tree s.config with
  | .error e => failed tree "" e
  | .ok config =>
      let t := Resolve.Setup.standard config
      let report := Project.compile t root s.out tree
      ⟨report.log, "", report.error.map .project, report.tree⟩

/- The version of the compiler. -/
def version : String := "dev"

/- The lines that tell how the compiler is used. -/
def usage : String :=
  compilerName
    ++ " converts a parsed Glimmer/Handlebars template tree"
    ++ " (YAML or JSON) into a JS/JSX expression.\n\n"
    ++ "Usage:\n"
    ++ "  " ++ compilerName ++ " transform [file|-]\n"
    ++ "  " ++ compilerName ++ " compile <dir> [-o dir]\n"
    ++ "  " ++ compilerName ++ " version\n\n"
    ++ "Flags:\n"
    ++ "  -c, --config string   transform config file (YAML)\n"
    ++ "  -v, --verbose         report progress on stderr\n"

/- Carry out a command line. -/
def run
    (arguments : List String)
    (input : String)
    (tree : FileTree) : Result :=
  match parse arguments with
  | .error e => failed tree "" (.usage e)
  | .ok (_, .help) => ⟨usage, "", none, tree⟩
  | .ok (_, .version) =>
      ⟨compilerName ++ " " ++ version ++ "\n", "", none, tree⟩
  | .ok (s, .transform path) => transform s tree input path
  | .ok (s, .compile root) => compile s tree root

end Command

end TemplateJsx
