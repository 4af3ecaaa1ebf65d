import TemplateJsx.Diagnostic.Kind
import TemplateJsx.Text.Join

/-
  This file defines the configuration of the resolver, its
  defaults and its validation.

  Key definitions include:
    * `Config`
    * `Config.default`
    * `Config.rename`
    * `Config.Problem`
    * `Config.problems`
    * `Config.validate`
-/

------------------------------------------------------------
-- Configurations
------------------------------------------------------------

namespace TemplateJsx

/- The configuration of the resolver. -/
structure Config where
  /- The printed names of attributes, by template name. -/
  attributeRenames : List (String × String)
  /- The deepest nesting; there is no bound if it is not positive. -/
  maxDepth : Int
  /- Whether elements without children close themselves. -/
  selfCloseEmptyElements : Bool
  /- The modifier that binds a handler to an event. -/
  eventModifier : String
  deriving DecidableEq, Repr

namespace Config

/- The names that differ between templates and markup. -/
def defaultRenames : List (String × String) :=
  [("class", "className"), ("for", "htmlFor")]

/- The configuration used when none is given. -/
def default : Config where
  attributeRenames := defaultRenames
  maxDepth := 512
  selfCloseEmptyElements := true
  eventModifier := "on"

/- The printed name of a template attribute. -/
def rename
    (c : Config)
    (name : String) : String :=
  (c.attributeRenames.lookup name).getD name

/- Enter a name into a table, in the place of its former entry. -/
def putRename
    (key : String)
    (value : String) :
    List (String × String) → List (String × String)
  | [] => [(key, value)]
  | entry :: rest =>
      if entry.1 = key then
        (key, value) :: rest
      else
        entry :: putRename key value rest

------------------------------------------------------------
-- Validation
------------------------------------------------------------

/- What can be wrong with a configuration. -/
inductive Problem where
  | renameRequired (key : String)
  | depthTooSmall
  | depthTooLarge
  | eventModifierRequired
  deriving DecidableEq, Repr

/- The largest bound on the nesting. -/
def maxDepthLimit : Int := 100000

/- The wording of a problem. -/
def Problem.message : Problem → String
  | .renameRequired key =>
      "TransformConfig.AttributeRenames[" ++ key
        ++ "] is required"
  | .depthTooSmall =>
      "TransformConfig.MaxDepth must be at least 0"
  | .depthTooLarge =>
      "TransformConfig.MaxDepth must be at most 100000"
  | .eventModifierRequired =>
      "TransformConfig.EventModifier is required"

/- The problems of one rename, for its key and its value. -/
def renameProblems
    (entry : String × String) : List Problem :=
  (if entry.1 = "" then [.renameRequired entry.1] else [])
    ++ (if entry.2 = "" then [.renameRequired entry.1] else [])

/- The problems of a configuration, field by field. -/
def problems (c : Config) : List Problem :=
  c.attributeRenames.flatMap renameProblems
    ++ (if c.maxDepth < 0 then
        [.depthTooSmall]
      else if maxDepthLimit < c.maxDepth then
        [.depthTooLarge]
      else
        [])
    ++ (if c.eventModifier = "" then
        [.eventModifierRequired]
      else
        [])

/- The wording of a failed validation. -/
def problemsMessage (problems : List Problem) : String :=
  ErrorKind.invalidConfig.phrase ++ ": "
    ++ Text.joinWith "; " (problems.map Problem.message)

/- The configuration itself if nothing is wrong with it. -/
def validate (c : Config) : Except (List Problem) Config :=
  match c.problems with
  | [] => .ok c
  | problems => .error problems

end Config

end TemplateJsx
