import TemplateJsx.Config.Basic
import TemplateJsx.Document.Tree
import TemplateJsx.Document.Reading

/-
  This file reads configurations from documents. What a
  document does not mention stays at its default.

  Key definitions include:
    * `Config.ParseError`
    * `Config.readRenames`
    * `Config.readField`
    * `Config.readConfig`
    * `Config.ofDocument`
    * `Config.parse`
-/

------------------------------------------------------------
-- Errors
------------------------------------------------------------

namespace TemplateJsx

namespace Config

open Document (Entry Reading ReadFailure Trail)

/- Why a text is no configuration. -/
inductive ParseError where
  /- The text is no document. -/
  | unreadable (error : Document.SyntaxError)
  /- The document cannot be read as a configuration. -/
  | misread (failure : ReadFailure)
  /- The configuration is not valid. -/
  | invalid (problems : List Problem)
  deriving DecidableEq, Repr

/- The wording of an error. -/
def ParseError.message : ParseError → String
  | .unreadable error =>
      "failed to parse config: " ++ error.message
  | .misread failure =>
      "failed to parse config: " ++ failure.message
  | .invalid problems => problemsMessage problems

------------------------------------------------------------
-- Renames
------------------------------------------------------------

/-
  Enter one rename. Without a value the former entry stays,
  and where there is none the new entry is empty.
-/
def readRename
    (trail : Trail)
    (table : List (String × String))
    (e : Entry) : Reading (List (String × String)) := do
  match ← Document.readText trail e.key with
  | none => return table
  | some key =>
      match ← Document.readText trail e.value with
      | some value => return putRename key value table
      | none =>
          if Document.targetsNull e.value
              ∧ (table.lookup key).isNone then
            return putRename key "" table
          else
            return table

/- Enter several renames, in order. -/
def readRenameEntries
    (trail : Trail)
    (table : List (String × String)) :
    List Entry → Reading (List (String × String))
  | [] => return table
  | e :: rest => do
      let table ← readRename trail table e
      readRenameEntries trail table rest

/-
  Enter the renames of a node into a table. A node that
  stands for nothing empties the table.
-/
def readRenames
    (table : List (String × String)) :
    Trail → Document.Node → Reading (List (String × String)) :=
  Document.readTarget fun trail node => do
    match node with
    | .mapping entries _ =>
        match Document.repeatedKeys entries with
        | [] => readRenameEntries trail table entries
        | repeated =>
            Reading.mismatchAll repeated
            return table
    | _ =>
        Document.readUnwanted "map[string]string" node
        return if node.IsNull then [] else table

------------------------------------------------------------
-- Fields
------------------------------------------------------------

/- The keys of a configuration. -/
def fieldNames : List String :=
  ["attributeRenames", "maxDepth", "selfCloseEmptyElements",
    "eventModifier"]

/- Set a field. Other keys have no effect. -/
def readField
    (trail : Trail)
    (c : Config)
    (key : String)
    (node : Document.Node) : Reading Config := do
  if key = "attributeRenames" then
    let table ← readRenames c.attributeRenames trail node
    return { c with attributeRenames := table }
  else if key = "maxDepth" then
    let value ← Document.readInteger trail node
    return { c with maxDepth := value.getD c.maxDepth }
  else if key = "selfCloseEmptyElements" then
    let value ← Document.readBoolean trail node
    return { c with
      selfCloseEmptyElements :=
        value.getD c.selfCloseEmptyElements }
  else if key = "eventModifier" then
    let value ← Document.readText trail node
    return { c with eventModifier := value.getD c.eventModifier }
  else
    return c

/- The type that mismatches of a whole document mention. -/
def typeName : String := "config.TransformConfig"

/-
  Set the fields of a configuration, in order. The fields in
  `done` have been set before.
-/
def readFields
    (trail : Trail)
    (c : Config)
    (done : List String) :
    List Entry → Reading Config
  | [] => return c
  | e :: rest => do
      match ← Document.readText trail e.key with
      | none => readFields trail c done rest
      | some key =>
          if key ∈ done ∧ key ∈ fieldNames then
            Reading.mismatch
              (.fieldSet e.key.line key typeName)
            readFields trail c done rest
          else
            let c ← readField trail c key e.value
            readFields trail c (key :: done) rest

------------------------------------------------------------
-- Documents
------------------------------------------------------------

/- The configuration of a node, over the defaults. -/
def readConfig :
    Trail → Document.Node → Reading Config :=
  Document.readTarget fun trail node => do
    match node with
    | .mapping entries _ =>
        match Document.repeatedKeys entries with
        | [] => readFields trail default [] entries
        | repeated =>
            Reading.mismatchAll repeated
            return default
    | _ =>
        Document.readUnwanted typeName node
        return default

/-
  The configuration of a document, over the defaults. The
  document counts as a node above its root.
-/
def ofDocument
    (root : Document.Node) : Except ReadFailure Config :=
  Reading.outcome do
    Reading.visit false
    readConfig [] root

/- The valid configuration that a text holds. -/
def parse (text : String) : Except ParseError Config := do
  match Document.ofText text with
  | .error e => .error (.unreadable e)
  | .ok none => default.validate.mapError .invalid
  | .ok (some root) =>
      let c ← (ofDocument root).mapError .misread
      c.validate.mapError .invalid

end Config

end TemplateJsx
