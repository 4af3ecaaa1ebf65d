import TemplateJsx.Diagnostic.Kind
import TemplateJsx.Document.Reading

/-
  This file defines why a document holds no template.

  Key definitions include:
    * `Template.ReadError`
    * `Template.ReadError.kind?`
    * `Template.ReadError.message`
-/

------------------------------------------------------------
-- Errors
------------------------------------------------------------

namespace TemplateJsx

namespace Template

/- Why a document holds no template. -/
inductive ReadError where
  /- The text is no document. -/
  | unreadable (error : Document.SyntaxError)
  | emptyDocument
  | notMapping (line : Nat)
  | notStatements (line : Nat)
  | untyped (line : Nat)
  | unknownType (name : String) (line : Nat)
  | notRoot (kind : String)
  | notStatement (kind : String)
  | notExpression (kind : String)
  | notAttribute (kind : String)
  | notModifier (kind : String)
  | notAttributeValue (kind : String)
  | notTextPart (kind : String)
  | field (name : String) (failure : Document.ReadFailure)
  | notNumber (text : String)
  deriving DecidableEq, Repr

namespace ReadError

/- The kind of an error. An unreadable text has none. -/
def kind? : ReadError → Option ErrorKind
  | .unreadable _ => none
  | .unknownType _ _ => some .unknownNodeType
  | _ => some .malformedTree

/- What an error says after the phrase of its kind. -/
def detail : ReadError → String
  | .unreadable error => error.message
  | .emptyDocument => "empty document"
  | .notMapping line => "expected a mapping at line " ++ line.repr
  | .notStatements line =>
      "expected a sequence of statements at line " ++ line.repr
  | .untyped line =>
      "node at line " ++ line.repr ++ " has no type"
  | .unknownType name line =>
      Text.quoted name ++ " at line " ++ line.repr
  | .notRoot kind =>
      "root must be a Template or a statement, got " ++ kind
  | .notStatement kind => "expected a statement, got " ++ kind
  | .notExpression kind => "expected an expression, got " ++ kind
  | .notAttribute kind => "expected AttrNode, got " ++ kind
  | .notModifier kind =>
      "expected ElementModifierStatement, got " ++ kind
  | .notAttributeValue kind =>
      "attribute value cannot be " ++ kind
  | .notTextPart kind => "concat part cannot be " ++ kind
  | .field name failure =>
      "field " ++ Text.quoted name ++ ": " ++ failure.message
  | .notNumber text => "NumberLiteral value " ++ Text.quoted text

/- The wording of an error. -/
def message (e : ReadError) : String :=
  let opening :=
    match e.kind? with
    | none => "decode template tree"
    | some kind => kind.phrase
  opening ++ ": " ++ e.detail

end ReadError

end Template

end TemplateJsx
