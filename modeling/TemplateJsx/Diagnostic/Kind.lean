/-
  This file defines the kinds of failure of the compiler and
  the phrase by which each is announced.

  Key definitions include:
    * `ErrorKind`
    * `ErrorKind.phrase`
-/

------------------------------------------------------------
-- Kinds of Failure
------------------------------------------------------------

namespace TemplateJsx

/- The kinds of failure of the compiler. -/
inductive ErrorKind where
  | unsupportedTopLevelConstruct
  | unexpectedStatementKind
  | unexpectedExpressionKind
  | emptyPathSegments
  | notAPath
  | maxDepthExceeded
  | unsupportedModifier
  | malformedBlock
  | malformedTree
  | unknownNodeType
  | invalidConfig
  | duplicateComponent
  deriving DecidableEq, Repr

namespace ErrorKind

/- The phrase that opens the message of a failure. -/
def phrase : ErrorKind → String
  | .unsupportedTopLevelConstruct =>
      "unsupported top-level construct"
  | .unexpectedStatementKind => "unexpected statement kind"
  | .unexpectedExpressionKind => "unexpected expression kind"
  | .emptyPathSegments => "path has no segments"
  | .notAPath => "expression is not a member path"
  | .maxDepthExceeded => "maximum nesting depth exceeded"
  | .unsupportedModifier => "unsupported element modifier"
  | .malformedBlock => "malformed block"
  | .malformedTree => "malformed template tree"
  | .unknownNodeType => "unknown node type"
  | .invalidConfig => "invalid transform config"
  | .duplicateComponent => "duplicate component name"

end ErrorKind

end TemplateJsx
