import TemplateJsx.Diagnostic.Kind
import TemplateJsx.Template.Source
import TemplateJsx.Text.Quoted

/-
  This file defines the failures of the resolver. A failure
  names the node at fault by its kind and its span, and some
  failures show the node in template syntax.

  Key definitions include:
    * `Resolve.Failure`
    * `Resolve.Failure.message`
    * `Resolve.Failure.ofNode`
    * `Resolve.Failure.showing`
    * `Resolve.Error`
    * `Resolve.Outcome`
-/

------------------------------------------------------------
-- Failures at a Node
------------------------------------------------------------

namespace TemplateJsx

namespace Resolve

/- A failure with the node that caused it. -/
structure Failure where
  kind : ErrorKind
  node : String
  snapshot : String
  span : Option Span
  deriving DecidableEq, Repr

namespace Failure

/-
  The wording of a failure. What is not known of the node is
  left out.
-/
def message (f : Failure) : String :=
  f.kind.phrase
    ++ (if f.node = "" then "" else ": " ++ f.node)
    ++ (if f.snapshot = "" then
        ""
      else
        " " ++ Text.quoted f.snapshot)
    ++ (match f.span.bind Span.start with
      | none => ""
      | some start => " at " ++ start.print)

/- A failure at a node. -/
def ofNode
    (kind : ErrorKind)
    (node : Template.Node) : Failure :=
  ⟨kind, node.kind, "", node.span⟩

/- A failure at a node that is shown in template syntax. -/
def showing
    (kind : ErrorKind)
    (node : Template.Node) : Failure :=
  ⟨kind, node.kind, node.source, node.span⟩

end Failure

------------------------------------------------------------
-- Errors
------------------------------------------------------------

/-
  Why no tree was made: a failure at a node, or a message
  from a rule that replaces a standard one.
-/
inductive Error where
  | failure (failure : Failure)
  | rule (text : String)
  deriving DecidableEq, Repr

/- The wording of an error. -/
def Error.message : Error → String
  | .failure f => f.message
  | .rule text => text

/- The result of resolving. -/
abbrev Outcome (α : Type) :=
  Except Error α

/- Fail at a node. -/
def fail
    {α : Type}
    (kind : ErrorKind)
    (node : Template.Node) : Outcome α :=
  .error (.failure (.ofNode kind node))

/- Fail at a node and show it. -/
def failShowing
    {α : Type}
    (kind : ErrorKind)
    (node : Template.Node) : Outcome α :=
  .error (.failure (.showing kind node))

end Resolve

end TemplateJsx
