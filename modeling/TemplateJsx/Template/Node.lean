import TemplateJsx.Template.Basic

/-
  This file gathers all nodes of a template tree in one type
  and defines the name of a node's kind and its span, which
  diagnostics report.

  Key definitions include:
    * `Template.Node`
    * `Template.Node.kind`
    * `Template.Node.span`
    * `Template.Node.invocation?`
-/

------------------------------------------------------------
-- Kinds and Spans by Type
------------------------------------------------------------

namespace TemplateJsx

namespace Template

/- The name of the kind of an absent node. -/
def absentKind : String := "<nil>"

/- The name of an expression's kind. -/
def Expr.kind : Expr → String
  | .absent => absentKind
  | .boolean _ _ => "BooleanLiteral"
  | .null _ => "NullLiteral"
  | .undefined _ => "UndefinedLiteral"
  | .number _ _ => "NumberLiteral"
  | .string _ _ => "StringLiteral"
  | .path _ => "PathExpression"
  | .call _ _ => "SubExpression"

/- Where an expression was read from. -/
def Expr.span : Expr → Option Span
  | .absent => none
  | .boolean _ span => span
  | .null span => span
  | .undefined span => span
  | .number _ span => span
  | .string _ span => span
  | .path p => p.span
  | .call _ span => span

/- The name of a statement's kind. -/
def Statement.kind : Statement → String
  | .absent => absentKind
  | .element _ => "ElementNode"
  | .text _ => "TextNode"
  | .mustache _ => "MustacheStatement"
  | .block _ => "BlockStatement"
  | .modifier _ => "ElementModifierStatement"
  | .comment _ => "CommentStatement"
  | .mustacheComment _ => "MustacheCommentStatement"
  | .concat _ => "ConcatStatement"

/- Where a statement was read from. -/
def Statement.span : Statement → Option Span
  | .absent => none
  | .element e => e.span
  | .text t => t.span
  | .mustache m => m.span
  | .block b => b.span
  | .modifier m => m.span
  | .comment c => c.span
  | .mustacheComment c => c.span
  | .concat c => c.span

/- The name of a block's kind. -/
def Block.kind : Block → String
  | .absent => absentKind
  | .present _ _ _ _ => "Block"

/- Where a block was read from. -/
def Block.span : Block → Option Span
  | .absent => none
  | .present _ _ _ span => span

------------------------------------------------------------
-- Nodes of Every Type
------------------------------------------------------------

/- A node of a template tree. -/
inductive Node where
  | template (template : Template)
  | block (block : Block)
  | statement (statement : Statement)
  | attr (a : Attribute)
  | expr (expr : Expr)
  | hash (hash : Hash)
  | pair (pair : Pair)
  deriving Repr

namespace Node

/- The name of a node's kind. -/
def kind : Node → String
  | .template _ => "Template"
  | .block b => b.kind
  | .statement s => s.kind
  | .attr _ => "AttrNode"
  | .expr e => e.kind
  | .hash _ => "Hash"
  | .pair _ => "HashPair"

/- Where a node was read from. -/
def span : Node → Option Span
  | .template t => t.span
  | .block b => b.span
  | .statement s => s.span
  | .attr a => a.span
  | .expr e => e.span
  | .hash h => h.span
  | .pair p => p.span

/- The invocation of a node that calls something. -/
def invocation? : Node → Option Invocation
  | .statement (.mustache m) => some m.invocation
  | .statement (.block b) => some b.invocation
  | .statement (.modifier m) => some m.invocation
  | .expr (.call i _) => some i
  | _ => none

end Node

end Template

end TemplateJsx
