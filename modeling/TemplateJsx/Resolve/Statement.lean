import TemplateJsx.Resolve.Rules

/-
  This file resolves statements. In a place for one value a
  statement becomes an expression; among children it becomes
  children, and raw text may become several of them.

  Key definitions include:
    * `Resolve.Setup`
    * `Resolve.value`
    * `Resolve.markupChildren`
    * `Resolve.element`
    * `Resolve.block`
    * `Resolve.children`
    * `Resolve.root`
    * `Resolve.statement`
    * `Resolve.child`
    * `Resolve.Setup.resolve`
-/

------------------------------------------------------------
-- Statements
------------------------------------------------------------

namespace TemplateJsx

namespace Resolve

/- A configuration together with the rules to follow. -/
structure Setup where
  config : Config
  rules : Rules

/- The standard rules under a configuration. -/
def Setup.standard (config : Config) : Setup :=
  ⟨config, .standard⟩

mutual

/-
  The value of a statement, at the depth inside it. Comments
  have no value.
-/
def value
    (t : Setup)
    (depth : Nat) :
    Template.Statement → Outcome Jsx.Expr
  | .element e => do
      let markup ← element t depth e
      return .markup markup
  | .text run => return .string run.chars
  | .mustache m => mustache t.config depth m
  | .block b => block t depth b
  | .comment c =>
      fail .unsupportedTopLevelConstruct (.statement (.comment c))
  | .mustacheComment c =>
      fail .unsupportedTopLevelConstruct
        (.statement (.mustacheComment c))
  | .modifier m =>
      fail .unexpectedStatementKind (.statement (.modifier m))
  | .concat c =>
      fail .unexpectedStatementKind (.statement (.concat c))
  | .absent => fail .unexpectedStatementKind (.statement .absent)

/-
  A statement as children, at the depth inside it. What has
  no form of its own stands in a container by its value.
-/
def markupChildren
    (t : Setup)
    (depth : Nat) :
    Template.Statement → Outcome (List Jsx.Child)
  | .element e => do
      let markup ← element t depth e
      return [.markup markup]
  | .text run => return Jsx.textChildren run.chars
  | .mustache m => do
      let result ← mustache t.config depth m
      return [.container result]
  | .block b => do
      let result ← block t depth b
      return [.container result]
  | .comment c => do
      let child ← t.rules.comment (.comment c)
      return [child]
  | .mustacheComment c => do
      let child ← t.rules.comment (.mustacheComment c)
      return [child]
  | .modifier m =>
      fail .unexpectedStatementKind (.statement (.modifier m))
  | .concat c =>
      fail .unexpectedStatementKind (.statement (.concat c))
  | .absent => fail .unexpectedStatementKind (.statement .absent)

/- An element by the rule for elements. -/
def element
    (t : Setup)
    (depth : Nat) :
    Template.Element → Outcome Jsx.Markup
  | ⟨tag, selfClosing, params, attributes, modifiers, comments,
      body, span⟩ =>
    t.rules.element t.config depth
      ⟨tag, selfClosing, params, attributes, modifiers, comments,
        body, span⟩
      (fun _ => children t depth body)
      (fun _ => root t depth body)

/- A block by the rule for blocks. -/
def block
    (t : Setup)
    (depth : Nat) :
    Template.BlockStatement → Outcome Jsx.Expr
  | ⟨invocation, program, inverse, span⟩ =>
    t.rules.block t.config depth
      ⟨invocation, program, inverse, span⟩
      (fun _ => branch t depth program)
      (fun _ => branch t depth inverse)

/- The body of a block. A missing one has no statements. -/
def branch
    (t : Setup)
    (depth : Nat) :
    Template.Block → Outcome Jsx.Expr
  | .absent => t.rules.fragment []
  | .present body _ _ _ => root t depth body

/- Statements as children, in order. -/
def children
    (t : Setup)
    (depth : Nat) :
    List Template.Statement → Outcome (List Jsx.Child)
  | [] => return []
  | s :: rest => do
      enter t.config depth (.statement s)
      let first ← markupChildren t (depth + 1) s
      let others ← children t depth rest
      return first ++ others

/-
  Statements as one expression: a single statement by its
  value, any others as a fragment of their children.
-/
def root
    (t : Setup)
    (depth : Nat) :
    List Template.Statement → Outcome Jsx.Expr
  | [] => t.rules.fragment []
  | [s] => do
      enter t.config depth (.statement s)
      value t (depth + 1) s
  | s :: next :: rest => do
      enter t.config depth (.statement s)
      let first ← markupChildren t (depth + 1) s
      let others ← children t depth (next :: rest)
      t.rules.fragment (first ++ others)

end

------------------------------------------------------------
-- Single Statements and Whole Templates
------------------------------------------------------------

/- Resolve a statement to its value. -/
def statement
    (t : Setup)
    (depth : Nat)
    (s : Template.Statement) : Outcome Jsx.Expr := do
  enter t.config depth (.statement s)
  value t (depth + 1) s

/- Resolve a statement to children. -/
def child
    (t : Setup)
    (depth : Nat)
    (s : Template.Statement) : Outcome (List Jsx.Child) := do
  enter t.config depth (.statement s)
  markupChildren t (depth + 1) s

/-
  Resolve a template to one expression. A missing template
  is refused like a missing statement.
-/
def Setup.resolve
    (t : Setup)
    (template : Option Template) : Outcome Jsx.Expr :=
  match template with
  | none => fail .unexpectedStatementKind (.statement .absent)
  | some tree => root t 0 tree.body

end Resolve

end TemplateJsx
