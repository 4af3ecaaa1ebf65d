import TemplateJsx.Jsx.MarkupText
import TemplateJsx.Resolve.Modifier
import TemplateJsx.Resolve.Mustache

/-
  This file defines the replaceable rules of the resolver: the
  rules for elements, fragments, blocks and comments, each
  of which may be replaced.

  A rule is given the node and the resolved statements below
  it. These are given as functions, because a rule decides
  whether and in which order they are resolved.

  Key definitions include:
    * `Resolve.ElementRule`
    * `Resolve.FragmentRule`
    * `Resolve.BlockRule`
    * `Resolve.CommentRule`
    * `Resolve.Rules`
    * `Resolve.tagName`
    * `Resolve.elementChildren`
    * `Resolve.standardElement`
    * `Resolve.standardFragment`
    * `Resolve.standardBlock`
    * `Resolve.standardComment`
    * `Resolve.Rules.standard`
-/

------------------------------------------------------------
-- Rules
------------------------------------------------------------

namespace TemplateJsx

namespace Resolve

/-
  A rule for elements. It is given the element's statements
  as children and as one expression.
-/
abbrev ElementRule :=
  Config → Nat → Template.Element →
    (children : Unit → Outcome (List Jsx.Child)) →
    (body : Unit → Outcome Jsx.Expr) →
    Outcome Jsx.Markup

/- A rule for children that do not form one expression. -/
abbrev FragmentRule :=
  List Jsx.Child → Outcome Jsx.Expr

/- A rule for blocks. It is given the two bodies. -/
abbrev BlockRule :=
  Config → Nat → Template.BlockStatement →
    (program : Unit → Outcome Jsx.Expr) →
    (inverse : Unit → Outcome Jsx.Expr) →
    Outcome Jsx.Expr

/- A rule for statements that are comments. -/
abbrev CommentRule :=
  Template.Statement → Outcome Jsx.Child

/- The replaceable rules of the resolver. -/
structure Rules where
  element : ElementRule
  fragment : FragmentRule
  block : BlockRule
  comment : CommentRule

------------------------------------------------------------
-- Elements
------------------------------------------------------------

/- The characters of a tag with single dots for `::`. -/
def dotted : List Char → List Char
  | ':' :: ':' :: rest => '.' :: dotted rest
  | c :: rest => c :: dotted rest
  | [] => []

/- The name of a tag: `Menu::Item` and `Menu.Item` agree. -/
def tagName (tag : String) : Jsx.TagName :=
  match Text.splitAt '.' (String.ofList (dotted tag.toList)) with
  | [] => .identifier ""
  | head :: tail => tail.foldl .member (.identifier head)

/-
  The children of an element. One that binds names has a
  single child, a function of these names.
-/
def elementChildren
    (params : List String)
    (children : Unit → Outcome (List Jsx.Child))
    (body : Unit → Outcome Jsx.Expr) :
    Outcome (List Jsx.Child) :=
  match params with
  | [] => children ()
  | _ => do
      let result ← body ()
      return [.container (.arrow params result)]

/-
  The standard rule for elements. Attributes come first,
  then event handlers, then children.
-/
def standardElement : ElementRule :=
  fun config depth el children body => do
    let attributes ← el.attributes.mapM (attributeOf config depth)
    let events ← el.modifiers.mapM (modifier config depth)
    let kids ← elementChildren el.blockParams children body
    let selfClosing :=
      kids.isEmpty
        && (el.selfClosing || config.selfCloseEmptyElements)
    return .element (tagName el.tag) (attributes ++ events)
      kids selfClosing

------------------------------------------------------------
-- Fragments and Comments
------------------------------------------------------------

/- The standard rule for fragments. -/
def standardFragment : FragmentRule :=
  fun children => return .markup (.fragment children)

/- The standard rule for comments: an empty expression. -/
def standardComment : CommentRule
  | .comment c => return .container (.empty c.value)
  | .mustacheComment c => return .container (.empty c.value)
  | s => fail .unexpectedStatementKind (.statement s)

------------------------------------------------------------
-- Blocks
------------------------------------------------------------

/-
  The blocks with a meaning of their own, and all others.
-/
inductive BlockForm where
  | ifBlock
  | unlessBlock
  | eachBlock
  | letBlock
  | custom
  deriving DecidableEq, Repr

/-
  The form of a block, by the name it calls. The names of
  arguments and of longer paths are never built in.
-/
def blockForm (b : Template.BlockStatement) : BlockForm :=
  match b.invocation.callee with
  | .path ⟨_, head, [], _⟩ =>
      if head = "if" then .ifBlock
      else if head = "unless" then .unlessBlock
      else if head = "each" then .eachBlock
      else if head = "let" ∨ head = "with" then .letBlock
      else .custom
  | _ => .custom

/- Refuse a block whose arguments do not fit its form. -/
def malformed
    {α : Type}
    (b : Template.BlockStatement) : Outcome α :=
  failShowing .malformedBlock (.statement (.block b))

/- The value of the `else` body, `null` if there is none. -/
def inverseOrNull
    (b : Template.BlockStatement)
    (inverse : Unit → Outcome Jsx.Expr) : Outcome Jsx.Expr :=
  if b.inverse.IsPresent then inverse () else return .null

/-
  `if` and `unless` choose between the bodies by the test;
  `unless` exchanges them.
-/
def conditionalBlock
    (config : Config)
    (depth : Nat)
    (negate : Bool)
    (b : Template.BlockStatement)
    (program inverse : Unit → Outcome Jsx.Expr) :
    Outcome Jsx.Expr :=
  match b.invocation.params with
  | [param] => do
      let test ← expression config depth param
      let consequent ← program ()
      let alternate ← inverseOrNull b inverse
      if negate then
        return .conditional test alternate consequent
      else
        return .conditional test consequent alternate
  | _ => malformed b

/-
  `each` maps the list by a function of the bound names. The
  `else` body stands for the empty list.
-/
def eachBlock
    (config : Config)
    (depth : Nat)
    (b : Template.BlockStatement)
    (program inverse : Unit → Outcome Jsx.Expr) :
    Outcome Jsx.Expr :=
  match b.invocation.params with
  | [param] => do
      let list ← expression config depth param
      let body ← program ()
      let mapped : Jsx.Expr :=
        .call (list.append "map")
          [.arrow b.program.blockParams body]
      if b.inverse.IsPresent then
        let empty ← inverse ()
        return .conditional (list.append "length") mapped empty
      else
        return mapped
  | _ => malformed b

/- `let` calls a function of the bound names. -/
def letBlock
    (config : Config)
    (depth : Nat)
    (b : Template.BlockStatement)
    (program : Unit → Outcome Jsx.Expr) :
    Outcome Jsx.Expr :=
  if b.invocation.params.isEmpty ∨ b.inverse.IsPresent then
    malformed b
  else do
    let arguments ← expressions config depth b.invocation.params
    let body ← program ()
    return .call (.arrow b.program.blockParams body) arguments

/- A body as a function, if the block has that body. -/
def bodyFunction
    (block : Template.Block)
    (body : Unit → Outcome Jsx.Expr) :
    Outcome (List Jsx.Expr) :=
  if block.IsPresent then do
    let result ← body ()
    return [.arrow block.blockParams result]
  else
    return []

/- Any other block is a call that is also passed the bodies. -/
def customBlock
    (config : Config)
    (depth : Nat)
    (b : Template.BlockStatement)
    (program inverse : Unit → Outcome Jsx.Expr) :
    Outcome Jsx.Expr := do
  let positional ← expressions config depth b.invocation.params
  let named ← namedArguments config depth b.invocation.hash.pairs
  let first ← bodyFunction b.program program
  let second ← bodyFunction b.inverse inverse
  return .call (callee b.invocation.callee)
    (positional ++ [hashObject named] ++ first ++ second)

/- The standard rule for blocks. -/
def standardBlock : BlockRule :=
  fun config depth b program inverse =>
    match blockForm b with
    | .ifBlock =>
        conditionalBlock config depth false b program inverse
    | .unlessBlock =>
        conditionalBlock config depth true b program inverse
    | .eachBlock => eachBlock config depth b program inverse
    | .letBlock => letBlock config depth b program
    | .custom => customBlock config depth b program inverse

------------------------------------------------------------
-- The Standard Rules
------------------------------------------------------------

/- The standard rules. -/
def Rules.standard : Rules where
  element := standardElement
  fragment := standardFragment
  block := standardBlock
  comment := standardComment

/- Rules that all fail with the same message. -/
def Rules.failing (text : String) : Rules where
  element := fun _ _ _ _ _ => .error (.rule text)
  fragment := fun _ => .error (.rule text)
  block := fun _ _ _ _ _ => .error (.rule text)
  comment := fun _ => .error (.rule text)

end Resolve

end TemplateJsx
