import TemplateJsx.Resolve.Dialogue

/-
  This file defines the resolver that rules speak to. It
  answers requests one after the other and keeps count of
  how deep it is. The count goes up on entering a statement
  or an expression and down on leaving it, whatever was found
  inside.

  Rules may ask for anything, also for the node they were
  asked about. A resolver therefore has room for a number of
  requests inside one another, and gives no answer once that
  room is used up.

  Key definitions include:
    * `Resolve.Counting`
    * `Resolve.within`
    * `Resolve.Resolver`
    * `Resolve.Dialogue.run`
    * `Resolve.Resolver.answer`
    * `Resolve.resolver`
    * `Resolve.Resolver.converse`
-/

------------------------------------------------------------
-- Counting
------------------------------------------------------------

namespace TemplateJsx

namespace Resolve

/-
  What is found out while the depth is counted. There is
  nothing to be found without room.
-/
abbrev Counting (α : Type) :=
  ExceptT Error (StateT Int Option) α

variable {α : Type}

/- An outcome that does not touch the count. -/
def settled
    (outcome : Outcome α) : Counting α :=
  ExceptT.mk (pure outcome)

/- Go one level down, unless the node lies too deep. -/
def descend
    (config : Config)
    (node : Template.Node) : Counting Unit := do
  let depth : Int ← get
  if 0 < config.maxDepth ∧ config.maxDepth ≤ depth then
    settled (fail .maxDepthExceeded node)
  else
    set (depth + 1)

/- Go one level up. -/
def ascend : StateT Int Option Unit :=
  modify (· - 1)

/-
  Do something inside a node. The level is left again when
  it was entered, also after a refusal further in.
-/
def within
    (config : Config)
    (node : Template.Node)
    (body : Counting α) : Counting α := do
  descend config node
  ExceptT.mk do
    let outcome ← body.run
    ascend
    return outcome

------------------------------------------------------------
-- Resolvers
------------------------------------------------------------

/- What answers requests. -/
abbrev Resolver :=
  (request : Request) → Counting request.Answer

/- Hold a dialogue with a resolver. -/
def Dialogue.run
    (self : Resolver) : Dialogue α → StateT Int Option α
  | .done result => pure result
  | .ask request next => do
      let answer ← (self request).run
      (next answer).run self

/- Follow a rule that speaks to a resolver. -/
def Consultation.run
    (self : Resolver)
    (rule : Consultation α) : Counting α :=
  ExceptT.mk (Dialogue.run self (ExceptT.run rule))

namespace Resolver

/- The value of what stands in braces. -/
def mustache
    (self : Resolver)
    (m : Template.Mustache) : Counting Jsx.Expr :=
  match m.invocation.params with
  | [] => self (.expression m.invocation.callee)
  | _ => self (.helperCall (.statement (.mustache m)))

/- The value of a statement. -/
def statement
    (self : Resolver)
    (config : Config)
    (rules : Collaborators)
    (s : Template.Statement) : Counting Jsx.Expr :=
  within config (.statement s) <|
    match s with
    | .element e => do
        let markup ← (rules.element config e).run self
        return .markup markup
    | .text run => return .string run.chars
    | .mustache m => self.mustache m
    | .block b => (rules.block config b).run self
    | .comment _ =>
        settled (fail .unsupportedTopLevelConstruct (.statement s))
    | .mustacheComment _ =>
        settled (fail .unsupportedTopLevelConstruct (.statement s))
    | _ => settled (fail .unexpectedStatementKind (.statement s))

/-
  A statement as children. What stands in a container is
  counted by its value and not a second time.
-/
def child
    (self : Resolver)
    (config : Config)
    (rules : Collaborators)
    (s : Template.Statement) : Counting (List Jsx.Child) :=
  match s with
  | .element e =>
      within config (.statement s) do
        let markup ← (rules.element config e).run self
        return [.markup markup]
  | .text run =>
      within config (.statement s) <|
        return Jsx.textChildren run.chars
  | .comment _ =>
      within config (.statement s) do
        let child ← (rules.comment config s).run self
        return [child]
  | .mustacheComment _ =>
      within config (.statement s) do
        let child ← (rules.comment config s).run self
        return [child]
  | _ => do
      let result ← self (.statement s)
      return [.container result]

/- Statements as children, in order. -/
def children
    (self : Resolver)
    (body : List Template.Statement) :
    Counting (List Jsx.Child) := do
  let parts ← body.mapM (self <| .child ·)
  return parts.flatten

/-
  Statements as one expression: a single statement by its
  value, any others as a fragment of their children.
-/
def root
    (self : Resolver)
    (config : Config)
    (rules : Collaborators) :
    List Template.Statement → Counting Jsx.Expr
  | [s] => self (.statement s)
  | body => do
      let parts ← self (.children body)
      (rules.fragment config parts).run self

/- An interpolated text as the sum of its parts. -/
def concat
    (self : Resolver) :
    List Template.TextPart → Counting Jsx.Expr
  | [] => return .string ""
  | part :: rest => do
      let first ← self (.statement part.toStatement)
      rest.foldlM
        (fun sum next => do
          let value ← self (.statement next.toStatement)
          return .binary .add sum value)
        first

/- The value of an expression. -/
def expression
    (self : Resolver)
    (config : Config)
    (e : Template.Expr) : Counting Jsx.Expr :=
  within config (.expr e) <|
    match e with
    | .call _ _ => self (.helperCall (.expr e))
    | .path p =>
        match path p with
        | .ok members => return members
        | .error kind => settled (failShowing kind (.expr e))
    | .boolean value _ => return .boolean value
    | .null _ => return .null
    | .number value _ => return .number value
    | .string value _ => return .string value
    | .undefined _ => return .identifier undefinedName
    | .absent =>
        settled (failShowing .unexpectedExpressionKind (.expr e))

/- An invocation as a call. -/
def helperCall
    (self : Resolver)
    (node : Template.Node) : Counting Jsx.Expr :=
  match node.invocation? with
  | none =>
      settled (failShowing .unexpectedExpressionKind node)
  | some i => do
      let positional ← i.params.mapM (self <| .expression ·)
      let named ← i.hash.pairs.mapM fun pair => do
        let value ← self (.expression pair.value)
        return Jsx.Property.mk pair.key value
      return .call (callee i.callee)
        (positional ++ [hashObject named])

/-
  Answer a request. Whatever has to be asked on the way is
  asked of `self`.
-/
def answer
    (self : Resolver)
    (config : Config)
    (rules : Collaborators) : Resolver
  | .statement s => self.statement config rules s
  | .child s => self.child config rules s
  | .children body => self.children body
  | .root body => self.root config rules body
  | .concat parts => self.concat parts
  | .expression e => self.expression config e
  | .helperCall node => self.helperCall node

end Resolver

/-
  The resolver with room for so many requests inside one
  another.
-/
def resolver
    (config : Config)
    (rules : Collaborators) : Nat → Resolver
  | 0 => fun _ => ExceptT.mk fun _ => none
  | room + 1 =>
      (resolver config rules room).answer config rules

------------------------------------------------------------
-- Conversations
------------------------------------------------------------

/- A request with the outcome it had. -/
structure Reply where
  request : Request
  outcome : Outcome request.Answer

/-
  Put requests to one resolver, one after the other. A
  refusal does not stop those that follow.
-/
def Resolver.converse
    (self : Resolver) :
    List Request → StateT Int Option (List Reply)
  | [] => return []
  | request :: rest => do
      let outcome ← (self request).run
      let replies ← converse self rest
      return ⟨request, outcome⟩ :: replies

end Resolve

end TemplateJsx
