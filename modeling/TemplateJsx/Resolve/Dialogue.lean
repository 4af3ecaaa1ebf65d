import TemplateJsx.Resolve.Rules

/-
  This file defines rules that speak to a resolver. Such a
  rule sees nothing of the resolver but the answers to its
  requests. It may go on after a refusal, and what it asks
  next may depend on all answers so far.

  Key definitions include:
    * `Resolve.Request`
    * `Resolve.Dialogue`
    * `Resolve.Consultation`
    * `Resolve.Collaborators`
    * `Resolve.consultElement`
    * `Resolve.consultBlock`
    * `Resolve.Collaborators.standard`
-/

------------------------------------------------------------
-- Requests
------------------------------------------------------------

namespace TemplateJsx

namespace Resolve

/- What may be asked of a resolver. -/
inductive Request where
  | statement (s : Template.Statement)
  | child (s : Template.Statement)
  | children (body : List Template.Statement)
  | root (body : List Template.Statement)
  | concat (parts : List Template.TextPart)
  | expression (e : Template.Expr)
  | helperCall (node : Template.Node)

/- What a request is answered with, if it is not refused. -/
abbrev Request.Answer : Request → Type
  | .child _ => List Jsx.Child
  | .children _ => List Jsx.Child
  | _ => Jsx.Expr

------------------------------------------------------------
-- Dialogues
------------------------------------------------------------

/- Requests one after the other, and what comes of them. -/
inductive Dialogue (α : Type) where
  | done (result : α)
  | ask
      (request : Request)
      (next : Outcome request.Answer → Dialogue α)

namespace Dialogue

variable {α β : Type}

/- Go on with the result of a dialogue. -/
def bind :
    Dialogue α → (α → Dialogue β) → Dialogue β
  | .done result, follow => follow result
  | .ask request next, follow =>
      .ask request fun answer => (next answer).bind follow

instance : Monad Dialogue where
  pure := .done
  bind := .bind

end Dialogue

/- A dialogue that ends with the first refusal. -/
abbrev Consultation (α : Type) :=
  ExceptT Error Dialogue α

/- Put one request. -/
def consult
    (request : Request) : Consultation request.Answer :=
  ExceptT.mk (.ask request .done)

/- End with an outcome that is known without asking. -/
def conclude
    {α : Type}
    (outcome : Outcome α) : Consultation α :=
  ExceptT.mk (.done outcome)

/-
  The rules for elements, fragments, blocks and comments, as
  far as they act through the resolver alone.
-/
structure Collaborators where
  element : Config → Template.Element → Consultation Jsx.Markup
  fragment : Config → List Jsx.Child → Consultation Jsx.Expr
  block :
    Config → Template.BlockStatement → Consultation Jsx.Expr
  comment :
    Config → Template.Statement → Consultation Jsx.Child

------------------------------------------------------------
-- Elements
------------------------------------------------------------

/- Ask for the value of an attribute. -/
def consultAttribute
    (config : Config)
    (a : Template.Attribute) : Consultation Jsx.Attribute :=
  if a.name = splattributes then
    return .spread (.identifier attributesName)
  else
    let name := config.rename a.name
    match a.value with
    | .absent => return .bare name
    | .text run =>
        if run.chars = "" then
          return .bare name
        else
          return .text name run.chars
    | .mustache m => do
        let value ← consult (.statement (.mustache m))
        return .container name value
    | .concat c => do
        let value ← consult (.concat c.parts)
        return .container name value

/- Ask for the handler of an event. -/
def consultModifier
    (config : Config)
    (m : Template.Modifier) : Consultation Jsx.Attribute :=
  match eventHandler? config m.invocation with
  | none =>
      conclude
        (failShowing .unsupportedModifier
          (.statement (.modifier m)))
  | some (event, handler) => do
      let value ← consult (.expression handler)
      return .container (handlerName event) value

/- Ask for the children of an element. -/
def consultChildren
    (params : List String)
    (body : List Template.Statement) :
    Consultation (List Jsx.Child) :=
  match params with
  | [] => consult (.children body)
  | _ => do
      let result ← consult (.root body)
      return [.container (.arrow params result)]

/- The standard rule for elements. -/
def consultElement
    (config : Config)
    (el : Template.Element) : Consultation Jsx.Markup := do
  let attributes ← el.attributes.mapM (consultAttribute config)
  let events ← el.modifiers.mapM (consultModifier config)
  let kids ← consultChildren el.blockParams el.children
  let selfClosing :=
    kids.isEmpty
      && (el.selfClosing || config.selfCloseEmptyElements)
  return .element (tagName el.tag) (attributes ++ events)
    kids selfClosing

------------------------------------------------------------
-- Blocks
------------------------------------------------------------

/- Ask for the `else` body, which is `null` if there is none. -/
def consultInverse
    (b : Template.BlockStatement) : Consultation Jsx.Expr :=
  if b.inverse.IsPresent then
    consult (.root b.inverse.body)
  else
    return .null

/- Ask for the test and both bodies of a condition. -/
def consultConditional
    (negate : Bool)
    (b : Template.BlockStatement) : Consultation Jsx.Expr :=
  match b.invocation.params with
  | [param] => do
      let test ← consult (.expression param)
      let consequent ← consult (.root b.program.body)
      let alternate ← consultInverse b
      if negate then
        return .conditional test alternate consequent
      else
        return .conditional test consequent alternate
  | _ => conclude (malformed b)

/- Ask for the list and the bodies of a loop. -/
def consultEach
    (b : Template.BlockStatement) : Consultation Jsx.Expr :=
  match b.invocation.params with
  | [param] => do
      let list ← consult (.expression param)
      let body ← consult (.root b.program.body)
      let mapped : Jsx.Expr :=
        .call (list.append "map")
          [.arrow b.program.blockParams body]
      if b.inverse.IsPresent then
        let empty ← consult (.root b.inverse.body)
        return .conditional (list.append "length") mapped empty
      else
        return mapped
  | _ => conclude (malformed b)

/- Ask for the arguments and the body of a `let`. -/
def consultLet
    (b : Template.BlockStatement) : Consultation Jsx.Expr :=
  if b.invocation.params.isEmpty ∨ b.inverse.IsPresent then
    conclude (malformed b)
  else do
    let arguments ←
      b.invocation.params.mapM (consult <| .expression ·)
    let body ← consult (.root b.program.body)
    return .call (.arrow b.program.blockParams body) arguments

/- Ask for a body as a function, if the block has it. -/
def consultFunction
    (block : Template.Block) : Consultation (List Jsx.Expr) :=
  if block.IsPresent then do
    let result ← consult (.root block.body)
    return [.arrow block.blockParams result]
  else
    return []

/- A call that is passed more arguments. -/
def passing
    (more : List Jsx.Expr) : Jsx.Expr → Jsx.Expr
  | .call target arguments => .call target (arguments ++ more)
  | e => e

/- Ask for any other block as a call, and for its bodies. -/
def consultCustom
    (b : Template.BlockStatement) :
    Consultation Jsx.Expr := do
  let call ← consult (.helperCall (.statement (.block b)))
  let first ← consultFunction b.program
  let second ← consultFunction b.inverse
  return passing (first ++ second) call

/- The standard rule for blocks. -/
def consultBlock
    (b : Template.BlockStatement) : Consultation Jsx.Expr :=
  match blockForm b with
  | .ifBlock => consultConditional false b
  | .unlessBlock => consultConditional true b
  | .eachBlock => consultEach b
  | .letBlock => consultLet b
  | .custom => consultCustom b

/- The standard rules. -/
def Collaborators.standard : Collaborators where
  element := consultElement
  fragment := fun _ children => conclude (standardFragment children)
  block := fun _ b => consultBlock b
  comment := fun _ s => conclude (standardComment s)

end Resolve

end TemplateJsx
