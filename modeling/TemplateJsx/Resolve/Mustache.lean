import TemplateJsx.Resolve.Expression

/-
  This file resolves mustaches, and the values that stand in
  opening tags: interpolated texts, attributes and event
  handlers. None of these contains statements.

  Key definitions include:
    * `Resolve.mustache`
    * `Resolve.partValue`
    * `Resolve.concat`
    * `Resolve.attributeOf`
-/

------------------------------------------------------------
-- Mustaches
------------------------------------------------------------

namespace TemplateJsx

namespace Resolve

/-
  Resolve what stands in braces, at the depth inside them. A
  callee without positional arguments is a value of its own,
  and its named arguments are not looked at.
-/
def mustache
    (config : Config)
    (depth : Nat)
    (m : Template.Mustache) : Outcome Jsx.Expr :=
  match m.invocation.params with
  | [] => expression config depth m.invocation.callee
  | _ => helperCall config depth m.invocation

------------------------------------------------------------
-- Interpolated Texts
------------------------------------------------------------

/- Resolve a part of an interpolated text to its value. -/
def partValue
    (config : Config)
    (depth : Nat)
    (part : Template.TextPart) : Outcome Jsx.Expr := do
  enter config depth (.statement part.toStatement)
  match part with
  | .absent => fail .unexpectedStatementKind (.statement .absent)
  | .text run => return .string run.chars
  | .mustache m => mustache config (depth + 1) m

/- Resolve the parts that follow, adding them up on the left. -/
def sumFrom
    (config : Config)
    (depth : Nat)
    (sum : Jsx.Expr) :
    List Template.TextPart → Outcome Jsx.Expr
  | [] => return sum
  | part :: rest => do
      let next ← partValue config depth part
      sumFrom config depth (.binary .add sum next) rest

/-
  Resolve an interpolated text to the sum of its parts, as
  in `(a + b) + c`. Without parts it is the empty text.
-/
def concat
    (config : Config)
    (depth : Nat) :
    List Template.TextPart → Outcome Jsx.Expr
  | [] => return .string ""
  | part :: rest => do
      let first ← partValue config depth part
      sumFrom config depth first rest

------------------------------------------------------------
-- Attributes
------------------------------------------------------------

/- The attribute that passes on the caller's attributes. -/
def splattributes : String := "...attributes"

/- The name of the attributes that a caller passes. -/
def attributesName : String := "attributes"

/-
  Resolve an attribute. A missing value and an empty text
  both leave the name alone.
-/
def attributeOf
    (config : Config)
    (depth : Nat)
    (a : Template.Attribute) : Outcome Jsx.Attribute :=
  if a.name = splattributes then
    return .spread (.identifier attributesName)
  else
    let name := config.rename a.name
    match a.value with
    | .absent => return .bare name
    | .text run =>
        if run.chars = "" then
          return .bare name
        else
          return .text name run.chars
    | .mustache m => do
        enter config depth (.statement (.mustache m))
        let value ← mustache config (depth + 1) m
        return .container name value
    | .concat c => do
        let value ← concat config depth c.parts
        return .container name value

end Resolve

end TemplateJsx
