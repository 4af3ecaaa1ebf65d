import TemplateJsx.Config.Basic
import TemplateJsx.Jsx.Path
import TemplateJsx.Resolve.Failure

/-
  This file resolves expressions. Literals become literals,
  paths become member paths, and invocations become calls
  that pass the named arguments in one trailing object:

    (f x key=y)   becomes   f(x, { hash: { key: y } })

  Key definitions include:
    * `Resolve.enter`
    * `Resolve.path`
    * `Resolve.callee`
    * `Resolve.expression`
    * `Resolve.helperCall`
    * `Resolve.helperCallOf`
-/

------------------------------------------------------------
-- Depth
------------------------------------------------------------

namespace TemplateJsx

namespace Resolve

/-
  Refuse a node that lies too deep. The depth is the number
  of statements and expressions around the node.
-/
def enter
    (config : Config)
    (depth : Nat)
    (node : Template.Node) : Outcome Unit :=
  if 0 < config.maxDepth ∧ config.maxDepth ≤ depth then
    fail .maxDepthExceeded node
  else
    .ok ()

------------------------------------------------------------
-- Paths
------------------------------------------------------------

/- The object that holds the arguments of a component. -/
def argumentsName : String := "args"

/- The name that stands for what is not defined. -/
def undefinedName : String := "undefined"

/-
  The member path of a path. An argument is a property of
  the object of arguments: `@name.x` becomes `args.name.x`.
-/
def path (p : Template.Path) : Except ErrorKind Jsx.Expr := do
  let members ← Jsx.Expr.ofSegments p.segments
  if p.IsArgument then
    Jsx.Expr.prepend argumentsName members
  else
    return members

/-
  What an invocation calls. A callee that is missing or is no
  path with a name becomes `undefined`.
-/
def callee : Template.Expr → Jsx.Expr
  | .path p =>
      match path p with
      | .ok members => members
      | .error _ => .identifier undefinedName
  | _ => .identifier undefinedName

------------------------------------------------------------
-- Expressions and Invocations
------------------------------------------------------------

/- The property that holds the named arguments. -/
def hashName : String := "hash"

/- The trailing object with the named arguments. -/
def hashObject (named : List Jsx.Property) : Jsx.Expr :=
  .object [.mk hashName (.object named)]

mutual

/- Resolve an expression. -/
def expression
    (config : Config)
    (depth : Nat)
    (e : Template.Expr) : Outcome Jsx.Expr := do
  enter config depth (.expr e)
  match e with
  | .call i _ => helperCall config (depth + 1) i
  | .path p =>
      match path p with
      | .ok members => return members
      | .error kind => failShowing kind (.expr (.path p))
  | .boolean value _ => return .boolean value
  | .null _ => return .null
  | .number value _ => return .number value
  | .string value _ => return .string value
  | .undefined _ => return .identifier undefinedName
  | .absent => failShowing .unexpectedExpressionKind (.expr .absent)

/-
  Resolve an invocation to a call. The object of named
  arguments is passed even when there are none.
-/
def helperCall
    (config : Config)
    (depth : Nat) :
    Template.Invocation → Outcome Jsx.Expr
  | ⟨target, params, ⟨pairs, _⟩⟩ => do
      let positional ← expressions config depth params
      let named ← namedArguments config depth pairs
      return .call (callee target)
        (positional ++ [hashObject named])

/- Resolve expressions in order. -/
def expressions
    (config : Config)
    (depth : Nat) :
    List Template.Expr → Outcome (List Jsx.Expr)
  | [] => return []
  | e :: rest => do
      let first ← expression config depth e
      let others ← expressions config depth rest
      return first :: others

/- Resolve named arguments in order. -/
def namedArguments
    (config : Config)
    (depth : Nat) :
    List Template.Pair → Outcome (List Jsx.Property)
  | [] => return []
  | ⟨key, value, _⟩ :: rest => do
      let first ← expression config depth value
      let others ← namedArguments config depth rest
      return .mk key first :: others

end

/-
  Resolve a node that calls something. Any other node is
  refused.
-/
def helperCallOf
    (config : Config)
    (depth : Nat)
    (node : Template.Node) : Outcome Jsx.Expr :=
  match node.invocation? with
  | some i => helperCall config depth i
  | none => failShowing .unexpectedExpressionKind node

end Resolve

end TemplateJsx
