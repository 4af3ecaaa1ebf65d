import TemplateJsx.Proofs.Rendering.Value
import TemplateJsx.Resolve.Statement

/-
  What templates and trees mean. Both are rendered to nodes
  in an environment: a template by its own rules, and a tree
  by evaluating it as source of the target language. The two
  know nothing of each other.

  No meaning is given to invocations with positional
  arguments, custom blocks, interpolated attributes and
  elements that bind names: values are data, and these need
  functions or conversions.

  Key definitions include:
    * `Template.Path.read`
    * `Template.Expr.read`
    * `Template.Statement.render`
    * `Template.render`
    * `Template.boundNames`
    * `Jsx.Expr.eval`
    * `Jsx.Expr.render`

  Main declarations:
    * `Resolve.blockForm_eq`
    * `Resolve.standardBlock_cases`
-/

------------------------------------------------------------
-- Values in Templates
------------------------------------------------------------

namespace TemplateJsx

open Rendering (Value Env)

/-
  The attributes that a caller passes: the fields of a
  record, and none if nothing was passed.
-/
def Rendering.spread :
    Value → Option (List (String × Option Value))
  | .record fields =>
      some (fields.map fun field => (field.1, some field.2))
  | .undefined => some []
  | .null => some []
  | _ => none

namespace Template

/-
  The value of a path: its head is looked up, an argument in
  the record of arguments, and its tail is followed from
  there. A path without a head has no value.
-/
def Path.read
    (env : Env)
    (p : Path) : Option Value :=
  match p.segments with
  | [] => none
  | head :: tail =>
      if p.IsArgument then
        some (((env "args").member head).follow tail)
      else
        some ((env head).follow tail)

/- The value of a literal or a path. -/
def Expr.read
    (env : Env) : Expr → Option Value
  | .boolean value _ => some (.boolean value)
  | .null _ => some .null
  | .undefined _ => some .undefined
  | .number value _ => some (.number value)
  | .string value _ => some (.string value)
  | .path p => p.read env
  | .call _ _ => none
  | .absent => none

/- The value of what stands in braces, without arguments. -/
def Mustache.read
    (env : Env)
    (m : Mustache) : Option Value :=
  match m.invocation.params with
  | [] => m.invocation.callee.read env
  | _ => none

/- What an attribute contributes, under its printed name. -/
def Attribute.read
    (config : Config)
    (env : Env)
    (a : Attribute) : Option (List (String × Option Value)) :=
  if a.name = "...attributes" then
    Rendering.spread (env "attributes")
  else
    match a.value with
    | .absent => some [(config.rename a.name, none)]
    | .text run =>
        if run.chars = "" then
          some [(config.rename a.name, none)]
        else
          some [(config.rename a.name, some (.string run.chars))]
    | .mustache m => do
        let value ← m.read env
        return [(config.rename a.name, some value)]
    | .concat _ => none

/- The attribute that a handler of an event becomes. -/
def Modifier.read
    (env : Env)
    (m : Modifier) : Option (List (String × Option Value)) :=
  match m.invocation.params with
  | [.string event _, handler] => do
      let value ← handler.read env
      return [(Resolve.handlerName event, some value)]
  | _ => none

------------------------------------------------------------
-- Rendering Templates
------------------------------------------------------------

/- The name that a block calls, if it is a plain one. -/
def Invocation.keyword (i : Invocation) : String :=
  match i.callee with
  | .path ⟨_, head, [], _⟩ => head
  | _ => ""

end Template

/- The form of a block is settled by the name it calls. -/
theorem Resolve.blockForm_eq
    (b : Template.BlockStatement) :
    Resolve.blockForm b =
      if b.invocation.keyword = "if" then .ifBlock
      else if b.invocation.keyword = "unless" then .unlessBlock
      else if b.invocation.keyword = "each" then .eachBlock
      else if b.invocation.keyword = "let" ∨
          b.invocation.keyword = "with" then .letBlock
      else .custom := by
  unfold Resolve.blockForm Template.Invocation.keyword
  generalize b.invocation.callee = target
  cases target with
  | path p =>
      rcases p with ⟨spelling, head, tail, span⟩
      cases tail with
      | nil => rfl
      | cons name names => rfl
  | _ => rfl

/-
  What holds of the four ways to resolve a block, each under
  the names that lead to it, holds of blocks.
-/
theorem Resolve.standardBlock_cases
    {config : Config}
    {depth : Nat}
    {b : Template.BlockStatement}
    {program inverse : Unit → Resolve.Outcome Jsx.Expr}
    {motive : Resolve.Outcome Jsx.Expr → Prop}
    (hCondition : ∀ negate,
      b.invocation.keyword ∈ ["if", "unless"] →
      motive
        (conditionalBlock config depth negate b program inverse))
    (hEach : b.invocation.keyword = "each" →
      motive (eachBlock config depth b program inverse))
    (hLet : b.invocation.keyword ∈ ["let", "with"] →
      motive (letBlock config depth b program))
    (hCustom :
      b.invocation.keyword ∉
        ["if", "unless", "each", "let", "with"] →
      motive (customBlock config depth b program inverse)) :
    motive (standardBlock config depth b program inverse) := by
  unfold standardBlock
  rw [blockForm_eq]
  by_cases hIf : b.invocation.keyword = "if"
  · rw [if_pos hIf]
    exact hCondition false (by simp [hIf])
  rw [if_neg hIf]
  by_cases hUnless : b.invocation.keyword = "unless"
  · rw [if_pos hUnless]
    exact hCondition true (by simp [hUnless])
  rw [if_neg hUnless]
  by_cases hLoop : b.invocation.keyword = "each"
  · rw [if_pos hLoop]
    exact hEach hLoop
  rw [if_neg hLoop]
  by_cases hBinding :
      b.invocation.keyword = "let" ∨
        b.invocation.keyword = "with"
  · rw [if_pos hBinding]
    exact hLet (by simpa using hBinding)
  · rw [if_neg hBinding]
    exact hCustom (by simpa [hIf, hUnless, hLoop] using hBinding)

namespace Template

/-
  The nodes for the items of a list, one after the other.
  The rendering of an item depends on the item, its index
  and the list.
-/
def renderItems
    (items : List Value)
    (item : List Value → Option (List Rendering.Node)) :
    Option (List Rendering.Node) := do
  let rendered ← items.zipIdx.mapM fun (value, index) =>
    item [value, .number (.ofCount index), .list items]
  return rendered.flatten

mutual

/- The nodes of a statement. -/
@[simp]
def Statement.render
    (config : Config) :
    Statement → Env → Option (List Rendering.Node)
  | .text run, _ => some [.text run.chars]
  | .comment _, _ => some []
  | .mustacheComment _, _ => some []
  | .mustache m, env => do
      let value ← m.read env
      value.nodes
  | .element e, env => e.render config env
  | .block b, env => b.render config env
  | .modifier _, _ => none
  | .concat _, _ => none
  | .absent, _ => none

/-
  The node of an element, with its name, its attributes and
  its children.
-/
@[simp]
def Element.render
    (config : Config) :
    Element → Env → Option (List Rendering.Node)
  | ⟨tag, _, [], attributes, modifiers, _, body, _⟩, env => do
      let given ← attributes.mapM (Attribute.read config env)
      let handlers ← modifiers.mapM (Modifier.read env)
      let kids ← renderAll config body env
      return [.element (Resolve.tagName tag)
        (given.flatten ++ handlers.flatten)
        (Rendering.merge kids)]
  | ⟨_, _, _ :: _, _, _, _, _, _⟩, _ => none

/-
  The nodes of a block. `if` and `unless` choose a body,
  `each` renders its body for every item or its inverse if
  there are none, `let` and `with` bind names to values.
-/
@[simp]
def BlockStatement.render
    (config : Config) :
    BlockStatement → Env → Option (List Rendering.Node)
  | ⟨i, program, inverse, _⟩, env =>
      if i.keyword = "if" then
        match i.params with
        | [param] => do
            let test ← param.read env
            if test.truthy then
              program.render config env
            else
              inverse.render config env
        | _ => none
      else if i.keyword = "unless" then
        match i.params with
        | [param] => do
            let test ← param.read env
            if test.truthy then
              inverse.render config env
            else
              program.render config env
        | _ => none
      else if i.keyword = "each" then
        match i.params with
        | [param] => do
            match ← param.read env with
            | .list [] => inverse.render config env
            | .list items =>
                renderItems items fun values =>
                  program.render config
                    (env.bind program.blockParams values)
            | _ => none
        | _ => none
      else if i.keyword = "let" ∨ i.keyword = "with" then do
        let values ← i.params.mapM (Expr.read env)
        program.render config
          (env.bind program.blockParams values)
      else
        none

/- The nodes of a body. A missing one has none. -/
@[simp]
def Block.render
    (config : Config) :
    Block → Env → Option (List Rendering.Node)
  | .absent, _ => some []
  | .present body _ _ _, env => renderAll config body env

/- The nodes of statements, one after the other. -/
@[simp]
def renderAll
    (config : Config) :
    List Statement → Env → Option (List Rendering.Node)
  | [], _ => some []
  | s :: rest, env => do
      let first ← s.render config env
      let others ← renderAll config rest env
      return first ++ others

end

end Template

/- The nodes of a template, merged. -/
def Template.render
    (config : Config)
    (env : Env)
    (t : Template) : Option (List Rendering.Node) := do
  let nodes ← Template.renderAll config t.body env
  return Rendering.merge nodes

------------------------------------------------------------
-- Bound Names
------------------------------------------------------------

namespace Template

mutual

/- The names that are bound somewhere in a statement. -/
def Statement.boundNames : Statement → List String
  | .element e => e.boundNames
  | .block b => b.boundNames
  | _ => []

/- The names bound by an element or inside it. -/
def Element.boundNames : Element → List String
  | ⟨_, _, params, _, _, _, body, _⟩ =>
      params ++ allBoundNames body

/- The names bound by the bodies of a block or inside them. -/
def BlockStatement.boundNames : BlockStatement → List String
  | ⟨_, program, inverse, _⟩ =>
      program.boundNames ++ inverse.boundNames

/- The names bound by a body or inside it. -/
def Block.boundNames : Block → List String
  | .absent => []
  | .present body params _ _ => params ++ allBoundNames body

/- The names that are bound somewhere in a list. -/
def allBoundNames : List Statement → List String
  | [] => []
  | s :: rest => s.boundNames ++ allBoundNames rest

end

end Template

/- The names that are bound somewhere in a template. -/
def Template.boundNames (t : Template) : List String :=
  Template.allBoundNames t.body

------------------------------------------------------------
-- Evaluating Trees
------------------------------------------------------------

namespace Jsx

/-
  The list of the results of a function for the items of a
  list. It is given the item, its index and the list.
-/
def mapItems
    (items : List Value)
    (f : List Value → Option Value) : Option Value := do
  let results ← items.zipIdx.mapM fun (value, index) =>
    f [value, .number (.ofCount index), .list items]
  return .list results

mutual

/-
  The value of an expression. A function is not a value of
  its own: it is called at once or passed to `map`.
-/
@[simp]
def Expr.eval : Expr → Env → Option Value
  | .identifier name, env => some (env name)
  | .string value, _ => some (.string value)
  | .number value, _ => some (.number value)
  | .boolean value, _ => some (.boolean value)
  | .null, _ => some .null
  | .member object property, env => do
      let value ← object.eval env
      return value.member property
  | .call (.member object property) [f], env =>
      if property = "map" then do
        match ← object.eval env with
        | .list items => mapItems items (f.apply env)
        | _ => none
      else
        none
  | .call callee arguments, env => do
      let values ← evalArguments arguments env
      callee.apply env values
  | .conditional test consequent alternate, env => do
      let value ← test.eval env
      if value.truthy then
        consequent.eval env
      else
        alternate.eval env
  | .markup markup, env => do
      let nodes ← markup.eval env
      return .markup nodes
  | .object _, _ => none
  | .binary _ _ _, _ => none
  | .arrow _ _, _ => none
  | .empty _, _ => none

/- The result of calling a function with values. -/
@[simp]
def Expr.apply :
    Expr → Env → List Value → Option Value
  | .arrow params body, env, values =>
      body.eval (env.bind params values)
  | _, _, _ => none

/- The values of the arguments of a call. -/
@[simp]
def evalArguments :
    List Expr → Env → Option (List Value)
  | [], _ => some []
  | e :: rest, env => do
      let first ← e.eval env
      let others ← evalArguments rest env
      return first :: others

/- The nodes of markup. -/
@[simp]
def Markup.eval :
    Markup → Env → Option (List Rendering.Node)
  | .element name attributes children _, env => do
      let given ← evalAttributes attributes env
      let kids ← evalChildren children env
      return [.element name given (Rendering.merge kids)]
  | .fragment children, env => evalChildren children env

/- What an attribute contributes. -/
@[simp]
def Attribute.eval :
    Attribute → Env → Option (List (String × Option Value))
  | .bare name, _ => some [(name, none)]
  | .text name value, _ =>
      some [(name, some (.string value))]
  | .container name value, env => do
      let result ← value.eval env
      return [(name, some result)]
  | .spread argument, env => do
      let value ← argument.eval env
      Rendering.spread value

/- What the attributes of an element contribute. -/
@[simp]
def evalAttributes :
    List Attribute → Env →
      Option (List (String × Option Value))
  | [], _ => some []
  | a :: rest, env => do
      let first ← a.eval env
      let others ← evalAttributes rest env
      return first ++ others

/-
  The nodes of a child. A container whose expression is left
  empty has none.
-/
@[simp]
def Child.eval :
    Child → Env → Option (List Rendering.Node)
  | .markup markup, env => markup.eval env
  | .text value, _ => some [.text value]
  | .container (.empty _), _ => some []
  | .container e, env => do
      let value ← e.eval env
      value.nodes

/- The nodes of children, one after the other. -/
@[simp]
def evalChildren :
    List Child → Env → Option (List Rendering.Node)
  | [], _ => some []
  | c :: rest, env => do
      let first ← c.eval env
      let others ← evalChildren rest env
      return first ++ others

end

/- The nodes of the value of an expression, merged. -/
def Expr.render
    (env : Env)
    (e : Expr) : Option (List Rendering.Node) := do
  let value ← e.eval env
  let nodes ← value.nodes
  return Rendering.merge nodes

end Jsx

end TemplateJsx
