import TemplateJsx.Number.Printer
import TemplateJsx.Template.Node

/-
  This file prints template trees back to template syntax,
  as diagnostics show them. Whitespace control is not
  reproduced, and an absent node prints as nothing.

  Key definitions include:
    * `Template.Path.source`
    * `Template.Expr.source`
    * `Template.Invocation.source`
    * `Template.Statement.source`
    * `Template.Node.source`
-/

------------------------------------------------------------
-- Expressions
------------------------------------------------------------

namespace TemplateJsx

namespace Template

/- A path as it was written, or else its dotted names. -/
def Path.source (p : Path) : String :=
  if p.spelling = "" then
    Text.joinWith "." (p.head :: p.tail)
  else
    p.spelling

/- A text in double quotes, in which only quotes are escaped. -/
def stringSource (s : String) : String :=
  let escaped := s.toList.flatMap fun c =>
    if c = '"' then ['\\', '"'] else [c]
  "\"" ++ String.ofList escaped ++ "\""

mutual

/- An expression in template syntax. -/
def Expr.source : Expr → String
  | .absent => ""
  | .boolean value _ => if value then "true" else "false"
  | .null _ => "null"
  | .undefined _ => "undefined"
  | .number value _ => value.print
  | .string value _ => stringSource value
  | .path p => p.source
  | .call i _ => "(" ++ i.source ++ ")"

/- A callee and its arguments, divided by blanks. -/
def Invocation.source : Invocation → String
  | ⟨callee, params, ⟨pairs, _⟩⟩ =>
      let named :=
        match pairs with
        | [] => []
        | _ => [Text.joinWith " " (pairSources pairs)]
      Text.joinWith " "
        (callee.source :: (paramSources params ++ named))

/- The positional arguments in template syntax. -/
def paramSources : List Expr → List String
  | [] => []
  | e :: rest => e.source :: paramSources rest

/- The named arguments in template syntax. -/
def pairSources : List Pair → List String
  | [] => []
  | ⟨key, value, _⟩ :: rest =>
      (key ++ "=" ++ value.source) :: pairSources rest

end

/- A named argument in template syntax. -/
def Pair.source (p : Pair) : String :=
  p.key ++ "=" ++ p.value.source

/- The named arguments, divided by blanks. -/
def Hash.source (h : Hash) : String :=
  Text.joinWith " " (pairSources h.pairs)

------------------------------------------------------------
-- Leaves of Statement Trees
------------------------------------------------------------

/- An invocation in two braces, or in three when trusted. -/
def Mustache.source (m : Mustache) : String :=
  if m.trusting then
    "\x7b\x7b\x7b" ++ m.invocation.source ++ "\x7d\x7d\x7d"
  else
    "\x7b\x7b" ++ m.invocation.source ++ "\x7d\x7d"

/- An invocation in two braces. -/
def Modifier.source (m : Modifier) : String :=
  "\x7b\x7b" ++ m.invocation.source ++ "\x7d\x7d"

/- A part of an interpolated value in template syntax. -/
def TextPart.source : TextPart → String
  | .absent => ""
  | .text run => run.chars
  | .mustache m => m.source

/- The parts of an interpolated value, without quotes. -/
def Concat.source (c : Concat) : String :=
  Text.concatAll (c.parts.map TextPart.source)

/-
  An attribute in template syntax. An empty text is written
  as the bare name.
-/
def Attribute.source (a : Attribute) : String :=
  match a.value with
  | .absent => a.name ++ "="
  | .text run =>
      if run.chars = "" then
        a.name
      else
        a.name ++ "=\"" ++ run.chars ++ "\""
  | .mustache m => a.name ++ "=" ++ m.source
  | .concat c => a.name ++ "=\"" ++ c.source ++ "\""

/- The names a tag or a block binds, between bars. -/
def blockParamsSource (params : List String) : String :=
  match params with
  | [] => ""
  | _ => " as |" ++ Text.joinWith " " params ++ "|"

------------------------------------------------------------
-- Statements
------------------------------------------------------------

mutual

/- A statement in template syntax. -/
def Statement.source : Statement → String
  | .absent => ""
  | .element e => e.source
  | .text run => run.chars
  | .mustache m => m.source
  | .block b => b.source
  | .modifier m => m.source
  | .comment c => "<!--" ++ c.value ++ "-->"
  | .mustacheComment c =>
      "\x7b\x7b!--" ++ c.value ++ "--\x7d\x7d"
  | .concat c => c.source

/- An element in template syntax, without its comments. -/
def Element.source : Element → String
  | ⟨tag, selfClosing, params, attributes, modifiers, _,
      children, _⟩ =>
    let opening :=
      "<" ++ tag
        ++ Text.concatAll
          (attributes.map fun a => " " ++ a.source)
        ++ Text.concatAll
          (modifiers.map fun m => " " ++ m.source)
        ++ blockParamsSource params
    if selfClosing then
      opening ++ " />"
    else
      opening ++ ">" ++ bodySource children
        ++ "</" ++ tag ++ ">"

/- A block with its bodies in template syntax. -/
def BlockStatement.source : BlockStatement → String
  | ⟨invocation, program, inverse, _⟩ =>
    "\x7b\x7b#" ++ invocation.source
      ++ blockParamsSource program.blockParams ++ "\x7d\x7d"
      ++ program.source
      ++ (match inverse with
        | .absent => ""
        | .present body _ _ _ =>
            "\x7b\x7belse\x7d\x7d" ++ bodySource body)
      ++ "\x7b\x7b/" ++ invocation.callee.source
      ++ "\x7d\x7d"

/- The statements of a block in template syntax. -/
def Block.source : Block → String
  | .absent => ""
  | .present body _ _ _ => bodySource body

/- Statements in template syntax, one after the other. -/
def bodySource : List Statement → String
  | [] => ""
  | s :: rest => s.source ++ bodySource rest

end

------------------------------------------------------------
-- Nodes of Every Type
------------------------------------------------------------

/- A node in template syntax. -/
def Node.source : Node → String
  | .template t => bodySource t.body
  | .block b => b.source
  | .statement s => s.source
  | .attr a => a.source
  | .expr e => e.source
  | .hash h => h.source
  | .pair p => p.source

end Template

end TemplateJsx
