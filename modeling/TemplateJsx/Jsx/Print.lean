import TemplateJsx.Jsx.Basic
import TemplateJsx.Jsx.Quote
import TemplateJsx.Number.Printer
import TemplateJsx.Text.Join

/-
  This file prints trees as source on one line. An operand
  is put in parentheses exactly if it binds less tightly
  than its place requires.

  Key definitions include:
    * `Jsx.Precedence`
    * `Jsx.BinaryOp.precedence`
    * `Jsx.Expr.precedence`
    * `Jsx.Expr.print`
    * `Jsx.Markup.print`
    * `Jsx.Node.print`
-/

------------------------------------------------------------
-- Precedence
------------------------------------------------------------

namespace TemplateJsx

namespace Jsx

namespace Precedence

/- The place that takes every expression. -/
def lowest : Nat := 0

/- Arrow functions, arguments and branches. -/
def arrow : Nat := 2

/- Conditional expressions. -/
def conditional : Nat := 3

/- Disjunctions, and the test of a conditional. -/
def or : Nat := 4

/- Conjunctions. -/
def and : Nat := 5

/- Sums. -/
def additive : Nat := 12

/- Member access, calls and all that needs no operator. -/
def member : Nat := 18

end Precedence

/- How tightly an operator binds. -/
def BinaryOp.precedence : BinaryOp → Nat
  | .add => Precedence.additive
  | .and => Precedence.and
  | .or => Precedence.or
  | .unknown _ => Precedence.lowest

/- The sign of an operator. -/
def BinaryOp.symbol : BinaryOp → String
  | .add => "+"
  | .and => "&&"
  | .or => "||"
  | .unknown _ => ""

/- How tightly the outermost construct binds. -/
def Expr.precedence : Expr → Nat
  | .binary op _ _ => op.precedence
  | .conditional _ _ _ => Precedence.conditional
  | .arrow _ _ => Precedence.arrow
  | _ => Precedence.member

/- A text in parentheses. -/
def parenthesize (s : String) : String :=
  "(" ++ s ++ ")"

/-
  The text of an expression in a place that requires the
  precedence `least`.
-/
def enclose
    (least : Nat)
    (precedence : Nat)
    (s : String) : String :=
  if precedence < least then parenthesize s else s

------------------------------------------------------------
-- Leaves
------------------------------------------------------------

/- A tag's name with dots between its parts. -/
def TagName.print : TagName → String
  | .identifier name => name
  | .member object property =>
      object.print ++ "." ++ property

/- An access to a property, by name or by string. -/
def printAccess (property : String) : String :=
  if Text.IsLegalName property then
    "." ++ property
  else
    "[" ++ singleQuoted false property ++ "]"

/- Text among children, with the brackets of tags quoted. -/
def printText (s : String) : String :=
  String.ofList (s.toList.flatMap fun c =>
    if c = '<' ∨ c = '>' then
      ['\x7b', '\'', c, '\'', '\x7d']
    else
      [c])

/- A comment's text with its end marks broken up. -/
def breakEndMarks : List Char → List Char
  | '*' :: '/' :: rest => '*' :: ' ' :: '/' :: breakEndMarks rest
  | c :: rest => c :: breakEndMarks rest
  | [] => []

/- A comment, or nothing if it is empty. -/
def printComment (comment : String) : String :=
  if comment = "" then
    ""
  else
    "/*" ++ String.ofList (breakEndMarks comment.toList) ++ "*/"

/-
  An attribute with a text. It is quoted by a quote that the
  text does not contain, and otherwise becomes a container
  with a string literal.
-/
def printTextAttribute
    (name : String)
    (value : String) : String :=
  if '"' ∉ value.toList then
    name ++ "=\"" ++ value ++ "\""
  else if '\'' ∉ value.toList then
    name ++ "='" ++ value ++ "'"
  else
    name ++ "=\x7b" ++ singleQuoted false value ++ "\x7d"

/- The body of an arrow function must not start a block. -/
def printBody
    (body : Expr)
    (s : String) : String :=
  match body with
  | .object _ => parenthesize s
  | _ => s

------------------------------------------------------------
-- Trees
------------------------------------------------------------

mutual

/- The source of an expression, without parentheses. -/
def Expr.print : Expr → String
  | .identifier name => name
  | .string value => singleQuoted false value
  | .number value => value.print
  | .boolean value => if value then "true" else "false"
  | .null => "null"
  | .member object property =>
      enclose Precedence.member object.precedence object.print
        ++ printAccess property
  | .call callee arguments =>
      enclose Precedence.member callee.precedence callee.print
        ++ "(" ++ Text.joinWith ", " (printArguments arguments)
        ++ ")"
  | .object properties =>
      match properties with
      | [] => "\x7b\x7d"
      | _ =>
          "\x7b " ++ Text.joinWith ", " (printProperties properties)
            ++ " \x7d"
  | .binary op left right =>
      enclose op.precedence left.precedence left.print
        ++ " " ++ op.symbol ++ " "
        ++ enclose (op.precedence + 1) right.precedence right.print
  | .conditional test consequent alternate =>
      enclose Precedence.or test.precedence test.print
        ++ " ? "
        ++ enclose Precedence.arrow consequent.precedence
          consequent.print
        ++ " : "
        ++ enclose Precedence.arrow alternate.precedence
          alternate.print
  | .arrow params body =>
      "(" ++ Text.joinWith ", " params ++ ") => "
        ++ printBody body
          (enclose Precedence.arrow body.precedence body.print)
  | .markup markup => markup.print
  | .empty comment => printComment comment

/- The sources of the arguments of a call. -/
def printArguments : List Expr → List String
  | [] => []
  | e :: rest =>
      enclose Precedence.arrow e.precedence e.print
        :: printArguments rest

/- A key and its value. -/
def Property.print : Property → String
  | .mk key value =>
      nameOrQuoted false key ++ ": "
        ++ enclose Precedence.arrow value.precedence value.print

/- The sources of the properties of an object. -/
def printProperties : List Property → List String
  | [] => []
  | p :: rest => p.print :: printProperties rest

/-
  An element or a fragment. An element marked as closed by
  itself is printed so if it has no children.
-/
def Markup.print : Markup → String
  | .element name attributes children selfClosing =>
      let opening := "<" ++ name.print ++ printAttributes attributes
      if selfClosing = true ∧ children.isEmpty = true then
        opening ++ " />"
      else
        opening ++ ">" ++ printChildren children
          ++ "</" ++ name.print ++ ">"
  | .fragment children =>
      "<>" ++ printChildren children ++ "</>"

/- An attribute. -/
def Attribute.print : Attribute → String
  | .bare name => name
  | .text name value => printTextAttribute name value
  | .container name value =>
      name ++ "=\x7b" ++ value.print ++ "\x7d"
  | .spread argument =>
      "\x7b..."
        ++ enclose Precedence.arrow argument.precedence
          argument.print
        ++ "\x7d"

/- The attributes of an element, a blank before each. -/
def printAttributes : List Attribute → String
  | [] => ""
  | a :: rest => " " ++ a.print ++ printAttributes rest

/- A child of an element or a fragment. -/
def Child.print : Child → String
  | .markup markup => markup.print
  | .text value => printText value
  | .container expression =>
      "\x7b" ++ expression.print ++ "\x7d"

/- Children, one after the other. -/
def printChildren : List Child → String
  | [] => ""
  | c :: rest => c.print ++ printChildren rest

end

/- The source of a node of any type. -/
def Node.print : Node → String
  | .expr e => e.print
  | .property p => p.print
  | .attr a => a.print
  | .child c => c.print
  | .tagName name => name.print

end Jsx

end TemplateJsx
