import TemplateJsx.Number.Basic

/-
  This file defines the trees that templates are turned
  into: expressions, and the markup that may stand in them.

  Key definitions include:
    * `Jsx.BinaryOp`
    * `Jsx.TagName`
    * `Jsx.Expr`
    * `Jsx.Property`
    * `Jsx.Markup`
    * `Jsx.Attribute`
    * `Jsx.Child`
    * `Jsx.Node`
-/

------------------------------------------------------------
-- Operators and Names
------------------------------------------------------------

namespace TemplateJsx

namespace Jsx

/-
  A binary operator. Trees may carry the number of an
  operator that has no printed form.
-/
inductive BinaryOp where
  | add
  | and
  | or
  | unknown (code : Int)
  deriving DecidableEq, Repr

/- The name in a tag, such as `div` or `Menu.Item`. -/
inductive TagName where
  | identifier (name : String)
  | member (object : TagName) (property : String)
  deriving DecidableEq, Repr

------------------------------------------------------------
-- Expressions and Markup
------------------------------------------------------------

mutual

/-
  An expression. The empty expression, which may hold a
  comment, has a place only in a container among children.
-/
inductive Expr where
  | identifier (name : String)
  | string (value : String)
  | number (value : Number)
  | boolean (value : Bool)
  | null
  | member (object : Expr) (property : String)
  | call (callee : Expr) (arguments : List Expr)
  | object (properties : List Property)
  | binary (operator : BinaryOp) (left right : Expr)
  | conditional (test consequent alternate : Expr)
  | arrow (params : List String) (body : Expr)
  | markup (markup : Markup)
  | empty (comment : String)
  deriving Repr

/- A key of an object with its value. -/
inductive Property where
  | mk (key : String) (value : Expr)
  deriving Repr

/- An element with its children, or children alone. -/
inductive Markup where
  | element
      (name : TagName)
      (attributes : List Attribute)
      (children : List Child)
      (selfClosing : Bool)
  | fragment (children : List Child)
  deriving Repr

/-
  An attribute of an element: a name alone, a name with a
  text, a name with an expression, or an expression whose
  properties become attributes.
-/
inductive Attribute where
  | bare (name : String)
  | text (name : String) (value : String)
  | container (name : String) (value : Expr)
  | spread (argument : Expr)
  deriving Repr

/- What stands between an opening and a closing tag. -/
inductive Child where
  | markup (markup : Markup)
  | text (value : String)
  | container (expression : Expr)
  deriving Repr

end

------------------------------------------------------------
-- Nodes of Every Type
------------------------------------------------------------

/- A node of a tree. -/
inductive Node where
  | expr (expr : Expr)
  | property (property : Property)
  | attr (a : Attribute)
  | child (child : Child)
  | tagName (name : TagName)
  deriving Repr

end Jsx

end TemplateJsx
