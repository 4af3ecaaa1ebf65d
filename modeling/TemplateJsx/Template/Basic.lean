import TemplateJsx.Number.Basic
import TemplateJsx.Source.Span
import TemplateJsx.Text.Join

/-
  This file defines template trees as a template parser
  delivers them. A tree is made of statements, which stand
  in the bodies of templates, elements and blocks, and of
  expressions, which stand inside curly braces.

  A slot of the tree that the parser left empty holds an
  `absent` node. Every other node remembers the stretch of
  source it was read from, if that is known.

  Key definitions include:
    * `Template.Path`
    * `Template.Expr`
    * `Template.Invocation`
    * `Template.Hash`
    * `Template.Pair`
    * `Template.TextRun`
    * `Template.Mustache`
    * `Template.Modifier`
    * `Template.Comment`
    * `Template.Concat`
    * `Template.Attribute`
    * `Template.Statement`
    * `Template.Element`
    * `Template.BlockStatement`
    * `Template.Block`
    * `Template`
-/

------------------------------------------------------------
-- Paths
------------------------------------------------------------

namespace TemplateJsx

namespace Template

/-
  A dotted reference such as `this.user.name` or `@item`. The
  text it was written as is kept beside its head and tail.
-/
structure Path where
  spelling : String
  head : String
  tail : List String
  span : Option Span
  deriving DecidableEq, Repr

namespace Path

/-
  The path that a text denotes: its head is what stands
  before the first dot, its tail what the other dots divide.
  The empty text denotes the path with an empty head.
-/
def ofSpelling
    (spelling : String)
    (span : Option Span) : Path :=
  if spelling = "" then
    ⟨"", "", [], span⟩
  else
    match Text.splitAt '.' spelling with
    | [] => ⟨spelling, "", [], span⟩
    | head :: tail => ⟨spelling, head, tail, span⟩

/- A path that starts at `this`. -/
def StartsAtThis (p : Path) : Prop :=
  p.head = "this"

instance (p : Path) : Decidable p.StartsAtThis := by
  unfold StartsAtThis
  infer_instance

/- A path that refers to an argument, such as `@item`. -/
def IsArgument (p : Path) : Prop :=
  p.head.toList.head? = some '@'

instance (p : Path) : Decidable p.IsArgument := by
  unfold IsArgument
  infer_instance

/-
  The names along a path, without the `@` of an argument. A
  path with an empty head has none.
-/
def segments (p : Path) : List String :=
  match p.head.toList with
  | [] => []
  | '@' :: name => String.ofList name :: p.tail
  | _ => p.head :: p.tail

end Path

------------------------------------------------------------
-- Expressions
------------------------------------------------------------

mutual

/- What stands for a value inside curly braces. -/
inductive Expr where
  | absent
  | boolean (value : Bool) (span : Option Span)
  | null (span : Option Span)
  | undefined (span : Option Span)
  | number (value : Number) (span : Option Span)
  | string (value : String) (span : Option Span)
  | path (path : Path)
  | call (invocation : Invocation) (span : Option Span)
  deriving Repr

/- A callee with its positional and its named arguments. -/
structure Invocation where
  callee : Expr
  params : List Expr
  hash : Hash
  deriving Repr

/- The named arguments of an invocation, in order. -/
structure Hash where
  pairs : List Pair
  span : Option Span
  deriving Repr

/- One named argument. -/
structure Pair where
  key : String
  value : Expr
  span : Option Span
  deriving Repr

end

/- No named arguments. -/
def Hash.empty : Hash :=
  ⟨[], none⟩

------------------------------------------------------------
-- Leaves of Statement Trees
------------------------------------------------------------

/- Raw text. -/
structure TextRun where
  chars : String
  span : Option Span
  deriving DecidableEq, Repr

/- An invocation in braces; three braces mark raw markup. -/
structure Mustache where
  invocation : Invocation
  trusting : Bool
  span : Option Span
  deriving Repr

/- An invocation in braces inside an opening tag. -/
structure Modifier where
  invocation : Invocation
  span : Option Span
  deriving Repr

/- A comment of either kind. -/
structure Comment where
  value : String
  span : Option Span
  deriving DecidableEq, Repr

/- A part of an interpolated attribute value. -/
inductive TextPart where
  | absent
  | text (run : TextRun)
  | mustache (mustache : Mustache)
  deriving Repr

/- An interpolated attribute value, as in `"a {{b}}"`. -/
structure Concat where
  parts : List TextPart
  span : Option Span
  deriving Repr

/- The value of an attribute. -/
inductive AttributeValue where
  | absent
  | text (run : TextRun)
  | mustache (mustache : Mustache)
  | concat (concat : Concat)
  deriving Repr

/- An attribute of an opening tag. -/
structure Attribute where
  name : String
  value : AttributeValue
  span : Option Span
  deriving Repr

------------------------------------------------------------
-- Statements
------------------------------------------------------------

mutual

/- What stands in the body of a template. -/
inductive Statement where
  | absent
  | element (element : Element)
  | text (run : TextRun)
  | mustache (mustache : Mustache)
  | block (block : BlockStatement)
  | modifier (modifier : Modifier)
  | comment (comment : Comment)
  | mustacheComment (comment : Comment)
  | concat (concat : Concat)
  deriving Repr

/- An opening tag with what stands up to its closing tag. -/
structure Element where
  tag : String
  selfClosing : Bool
  blockParams : List String
  attributes : List Attribute
  modifiers : List Modifier
  comments : List Comment
  children : List Statement
  span : Option Span
  deriving Repr

/- An invocation with a body and a body for `else`. -/
structure BlockStatement where
  invocation : Invocation
  program : Block
  inverse : Block
  span : Option Span
  deriving Repr

/- A body that may bind names. -/
inductive Block where
  | absent
  | present
      (body : List Statement)
      (blockParams : List String)
      (chained : Bool)
      (span : Option Span)
  deriving Repr

end

namespace Block

/- The statements of a block. An absent one has none. -/
def body : Block → List Statement
  | .absent => []
  | .present body _ _ _ => body

/- The names a block binds. An absent one binds none. -/
def blockParams : Block → List String
  | .absent => []
  | .present _ blockParams _ _ => blockParams

/- Whether the block was written. -/
def IsPresent : Block → Prop
  | .absent => False
  | .present _ _ _ _ => True

instance : (b : Block) → Decidable b.IsPresent
  | .absent => .isFalse id
  | .present _ _ _ _ => .isTrue trivial

end Block

/- The statement that a part of a concatenation stands for. -/
def TextPart.toStatement : TextPart → Statement
  | .absent => .absent
  | .text run => .text run
  | .mustache m => .mustache m

end Template

/- A whole template. -/
structure Template where
  body : List Template.Statement
  blockParams : List String
  span : Option Span
  deriving Repr

end TemplateJsx
