import TemplateJsx.Number.Printer
import TemplateJsx.Template.Reader

/-
  Template trees as documents. A tree is encoded with one
  mapping for each node, which holds the type of the node,
  its fields under the keys that a reader looks for, and its
  span. Not every tree can be written so that it could be
  read back, and those that can are told apart here.

  Key definitions include:
    * `Document.Node.ofFields`
    * `Template.encodeSpan`
    * `Template.encodeNode`
    * `Template.Expr.encode`
    * `Template.Statement.encode`
    * `Template.encode`
    * `Template.Statement.IsWritable`
    * `Template.IsWritable`
-/

------------------------------------------------------------
-- Documents
------------------------------------------------------------

namespace TemplateJsx

namespace Document

namespace Node

/- A text in quotes. -/
def ofText (text : String) : Node :=
  .scalar .quoted text 0

/- A text without quotes. -/
def ofPlain (text : String) : Node :=
  .scalar .plain text 0

/- What stands for nothing. -/
def nothing : Node :=
  ofPlain "null"

/- A truth value. -/
def ofBool (value : Bool) : Node :=
  ofPlain (if value then "true" else "false")

/- A sequence of nodes. -/
def ofItems (items : List Node) : Node :=
  .sequence items 0

/- A sequence of texts. -/
def ofTexts (texts : List String) : Node :=
  ofItems (texts.map ofText)

end Node

/- The entries for keys and values. -/
def entriesOf (fields : List (String × Node)) : List Entry :=
  fields.map fun field => ⟨.ofPlain field.1, field.2⟩

/- A mapping with the given keys and values. -/
def Node.ofFields (fields : List (String × Node)) : Node :=
  .mapping (entriesOf fields) 0

end Document

------------------------------------------------------------
-- Encoding Leaves
------------------------------------------------------------

/- The file of a span, that of its start if there is one. -/
def Span.file (span : Span) : String :=
  match span.start, span.stop with
  | some start, _ => start.file
  | none, some stop => stop.file
  | none, none => ""

namespace Template

/- A location by its line and its column. -/
def encodeLocation : Option Location → Document.Node
  | none => .nothing
  | some l =>
      .ofFields
        [("line", .ofPlain l.line.repr),
          ("column", .ofPlain l.column.repr)]

/- A span by its file, its start and its end. -/
def encodeSpan : Option Span → Document.Node
  | none => .nothing
  | some span =>
      .ofFields
        [("source", .ofText span.file),
          ("start", encodeLocation span.start),
          ("end", encodeLocation span.stop)]

/- The keys and values of a node of a type. -/
def nodeFields
    (type : String)
    (span : Option Span)
    (fields : List (String × Document.Node)) :
    List (String × Document.Node) :=
  ("type", .ofText type) :: ("loc", encodeSpan span) :: fields

/- A node by its type, its span and its other fields. -/
def encodeNode
    (type : String)
    (span : Option Span)
    (fields : List (String × Document.Node)) : Document.Node :=
  .ofFields (nodeFields type span fields)

/- A path by its spelling, its head and its tail. -/
def Path.encode (p : Path) : Document.Node :=
  encodeNode "PathExpression" p.span
    [("original", .ofText p.spelling),
      ("head", .ofFields
        [("type", .ofText "VarHead"), ("name", .ofText p.head)]),
      ("tail", .ofTexts p.tail)]

------------------------------------------------------------
-- Encoding Expressions
------------------------------------------------------------

mutual

/- An expression. An absent one stands for nothing. -/
def Expr.encode : Expr → Document.Node
  | .absent => .nothing
  | .boolean value span =>
      encodeNode "BooleanLiteral" span [("value", .ofBool value)]
  | .null span => encodeNode "NullLiteral" span []
  | .undefined span => encodeNode "UndefinedLiteral" span []
  | .number value span =>
      encodeNode "NumberLiteral" span
        [("value", .ofPlain value.print)]
  | .string value span =>
      encodeNode "StringLiteral" span [("value", .ofText value)]
  | .path p => p.encode
  | .call i span => encodeNode "SubExpression" span i.fields

/- A callee with its arguments. -/
def Invocation.fields :
    Invocation → List (String × Document.Node)
  | ⟨callee, params, hash⟩ =>
      [("path", callee.encode),
        ("params", .ofItems (encodeExpressions params)),
        ("hash", hash.encode)]

/- Expressions, in order. -/
def encodeExpressions : List Expr → List Document.Node
  | [] => []
  | e :: rest => e.encode :: encodeExpressions rest

/- Named arguments. -/
def Hash.encode : Hash → Document.Node
  | ⟨pairs, span⟩ =>
      encodeNode "Hash" span
        [("pairs", .ofItems (encodePairs pairs))]

/- Named arguments, in order. -/
def encodePairs : List Pair → List Document.Node
  | [] => []
  | ⟨key, value, span⟩ :: rest =>
      encodeNode "HashPair" span
          [("key", .ofText key), ("value", value.encode)]
        :: encodePairs rest

end

------------------------------------------------------------
-- Encoding Statements
------------------------------------------------------------

def TextRun.encode (run : TextRun) : Document.Node :=
  encodeNode "TextNode" run.span [("chars", .ofText run.chars)]

def Mustache.encode (m : Mustache) : Document.Node :=
  encodeNode "MustacheStatement" m.span
    (("trusting", .ofBool m.trusting) :: m.invocation.fields)

def Modifier.encode (m : Modifier) : Document.Node :=
  encodeNode "ElementModifierStatement" m.span m.invocation.fields

/- A comment of the given type. -/
def Comment.encode
    (type : String)
    (c : Comment) : Document.Node :=
  encodeNode type c.span [("value", .ofText c.value)]

/- A comment of an opening tag. -/
def Comment.encodeInTag (c : Comment) : Document.Node :=
  c.encode "MustacheCommentStatement"

def TextPart.encode : TextPart → Document.Node
  | .absent => .nothing
  | .text run => run.encode
  | .mustache m => m.encode

def Concat.encode (c : Concat) : Document.Node :=
  encodeNode "ConcatStatement" c.span
    [("parts", .ofItems (c.parts.map TextPart.encode))]

def AttributeValue.encode : AttributeValue → Document.Node
  | .absent => .nothing
  | .text run => run.encode
  | .mustache m => m.encode
  | .concat c => c.encode

def Attribute.encode (a : Attribute) : Document.Node :=
  encodeNode "AttrNode" a.span
    [("name", .ofText a.name), ("value", a.value.encode)]

mutual

/- A statement. An absent one stands for nothing. -/
def Statement.encode : Statement → Document.Node
  | .absent => .nothing
  | .element e => e.encode
  | .text run => run.encode
  | .mustache m => m.encode
  | .block b => b.encode
  | .modifier m => m.encode
  | .comment c => c.encode "CommentStatement"
  | .mustacheComment c => c.encode "MustacheCommentStatement"
  | .concat c => c.encode

/- An element. -/
def Element.encode : Element → Document.Node
  | ⟨tag, selfClosing, params, attributes, modifiers, comments,
      body, span⟩ =>
    encodeNode "ElementNode" span
      [("tag", .ofText tag),
        ("selfClosing", .ofBool selfClosing),
        ("blockParams", .ofTexts params),
        ("attributes",
          .ofItems (attributes.map Attribute.encode)),
        ("modifiers",
          .ofItems (modifiers.map Modifier.encode)),
        ("comments",
          .ofItems (comments.map Comment.encodeInTag)),
        ("children", .ofItems (encodeStatements body))]

/- A block. -/
def BlockStatement.encode : BlockStatement → Document.Node
  | ⟨invocation, program, inverse, span⟩ =>
    encodeNode "BlockStatement" span
      (("program", program.encode) ::
        ("inverse", inverse.encode) :: invocation.fields)

/- A body. An absent one stands for nothing. -/
def Block.encode : Block → Document.Node
  | .absent => .nothing
  | .present body params chained span =>
      encodeNode "Block" span
        [("body", .ofItems (encodeStatements body)),
          ("blockParams", .ofTexts params),
          ("chained", .ofBool chained)]

/- Statements, in order. -/
def encodeStatements : List Statement → List Document.Node
  | [] => []
  | s :: rest => s.encode :: encodeStatements rest

end

end Template

/- A whole template. -/
def Template.encode (t : Template) : Document.Node :=
  encodeNode "Template" t.span
    [("body", .ofItems (encodeStatements t.body)),
      ("blockParams", .ofTexts t.blockParams)]

------------------------------------------------------------
-- Trees That Can Be Written
------------------------------------------------------------

/- A position with numbers of 64 bits. -/
structure Location.IsWritable (l : Location) : Prop where
  line : Integer.minSigned ≤ l.line ∧ l.line ≤ Integer.maxSigned
  column :
    Integer.minSigned ≤ l.column ∧ l.column ≤ Integer.maxSigned

/- A span that starts and ends in the same file. -/
structure Span.IsWritable (span : Span) : Prop where
  file : ∀ start stop, span.start = some start →
    span.stop = some stop → start.file = stop.file
  start : ∀ l, span.start = some l → l.IsWritable
  stop : ∀ l, span.stop = some l → l.IsWritable

/- The file of a span is that of both of its ends. -/
theorem Span.IsWritable.file_eq
    {span : Span}
    (hSpan : span.IsWritable) :
    (∀ l, span.start = some l → l.file = span.file) ∧
      (∀ l, span.stop = some l → l.file = span.file) := by
  rcases span with ⟨start, stop⟩
  cases start with
  | none =>
      refine ⟨by simp, ?_⟩
      rintro l rfl
      rfl
  | some first =>
      refine ⟨?_, ?_⟩
      · rintro l ⟨⟩
        rfl
      · rintro l rfl
        exact (hSpan.file first l rfl rfl).symm

/- Of the values that are no numbers, only one is read. -/
def Number.IsWritable (x : Number) : Prop :=
  x.IsNaN → x = Number.nan

namespace Template

/- A span that is unknown or can be written. -/
def SpanWritable (span : Option Span) : Prop :=
  ∀ s, span = some s → s.IsWritable

mutual

/- An expression whose spans and numbers can be written. -/
def Expr.IsWritable : Expr → Prop
  | .absent => True
  | .boolean _ span => SpanWritable span
  | .null span => SpanWritable span
  | .undefined span => SpanWritable span
  | .number value span => value.IsWritable ∧ SpanWritable span
  | .string _ span => SpanWritable span
  | .path p => SpanWritable p.span
  | .call i span => i.IsWritable ∧ SpanWritable span

/- An invocation whose arguments can be written. -/
def Invocation.IsWritable : Invocation → Prop
  | ⟨callee, params, hash⟩ =>
      callee.IsWritable ∧ ExpressionsWritable params
        ∧ hash.IsWritable

/- Expressions that can all be written. -/
def ExpressionsWritable : List Expr → Prop
  | [] => True
  | e :: rest => e.IsWritable ∧ ExpressionsWritable rest

/- Named arguments that can be written. -/
def Hash.IsWritable : Hash → Prop
  | ⟨pairs, span⟩ => PairsWritable pairs ∧ SpanWritable span

/- Named arguments that can all be written. -/
def PairsWritable : List Pair → Prop
  | [] => True
  | ⟨_, value, span⟩ :: rest =>
      (value.IsWritable ∧ SpanWritable span) ∧ PairsWritable rest

end

def Mustache.IsWritable (m : Mustache) : Prop :=
  m.invocation.IsWritable ∧ SpanWritable m.span

def Modifier.IsWritable (m : Modifier) : Prop :=
  m.invocation.IsWritable ∧ SpanWritable m.span

/- A part that is there and can be written. -/
def TextPart.IsWritable : TextPart → Prop
  | .absent => False
  | .text run => SpanWritable run.span
  | .mustache m => m.IsWritable

def Concat.IsWritable (c : Concat) : Prop :=
  (∀ part ∈ c.parts, part.IsWritable) ∧ SpanWritable c.span

/- A value that is there and can be written. -/
def AttributeValue.IsWritable : AttributeValue → Prop
  | .absent => False
  | .text run => SpanWritable run.span
  | .mustache m => m.IsWritable
  | .concat c => c.IsWritable

def Attribute.IsWritable (a : Attribute) : Prop :=
  a.value.IsWritable ∧ SpanWritable a.span

mutual

/- A statement that is there and can be written. -/
def Statement.IsWritable : Statement → Prop
  | .absent => False
  | .element e => e.IsWritable
  | .text run => SpanWritable run.span
  | .mustache m => m.IsWritable
  | .block b => b.IsWritable
  | .modifier m => m.IsWritable
  | .comment c => SpanWritable c.span
  | .mustacheComment c => SpanWritable c.span
  | .concat c => c.IsWritable

/- An element that can be written. -/
def Element.IsWritable : Element → Prop
  | ⟨_, _, _, attributes, modifiers, comments, body, span⟩ =>
    ((∀ a ∈ attributes, a.IsWritable)
        ∧ (∀ m ∈ modifiers, m.IsWritable)
        ∧ (∀ c ∈ comments, SpanWritable c.span))
      ∧ StatementsWritable body ∧ SpanWritable span

/- A block that can be written. -/
def BlockStatement.IsWritable : BlockStatement → Prop
  | ⟨invocation, program, inverse, span⟩ =>
    invocation.IsWritable ∧ program.IsWritable
      ∧ inverse.IsWritable ∧ SpanWritable span

/- A body that can be written. It may be absent. -/
def Block.IsWritable : Block → Prop
  | .absent => True
  | .present body _ _ span =>
      StatementsWritable body ∧ SpanWritable span

/- Statements that are all there and can be written. -/
def StatementsWritable : List Statement → Prop
  | [] => True
  | s :: rest => s.IsWritable ∧ StatementsWritable rest

end

end Template

/-
  A template that can be written: no statement of a list and
  no value of an attribute is absent, no span reaches from
  one file to another, and its numbers are ones that are
  read.
-/
def Template.IsWritable (t : Template) : Prop :=
  StatementsWritable t.body ∧ SpanWritable t.span

end TemplateJsx
