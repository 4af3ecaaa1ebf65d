import TemplateJsx.Document.Tree
import TemplateJsx.Template.ReadError
import TemplateJsx.Template.Node

/-
  This file reads template trees from documents. A node of
  the tree is a mapping with a `type`; its other fields are
  found under fixed keys, in any order.

  Key definitions include:
    * `Template.NodeType`
    * `Template.readPath`
    * `Template.readNode`
    * `Template.ofDocument`
    * `Template.ofText`
-/

------------------------------------------------------------
-- Types of Nodes
------------------------------------------------------------

namespace TemplateJsx

namespace Template

open Document (Entry find? fieldItems)

/- The types that nodes of a serialized tree may have. -/
inductive NodeType where
  | template
  | block
  | element
  | attr
  | text
  | mustache
  | blockStatement
  | modifier
  | comment
  | mustacheComment
  | concat
  | call
  | path
  | hash
  | pair
  | boolean
  | null
  | undefined
  | number
  | string
  deriving DecidableEq, Repr

namespace NodeType

/- The name of a type in a document. -/
def name : NodeType → String
  | .template => "Template"
  | .block => "Block"
  | .element => "ElementNode"
  | .attr => "AttrNode"
  | .text => "TextNode"
  | .mustache => "MustacheStatement"
  | .blockStatement => "BlockStatement"
  | .modifier => "ElementModifierStatement"
  | .comment => "CommentStatement"
  | .mustacheComment => "MustacheCommentStatement"
  | .concat => "ConcatStatement"
  | .call => "SubExpression"
  | .path => "PathExpression"
  | .hash => "Hash"
  | .pair => "HashPair"
  | .boolean => "BooleanLiteral"
  | .null => "NullLiteral"
  | .undefined => "UndefinedLiteral"
  | .number => "NumberLiteral"
  | .string => "StringLiteral"

/- All types. -/
def all : List NodeType :=
  [.template, .block, .element, .attr, .text, .mustache,
    .blockStatement, .modifier, .comment, .mustacheComment,
    .concat, .call, .path, .hash, .pair, .boolean, .null,
    .undefined, .number, .string]

/- The type of a name. -/
def ofName? (name : String) : Option NodeType :=
  all.find? (fun type => type.name == name)

end NodeType

------------------------------------------------------------
-- Fields
------------------------------------------------------------

/- The outcome of reading. -/
abbrev ReadResult (α : Type) :=
  Except ReadError α

/- The text of a field, empty without the field. -/
def textField
    (entries : List Entry)
    (key : String) : String :=
  ((find? entries key).map Document.Node.text).getD ""

/- A field read as a type, with a value to use without it. -/
def typedField
    {α : Type}
    (read : Document.Node → Document.Reading α)
    (fallback : α)
    (entries : List Entry)
    (key : String) : ReadResult α :=
  match find? entries key with
  | none => .ok fallback
  | some node =>
      (read node).outcome.mapError (.field key)

/- The truth value of a field, false without the field. -/
def booleanField
    (entries : List Entry)
    (key : String) : ReadResult Bool :=
  typedField
    (fun node => return (← Document.readBoolean [] node).getD false)
    false entries key

/- The texts of a field, none without the field. -/
def textsField
    (entries : List Entry)
    (key : String) : ReadResult (List String) :=
  typedField (Document.readTexts []) [] entries key

/- A location in a file, if the field is a mapping. -/
def locationField
    (file : String)
    (entries : List Entry)
    (key : String) : Option Location :=
  match find? entries key with
  | some (.mapping position _) =>
      some
        { file := file
          line := Integer.ofText (textField position "line")
          column := Integer.ofText (textField position "column") }
  | _ => none

/-
  The span of a node, if its `loc` is a mapping. The file is
  named by `source`, or else by `module`.
-/
def spanField (entries : List Entry) : Option Span :=
  match find? entries "loc" with
  | some (.mapping loc _) =>
      let source := textField loc "source"
      let file :=
        if source = "" then textField loc "module" else source
      some
        { start := locationField file loc "start"
          stop := locationField file loc "end" }
  | _ => none

------------------------------------------------------------
-- Paths
------------------------------------------------------------

/- The head of a path by the fields of its `head`. -/
def readHead (entries : List Entry) : String :=
  let name := textField entries "name"
  let type := textField entries "type"
  if type = "ThisHead" then
    "this"
  else if type = "AtHead" ∧ name.toList.head? ≠ some '@' then
    "@" ++ name
  else
    name

/-
  The head and the tail of a path by its parts. A path with
  neither parts nor `this` has an empty head.
-/
def headOfParts
    (isThis : Bool)
    (isData : Bool)
    (parts : List String) : String × List String :=
  if isThis then
    ("this", parts)
  else
    match parts with
    | [] => ("", [])
    | head :: tail => (if isData then "@" ++ head else head, tail)

/-
  A path. It is given by `head` and `tail`, by `parts` with
  the marks `this` and `data`, or only as it was written.
-/
def readPath
    (entries : List Entry)
    (span : Option Span) : ReadResult Path :=
  let spelling := textField entries "original"
  match find? entries "head" with
  | some (.mapping head _) => do
      let tail ← textsField entries "tail"
      return ⟨spelling, readHead head, tail, span⟩
  | some node => .error (.notMapping node.line)
  | none =>
      match find? entries "parts" with
      | none => .ok (Path.ofSpelling spelling span)
      | some _ => do
          let parts ← textsField entries "parts"
          let isThis ← booleanField entries "this"
          let isData ← booleanField entries "data"
          let (head, tail) := headOfParts isThis isData parts
          return ⟨spelling, head, tail, span⟩

------------------------------------------------------------
-- Leaves
------------------------------------------------------------

/- A comment of an opening tag. Its type is not looked at. -/
def readTagComment : Document.Node → ReadResult Comment
  | .mapping entries _ =>
      .ok ⟨textField entries "value", spanField entries⟩
  | node => .error (.notMapping node.line)

/- The number that a field spells. -/
def numberField
    (entries : List Entry)
    (key : String) : ReadResult Number :=
  let text := textField entries key
  match Number.ofText? text with
  | some value => .ok value
  | none => .error (.notNumber text)

/-
  Whether a mustache holds raw markup: it says so itself, or
  else that it is not escaped.
-/
def trustingField (entries : List Entry) : ReadResult Bool := do
  let trusting ← booleanField entries "trusting"
  match find? entries "escaped", trusting with
  | some _, false =>
      let escaped ← booleanField entries "escaped"
      return !escaped
  | _, _ => return trusting

/- The statement that a node is. -/
def asStatement : Node → ReadResult Statement
  | .statement s => .ok s
  | node => .error (.notStatement node.kind)

/- The expression that a node is. -/
def asExpression : Node → ReadResult Expr
  | .expr e => .ok e
  | node => .error (.notExpression node.kind)

/- The attribute that a node is. -/
def asAttribute : Node → ReadResult Attribute
  | .attr a => .ok a
  | node => .error (.notAttribute node.kind)

/- The modifier that a node is. -/
def asModifier : Node → ReadResult Modifier
  | .statement (.modifier m) => .ok m
  | node => .error (.notModifier node.kind)

/- The value of an attribute that a node is. -/
def asAttributeValue : Node → ReadResult AttributeValue
  | .statement (.text run) => .ok (.text run)
  | .statement (.mustache m) => .ok (.mustache m)
  | .statement (.concat c) => .ok (.concat c)
  | node => .error (.notAttributeValue node.kind)

/- The part of a concatenation that a node is. -/
def asTextPart : Node → ReadResult TextPart
  | .statement (.text run) => .ok (.text run)
  | .statement (.mustache m) => .ok (.mustache m)
  | node => .error (.notTextPart node.kind)

------------------------------------------------------------
-- Trees
------------------------------------------------------------

mutual

/- A node of any type. -/
def readNode
    (node : Document.Node) : ReadResult Node :=
  match node with
  | .mapping entries line =>
      let name := textField entries "type"
      match NodeType.ofName? name with
      | some type => readTyped type entries (spanField entries)
      | none =>
          if name = "" then
            .error (.untyped line)
          else
            .error (.unknownType name line)
  | other => .error (.notMapping other.line)
termination_by 3 * sizeOf node
decreasing_by
  all_goals
    simp only [Document.Node.mapping.sizeOf_spec]
    omega

/- A node by its type. -/
def readTyped
    (type : NodeType)
    (entries : List Entry)
    (span : Option Span) : ReadResult Node :=
  match type with
  | .template => do
      let body ← readStatements (find? entries "body")
      let blockParams ← textsField entries "blockParams"
      return .template ⟨body, blockParams, span⟩
  | .block => do
      let block ← readBlock entries span
      return .block block
  | .element => do
      let element ← readElement entries span
      return .statement (.element element)
  | .attr => do
      let value ← readAttributeValue (find? entries "value")
      return .attr ⟨textField entries "name", value, span⟩
  | .text =>
      .ok (.statement (.text ⟨textField entries "chars", span⟩))
  | .mustache => do
      let invocation ← readInvocation entries
      let trusting ← trustingField entries
      return .statement (.mustache ⟨invocation, trusting, span⟩)
  | .blockStatement => do
      let invocation ← readInvocation entries
      let program ← readBlockField (find? entries "program")
      let inverse ← readBlockField (find? entries "inverse")
      return .statement
        (.block ⟨invocation, program, inverse, span⟩)
  | .modifier => do
      let invocation ← readInvocation entries
      return .statement (.modifier ⟨invocation, span⟩)
  | .comment =>
      .ok (.statement (.comment ⟨textField entries "value", span⟩))
  | .mustacheComment =>
      .ok (.statement
        (.mustacheComment ⟨textField entries "value", span⟩))
  | .concat => do
      let parts ← readTextParts (fieldItems entries "parts")
      return .statement (.concat ⟨parts, span⟩)
  | .call => do
      let invocation ← readInvocation entries
      return .expr (.call invocation span)
  | .path => do
      let path ← readPath entries span
      return .expr (.path path)
  | .hash => do
      let hash ← readHash entries span
      return .hash hash
  | .pair => do
      let value ← readExpressionField (find? entries "value")
      return .pair ⟨textField entries "key", value, span⟩
  | .boolean => do
      let value ← booleanField entries "value"
      return .expr (.boolean value span)
  | .null => .ok (.expr (.null span))
  | .undefined => .ok (.expr (.undefined span))
  | .number => do
      let value ← numberField entries "value"
      return .expr (.number value span)
  | .string =>
      .ok (.expr (.string (textField entries "value") span))
termination_by 3 * sizeOf entries + 2
decreasing_by
  all_goals
    have := Document.sizeOf_find?_le entries "body"
    have := Document.sizeOf_find?_le entries "value"
    have := Document.sizeOf_find?_le entries "program"
    have := Document.sizeOf_find?_le entries "inverse"
    have := Document.sizeOf_fieldItems_le entries "parts"
    omega

/- The statements of a field that holds a sequence. -/
def readStatements
    (field : Option Document.Node) : ReadResult (List Statement) :=
  match field with
  | none => .ok []
  | some (.sequence items _) => readStatementItems items
  | some node => .error (.notStatements node.line)
termination_by 3 * sizeOf field
decreasing_by
  all_goals
    simp only [Option.some.sizeOf_spec,
      Document.Node.sequence.sizeOf_spec]
    omega

/- Statements, in order. -/
def readStatementItems
    (items : List Document.Node) : ReadResult (List Statement) :=
  match items with
  | [] => .ok []
  | item :: rest => do
      let statement ← (readNode item).bind asStatement
      let statements ← readStatementItems rest
      return statement :: statements
termination_by 3 * sizeOf items
decreasing_by
  all_goals
    simp only [List.cons.sizeOf_spec]
    omega

/- An expression, absent if the node stands for nothing. -/
def readExpression
    (node : Document.Node) : ReadResult Expr :=
  if node.IsNull then
    .ok .absent
  else
    (readNode node).bind asExpression
termination_by 3 * sizeOf node + 1

/- The expression of a field, absent without the field. -/
def readExpressionField
    (field : Option Document.Node) : ReadResult Expr :=
  match field with
  | none => .ok .absent
  | some node => readExpression node
termination_by 3 * sizeOf field
decreasing_by
  all_goals
    simp only [Option.some.sizeOf_spec]
    omega

/- Expressions, in order. -/
def readExpressions
    (items : List Document.Node) : ReadResult (List Expr) :=
  match items with
  | [] => .ok []
  | item :: rest => do
      let expression ← readExpression item
      let expressions ← readExpressions rest
      return expression :: expressions
termination_by 3 * sizeOf items
decreasing_by
  all_goals
    simp only [List.cons.sizeOf_spec]
    omega

/- A callee with its arguments. -/
def readInvocation
    (entries : List Entry) : ReadResult Invocation := do
  let callee ← readExpressionField (find? entries "path")
  let params ← readExpressions (fieldItems entries "params")
  let hash ← readHashField (find? entries "hash")
  return ⟨callee, params, hash⟩
termination_by 3 * sizeOf entries + 1
decreasing_by
  all_goals
    have := Document.sizeOf_find?_le entries "path"
    have := Document.sizeOf_fieldItems_le entries "params"
    have := Document.sizeOf_find?_le entries "hash"
    omega

/- The named arguments of a field, none without the field. -/
def readHashField
    (field : Option Document.Node) : ReadResult Hash :=
  match field with
  | none => .ok .empty
  | some (.mapping entries _) =>
      readHash entries (spanField entries)
  | some node => .error (.notMapping node.line)
termination_by 3 * sizeOf field
decreasing_by
  all_goals
    simp only [Option.some.sizeOf_spec,
      Document.Node.mapping.sizeOf_spec]
    omega

/- Named arguments. -/
def readHash
    (entries : List Entry)
    (span : Option Span) : ReadResult Hash := do
  let pairs ← readPairs (fieldItems entries "pairs")
  return ⟨pairs, span⟩
termination_by 3 * sizeOf entries + 1
decreasing_by
  all_goals
    have := Document.sizeOf_fieldItems_le entries "pairs"
    omega

/- Named arguments, in order. Their types are not looked at. -/
def readPairs
    (items : List Document.Node) : ReadResult (List Pair) :=
  match items with
  | [] => .ok []
  | .mapping entries _ :: rest => do
      let value ← readExpressionField (find? entries "value")
      let pairs ← readPairs rest
      return ⟨textField entries "key", value, spanField entries⟩
        :: pairs
  | node :: _ => .error (.notMapping node.line)
termination_by 3 * sizeOf items
decreasing_by
  · have := Document.sizeOf_find?_le entries "value"
    simp only [List.cons.sizeOf_spec,
      Document.Node.mapping.sizeOf_spec]
    omega
  · simp only [List.cons.sizeOf_spec]
    omega

/- The block of a field. Its type is not looked at. -/
def readBlockField
    (field : Option Document.Node) : ReadResult Block :=
  match field with
  | none => .ok .absent
  | some (.mapping entries _) =>
      readBlock entries (spanField entries)
  | some node => .error (.notMapping node.line)
termination_by 3 * sizeOf field
decreasing_by
  all_goals
    simp only [Option.some.sizeOf_spec,
      Document.Node.mapping.sizeOf_spec]
    omega

/- A block. -/
def readBlock
    (entries : List Entry)
    (span : Option Span) : ReadResult Block := do
  let body ← readStatements (find? entries "body")
  let blockParams ← textsField entries "blockParams"
  let chained ← booleanField entries "chained"
  return .present body blockParams chained span
termination_by 3 * sizeOf entries + 1
decreasing_by
  all_goals
    have := Document.sizeOf_find?_le entries "body"
    omega

/- An element. -/
def readElement
    (entries : List Entry)
    (span : Option Span) : ReadResult Element := do
  let attributes ←
    readAttributes (fieldItems entries "attributes")
  let modifiers ←
    readModifiers (fieldItems entries "modifiers")
  let children ← readStatements (find? entries "children")
  let selfClosing ← booleanField entries "selfClosing"
  let blockParams ← textsField entries "blockParams"
  let comments ←
    (fieldItems entries "comments").mapM readTagComment
  return {
    tag := textField entries "tag"
    selfClosing := selfClosing
    blockParams := blockParams
    attributes := attributes
    modifiers := modifiers
    comments := comments
    children := children
    span := span }
termination_by 3 * sizeOf entries + 1
decreasing_by
  all_goals
    have := Document.sizeOf_fieldItems_le entries "attributes"
    have := Document.sizeOf_fieldItems_le entries "modifiers"
    have := Document.sizeOf_find?_le entries "children"
    omega

/- Attributes, in order. -/
def readAttributes
    (items : List Document.Node) : ReadResult (List Attribute) :=
  match items with
  | [] => .ok []
  | item :: rest => do
      let attr ← (readNode item).bind asAttribute
      let attrs ← readAttributes rest
      return attr :: attrs
termination_by 3 * sizeOf items
decreasing_by
  all_goals
    simp only [List.cons.sizeOf_spec]
    omega

/- Modifiers, in order. -/
def readModifiers
    (items : List Document.Node) : ReadResult (List Modifier) :=
  match items with
  | [] => .ok []
  | item :: rest => do
      let modifier ← (readNode item).bind asModifier
      let modifiers ← readModifiers rest
      return modifier :: modifiers
termination_by 3 * sizeOf items
decreasing_by
  all_goals
    simp only [List.cons.sizeOf_spec]
    omega

/- The value of an attribute, empty text without the field. -/
def readAttributeValue
    (field : Option Document.Node) : ReadResult AttributeValue :=
  match field with
  | none => .ok (.text ⟨"", none⟩)
  | some node => (readNode node).bind asAttributeValue
termination_by 3 * sizeOf field
decreasing_by
  all_goals
    simp only [Option.some.sizeOf_spec]
    omega

/- The parts of a concatenation, in order. -/
def readTextParts
    (items : List Document.Node) : ReadResult (List TextPart) :=
  match items with
  | [] => .ok []
  | item :: rest => do
      let part ← (readNode item).bind asTextPart
      let parts ← readTextParts rest
      return part :: parts
termination_by 3 * sizeOf items
decreasing_by
  all_goals
    simp only [List.cons.sizeOf_spec]
    omega

end

------------------------------------------------------------
-- Documents
------------------------------------------------------------

/-
  The template of a document: a template, a statement, which
  becomes a template of its own, or a sequence of statements.
-/
def ofDocument (root : Document.Node) : ReadResult Template :=
  match root with
  | .sequence items _ => do
      let body ← readStatementItems items
      return ⟨body, [], none⟩
  | node => do
      match ← readNode node with
      | .template template => return template
      | .statement s => return ⟨[s], [], s.span⟩
      | other => throw (.notRoot other.kind)

/- The template that a text holds. -/
def ofText (text : String) : ReadResult Template :=
  match Document.ofText text with
  | .error e => .error (.unreadable e)
  | .ok none => .error .emptyDocument
  | .ok (some root) => ofDocument root

end Template

end TemplateJsx
