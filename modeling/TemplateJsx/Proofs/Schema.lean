import TemplateJsx.Template.Reader

/-
  What the reader of template trees looks at. A node of a
  document is read in a role, which says what is wanted, and
  by a type, which says under which keys its fields stand, in
  which order they are read, and in which roles the nodes
  below them are read in turn.

  The reader has a function of its own for every type. Here
  these are brought under one table of fields: what is read
  of a node depends on its fields and texts only, and it is
  refused for the first field that is refused.

  Key definitions include:
    * `Template.Role`
    * `Template.Slot`
    * `Template.Field`
    * `Template.NodeType.fields`
    * `Template.Field.places`
    * `Template.refusal?`

  Main declarations:
    * `Template.Role.read_mapping`
    * `Template.readFields_congr`
    * `Template.refusal?_readFields`
    * `Template.refusal?_eq_findSome?_places`
    * `Template.sizeOf_lt_of_mem_places`
-/

------------------------------------------------------------
-- Roles
------------------------------------------------------------

namespace TemplateJsx

namespace Template

open Document (Entry find? fieldItems)

/- What a node of a document may be read as. -/
inductive Role where
  | root
  | statement
  | expression
  | attr
  | modifier
  | attributeValue
  | textPart
  | hash
  | pair
  | block
  | comment
  deriving DecidableEq, Repr

/- The template that a node is or stands for. -/
def asRoot : Node → ReadResult Template
  | .template t => .ok t
  | .statement s => .ok ⟨[s], [], s.span⟩
  | node => .error (.notRoot node.kind)

/- A named argument. Its type is not looked at. -/
def readPair : Document.Node → ReadResult Pair
  | .mapping entries _ => do
      let value ← readExpressionField (find? entries "value")
      return ⟨textField entries "key", value, spanField entries⟩
  | node => .error (.notMapping node.line)

namespace Role

/- What is made of a node in a role. -/
abbrev Result : Role → Type
  | .root => Template
  | .statement => Statement
  | .expression => Expr
  | .attr => Attribute
  | .modifier => Modifier
  | .attributeValue => AttributeValue
  | .textPart => TextPart
  | .hash => Hash
  | .pair => Pair
  | .block => Block
  | .comment => Comment

/- Read a node in a role. -/
def read :
    (role : Role) →
      Document.Node →
      ReadResult role.Result
  | .root, node => (readNode node).bind asRoot
  | .statement, node => (readNode node).bind asStatement
  | .expression, node => readExpression node
  | .attr, node => (readNode node).bind asAttribute
  | .modifier, node => (readNode node).bind asModifier
  | .attributeValue, node => (readNode node).bind asAttributeValue
  | .textPart, node => (readNode node).bind asTextPart
  | .hash, node => readHashField (some node)
  | .pair, node => readPair node
  | .block, node => readBlockField (some node)
  | .comment, node => readTagComment node

/-
  The type by which a mapping is read in a role. In some
  roles only one type is wanted, and the type that is written
  is not looked at.
-/
def type?
    (role : Role)
    (entries : List Entry) : Option NodeType :=
  match role with
  | .hash => some .hash
  | .pair => some .pair
  | .block => some .block
  | .comment => some .mustacheComment
  | _ => NodeType.ofName? (textField entries "type")

end Role

------------------------------------------------------------
-- Fields by Type
------------------------------------------------------------

/- How a field is read. -/
inductive Slot where
  /- A list of statements, which must be a sequence. -/
  | statements
  /- A list of nodes in a role: what stands below the field. -/
  | list (role : Role)
  /- A single node in a role, which may be left out. -/
  | one (role : Role)
  | texts
  | truth
  | number
  | trusting
  | path
  deriving DecidableEq, Repr

/- What is made of a field. -/
abbrev Slot.Result : Slot → Type
  | .statements => List Statement
  | .list role => List role.Result
  | .one role => Option role.Result
  | .texts => List String
  | .truth => Bool
  | .number => Number
  | .trusting => Bool
  | .path => Path

/- A field of a node: where it stands and how it is read. -/
structure Field where
  key : String
  slot : Slot
  deriving DecidableEq, Repr

/- Read a field. -/
def Slot.read
    (entries : List Entry)
    (key : String) :
    (slot : Slot) → ReadResult slot.Result
  | .statements => readStatements (find? entries key)
  | .list role => (fieldItems entries key).mapM role.read
  | .one role => (find? entries key).mapM role.read
  | .texts => textsField entries key
  | .truth => booleanField entries key
  | .number => numberField entries key
  | .trusting => trustingField entries
  | .path => readPath entries (spanField entries)

def Field.read
    (f : Field)
    (entries : List Entry) : ReadResult f.slot.Result :=
  f.slot.read entries f.key

namespace NodeType

/- The fields of a callee with its arguments. -/
def invocationFields : List Field :=
  [⟨"path", .one .expression⟩, ⟨"params", .list .expression⟩,
    ⟨"hash", .one .hash⟩]

/- The fields of a type, in the order they are read. -/
def fields : NodeType → List Field
  | .template => [⟨"body", .statements⟩, ⟨"blockParams", .texts⟩]
  | .block =>
      [⟨"body", .statements⟩, ⟨"blockParams", .texts⟩,
        ⟨"chained", .truth⟩]
  | .element =>
      [⟨"attributes", .list .attr⟩,
        ⟨"modifiers", .list .modifier⟩,
        ⟨"children", .statements⟩, ⟨"selfClosing", .truth⟩,
        ⟨"blockParams", .texts⟩, ⟨"comments", .list .comment⟩]
  | .attr => [⟨"value", .one .attributeValue⟩]
  | .mustache => invocationFields ++ [⟨"trusting", .trusting⟩]
  | .blockStatement =>
      invocationFields ++
        [⟨"program", .one .block⟩, ⟨"inverse", .one .block⟩]
  | .modifier => invocationFields
  | .concat => [⟨"parts", .list .textPart⟩]
  | .call => invocationFields
  | .path => [⟨"original", .path⟩]
  | .hash => [⟨"pairs", .list .pair⟩]
  | .pair => [⟨"value", .one .expression⟩]
  | .boolean => [⟨"value", .truth⟩]
  | .number => [⟨"value", .number⟩]
  | .text | .comment | .mustacheComment | .null | .undefined
  | .string => []

end NodeType

/- A node by its type, with the span that it states. -/
def readFields
    (type : NodeType)
    (entries : List Entry) : ReadResult Node :=
  readTyped type entries (spanField entries)

------------------------------------------------------------
-- Lists
------------------------------------------------------------

section Lists

variable {α β : Type}

/- What goes over a list step by step is a step for each item. -/
theorem eq_mapM
    {readAll : List α → ReadResult (List β)}
    {read : α → ReadResult β}
    (hNil : readAll [] = .ok [])
    (hCons : ∀ item rest,
      readAll (item :: rest) = do
        let first ← read item
        let others ← readAll rest
        return first :: others)
    (items : List α) :
    readAll items = items.mapM read := by
  induction items with
  | nil => exact hNil
  | cons item rest ih => rw [hCons, List.mapM_cons, ih]

end Lists

theorem readStatementItems_eq_mapM
    (items : List Document.Node) :
    readStatementItems items =
      items.mapM Role.statement.read := by
  refine eq_mapM ?_ ?_ items
  · rw [readStatementItems]
  · intro item rest
    rw [readStatementItems]
    rfl

theorem readExpressions_eq_mapM
    (items : List Document.Node) :
    readExpressions items = items.mapM Role.expression.read := by
  refine eq_mapM ?_ ?_ items
  · rw [readExpressions]
  · intro item rest
    rw [readExpressions]
    rfl

theorem readAttributes_eq_mapM
    (items : List Document.Node) :
    readAttributes items = items.mapM Role.attr.read := by
  refine eq_mapM ?_ ?_ items
  · rw [readAttributes]
  · intro item rest
    rw [readAttributes]
    rfl

theorem readModifiers_eq_mapM
    (items : List Document.Node) :
    readModifiers items = items.mapM Role.modifier.read := by
  refine eq_mapM ?_ ?_ items
  · rw [readModifiers]
  · intro item rest
    rw [readModifiers]
    rfl

theorem readTextParts_eq_mapM
    (items : List Document.Node) :
    readTextParts items = items.mapM Role.textPart.read := by
  refine eq_mapM ?_ ?_ items
  · rw [readTextParts]
  · intro item rest
    rw [readTextParts]
    rfl

theorem readPairs_eq_mapM
    (items : List Document.Node) :
    readPairs items = items.mapM Role.pair.read := by
  refine eq_mapM ?_ ?_ items
  · rw [readPairs]
  · intro item rest
    cases item with
    | mapping entries line =>
        rw [readPairs, Role.read, readPair, bind_assoc]
        rfl
    | scalar _ _ _ | sequence _ _ | reference _ _ _ _ =>
        rw [readPairs]
        · rfl
        · intro entries line hMapping
          cases hMapping

------------------------------------------------------------
-- Single Nodes
------------------------------------------------------------

/- A step for a node that is there. -/
theorem map_getD_mapM
    {α : Type}
    {read : Document.Node → ReadResult α}
    {node : Document.Node}
    (fallback : α) :
    (Option.getD · fallback) <$> (some node).mapM read =
      read node := by
  change (Option.getD · fallback) <$> some <$> read node = _
  rw [Functor.map_map]
  exact id_map _

theorem readExpressionField_eq
    (field : Option Document.Node) :
    readExpressionField field =
      (Option.getD · .absent) <$>
        field.mapM Role.expression.read := by
  cases field with
  | none =>
      rw [readExpressionField]
      rfl
  | some node =>
      rw [map_getD_mapM, readExpressionField]
      rfl

theorem readHashField_eq
    (field : Option Document.Node) :
    readHashField field =
      (Option.getD · .empty) <$>
        field.mapM Role.hash.read := by
  cases field with
  | none =>
      rw [readHashField]
      rfl
  | some node =>
      rw [map_getD_mapM]
      rfl

theorem readBlockField_eq
    (field : Option Document.Node) :
    readBlockField field =
      (Option.getD · .absent) <$>
        field.mapM Role.block.read := by
  cases field with
  | none =>
      rw [readBlockField]
      rfl
  | some node =>
      rw [map_getD_mapM]
      rfl

theorem readAttributeValue_eq
    (field : Option Document.Node) :
    readAttributeValue field =
      (Option.getD · (.text ⟨"", none⟩)) <$>
        field.mapM Role.attributeValue.read := by
  cases field with
  | none =>
      rw [readAttributeValue]
      rfl
  | some node =>
      rw [map_getD_mapM, readAttributeValue]
      rfl

------------------------------------------------------------
-- Nodes in Roles
------------------------------------------------------------

/- Only mappings are nodes of a template tree. -/
theorem readNode_of_not_mapping
    {node : Document.Node}
    (hNode : ∀ entries line, node ≠ .mapping entries line) :
    readNode node = .error (.notMapping node.line) := by
  rw [readNode]
  exact hNode

/- A list of statements must be a sequence. -/
theorem readStatements_of_not_sequence
    {node : Document.Node}
    (hNode : ∀ items line, node ≠ .sequence items line) :
    readStatements (some node) =
      .error (.notStatements node.line) := by
  rw [readStatements]
  exact hNode

/- A document that is no sequence is read as one node. -/
theorem ofDocument_eq_read
    {node : Document.Node}
    (hNode : ∀ items line, node ≠ .sequence items line) :
    ofDocument node = Role.root.read node := by
  rw [ofDocument]
  · rw [Role.read]
    cases readNode node with
    | error e => rfl
    | ok tree => cases tree <;> rfl
  · exact hNode

namespace Role

/-
  What is made of a node once it has been read by its type.
  Where only one type is wanted, nothing else is read.
-/
def accept :
    (role : Role) →
      Node →
      ReadResult role.Result
  | .root, node => asRoot node
  | .statement, node => asStatement node
  | .expression, node => asExpression node
  | .attr, node => asAttribute node
  | .modifier, node => asModifier node
  | .attributeValue, node => asAttributeValue node
  | .textPart, node => asTextPart node
  | .hash, .hash h => .ok h
  | .pair, .pair p => .ok p
  | .block, .block b => .ok b
  | .comment, .statement (.mustacheComment c) => .ok c
  | _, _ => .error .emptyDocument

/- In every role a node that is no mapping is refused. -/
theorem read_of_not_mapping
    {node : Document.Node}
    (role : Role)
    (hNode : ∀ entries line, node ≠ .mapping entries line)
    (hNull : ¬ node.IsNull) :
    role.read node = .error (.notMapping node.line) := by
  have hRead := readNode_of_not_mapping hNode
  cases role with
  | root | statement | attr | modifier | attributeValue
  | textPart =>
      rw [read, hRead]
      rfl
  | expression =>
      rw [read, readExpression, if_neg hNull, hRead]
      rfl
  | hash =>
      rw [read, readHashField]
      exact hNode
  | pair =>
      rw [read, readPair]
      exact hNode
  | block =>
      rw [read, readBlockField]
      exact hNode
  | comment =>
      rw [read, readTagComment]
      exact hNode

/- In every role a mapping is read by the fields of its type. -/
theorem read_mapping
    {role : Role}
    {entries : List Entry}
    {type : NodeType}
    (line : Nat)
    (hType : role.type? entries = some type) :
    role.read (.mapping entries line) =
      (readFields type entries).bind role.accept := by
  have hMapping :
      ¬ (Document.Node.mapping entries line).IsNull := id
  cases role with
  | root | statement | attr | modifier | attributeValue
  | textPart =>
      have hName :
          NodeType.ofName? (textField entries "type") =
            some type := hType
      rw [read, readNode, hName]
      rfl
  | expression =>
      have hName :
          NodeType.ofName? (textField entries "type") =
            some type := hType
      rw [read, readExpression, if_neg hMapping, readNode, hName]
      rfl
  | hash =>
      cases hType
      rw [read, readHashField, readFields, readTyped]
      cases readHash entries (spanField entries) <;> rfl
  | pair =>
      cases hType
      rw [read, readPair, readFields, readTyped]
      cases readExpressionField (find? entries "value") <;> rfl
  | block =>
      cases hType
      rw [read, readBlockField, readFields, readTyped]
      cases readBlock entries (spanField entries) <;> rfl
  | comment =>
      cases hType
      rw [read, readTagComment, readFields, readTyped]
      rfl

/- Without a type, a mapping is refused by what it is called. -/
theorem read_mapping_of_no_type
    {role : Role}
    {entries : List Entry}
    (line : Nat)
    (hType : role.type? entries = none) :
    role.read (.mapping entries line) =
      .error
        (if textField entries "type" = "" then .untyped line
        else .unknownType (textField entries "type") line) := by
  have hMapping :
      ¬ (Document.Node.mapping entries line).IsNull := id
  cases role with
  | root | statement | attr | modifier | attributeValue
  | textPart =>
      have hName :
          NodeType.ofName? (textField entries "type") =
            none := hType
      rw [read, readNode, hName]
      by_cases hEmpty : textField entries "type" = ""
      · simp only [hEmpty, if_true]
        rfl
      · simp only [hEmpty, if_false]
        rfl
  | expression =>
      have hName :
          NodeType.ofName? (textField entries "type") =
            none := hType
      rw [read, readExpression, if_neg hMapping, readNode, hName]
      by_cases hEmpty : textField entries "type" = ""
      · simp only [hEmpty, if_true]
        rfl
      · simp only [hEmpty, if_false]
        rfl
  | hash | pair | block | comment => cases hType

end Role

------------------------------------------------------------
-- Fields in Order
------------------------------------------------------------

/- The keys of texts, which are read without a check. -/
def textKeys : List String :=
  ["type", "chars", "key", "name", "tag", "value"]

/- Mappings with the same texts and the same span. -/
structure SameTexts
    (a b : List Entry) : Prop where
  texts : ∀ key ∈ textKeys, textField a key = textField b key
  span : spanField a = spanField b

/-
  A reading of a mapping that goes over some fields in order
  and otherwise looks only at the texts and the span.
-/
inductive ReadsFields :
    List Field →
      (List Entry → ReadResult Node) →
      Prop where
  | done
      (result : List Entry → Node)
      (hSame : ∀ a b, SameTexts a b → result a = result b) :
      ReadsFields [] (fun entries => .ok (result entries))
  | next
      (f : Field)
      {rest : List Field}
      (goOn : f.slot.Result → List Entry → ReadResult Node)
      (hRest : ∀ value, ReadsFields rest (goOn value)) :
      ReadsFields (f :: rest)
        (fun entries => do
          let value ← f.read entries
          goOn value entries)

/- A callee with its arguments, field by field. -/
theorem readInvocation_eq
    (entries : List Entry) :
    readInvocation entries = do
      let path ← (find? entries "path").mapM Role.expression.read
      let params ←
        (fieldItems entries "params").mapM Role.expression.read
      let hash ← (find? entries "hash").mapM Role.hash.read
      return ⟨path.getD .absent, params, hash.getD .empty⟩ := by
  simp only [readInvocation, readExpressionField_eq,
    readExpressions_eq_mapM, readHashField_eq, bind_map_left]

/- The fields of a type are read in the order of the table. -/
theorem readFields_readsFields
    (type : NodeType) :
    ReadsFields type.fields (readFields type) := by
  change ReadsFields type.fields
    (fun entries => readTyped type entries (spanField entries))
  -- The reader of a type becomes one chain of fields, which is
  -- then compared with the table field by field.
  cases type with
  | template =>
      simp only [readTyped]
      refine .next _ _ fun body => .next _ _ fun params => ?_
      exact .done _ fun a b hSame => by rw [hSame.span]
  | block =>
      simp only [readTyped, readBlock, bind_assoc, pure_bind]
      refine .next _ _ fun body => .next _ _ fun params => ?_
      refine .next _ _ fun chained => ?_
      exact .done _ fun a b hSame => by rw [hSame.span]
  | element =>
      simp only [readTyped, readElement, readAttributes_eq_mapM,
        readModifiers_eq_mapM, bind_assoc, pure_bind]
      refine .next _ _ fun attributes => ?_
      refine .next _ _ fun modifiers => ?_
      refine .next _ _ fun children => ?_
      refine .next _ _ fun selfClosing => ?_
      refine .next _ _ fun params => .next _ _ fun comments => ?_
      refine .done _ fun a b hSame => ?_
      rw [hSame.span, hSame.texts "tag" (by decide)]
  | attr =>
      simp only [readTyped, readAttributeValue_eq, bind_map_left]
      refine .next _ _ fun value => .done _ fun a b hSame => ?_
      rw [hSame.span, hSame.texts "name" (by decide)]
  | mustache =>
      simp only [readTyped, readInvocation_eq, bind_assoc,
        pure_bind]
      refine .next _ _ fun path => .next _ _ fun params => ?_
      refine .next _ _ fun hash => .next _ _ fun trusting => ?_
      exact .done _ fun a b hSame => by rw [hSame.span]
  | blockStatement =>
      simp only [readTyped, readInvocation_eq, readBlockField_eq,
        bind_assoc, bind_map_left, pure_bind]
      refine .next _ _ fun path => .next _ _ fun params => ?_
      refine .next _ _ fun hash => .next _ _ fun program => ?_
      refine .next _ _ fun inverse => ?_
      exact .done _ fun a b hSame => by rw [hSame.span]
  | concat =>
      simp only [readTyped, readTextParts_eq_mapM]
      refine .next _ _ fun parts => ?_
      exact .done _ fun a b hSame => by rw [hSame.span]
  | modifier | call =>
      simp only [readTyped, readInvocation_eq, bind_assoc,
        pure_bind]
      refine .next _ _ fun path => .next _ _ fun params => ?_
      refine .next _ _ fun hash => ?_
      exact .done _ fun a b hSame => by rw [hSame.span]
  | path =>
      simp only [readTyped]
      exact .next _ _ fun path => .done _ fun a b hSame => rfl
  | hash =>
      simp only [readTyped, readHash, readPairs_eq_mapM,
        bind_assoc, pure_bind]
      refine .next _ _ fun pairs => ?_
      exact .done _ fun a b hSame => by rw [hSame.span]
  | pair =>
      simp only [readTyped, readExpressionField_eq, bind_map_left]
      refine .next _ _ fun value => .done _ fun a b hSame => ?_
      rw [hSame.span, hSame.texts "key" (by decide)]
  | boolean | number =>
      simp only [readTyped]
      refine .next _ _ fun value => ?_
      exact .done _ fun a b hSame => by rw [hSame.span]
  | text =>
      simp only [readTyped]
      refine .done _ fun a b hSame => ?_
      rw [hSame.span, hSame.texts "chars" (by decide)]
  | comment | mustacheComment | string =>
      simp only [readTyped]
      refine .done _ fun a b hSame => ?_
      rw [hSame.span, hSame.texts "value" (by decide)]
  | null | undefined =>
      simp only [readTyped]
      exact .done _ fun a b hSame => by rw [hSame.span]

/- What is read depends on the fields and the texts only. -/
theorem ReadsFields.congr
    {fields : List Field}
    {read : List Entry → ReadResult Node}
    {a b : List Entry}
    (hReads : ReadsFields fields read)
    (hFields : ∀ f ∈ fields, f.read a = f.read b)
    (hSame : SameTexts a b) :
    read a = read b := by
  induction hReads with
  | done result hResult =>
      exact congrArg Except.ok (hResult a b hSame)
  | next f goOn hRest ih =>
      rw [List.forall_mem_cons] at hFields
      simp only [hFields.1]
      exact bind_congr fun value => ih value hFields.2

theorem readFields_congr
    {type : NodeType}
    {a b : List Entry}
    (hFields : ∀ f ∈ type.fields, f.read a = f.read b)
    (hSame : SameTexts a b) :
    readFields type a = readFields type b :=
  (readFields_readsFields type).congr hFields hSame

------------------------------------------------------------
-- Refusals
------------------------------------------------------------

section Refusals

variable {α β : Type}

/- Why something is refused. -/
def refusal? : ReadResult α → Option ReadError
  | .ok _ => none
  | .error e => some e

theorem refusal?_eq_some
    {result : ReadResult α}
    {e : ReadError} :
    refusal? result = some e ↔ result = .error e := by
  cases result <;> simp [refusal?]

/-
  Of two steps the first refusal counts, where the second
  step is refused alike whatever the first one gives.
-/
theorem refusal?_bind
    {result : ReadResult α}
    {goOn : α → ReadResult β}
    {later : Option ReadError}
    (hLater : ∀ value, refusal? (goOn value) = later) :
    refusal? (result >>= goOn) =
      (refusal? result).or later := by
  cases result with
  | error e => rfl
  | ok value => exact hLater value

theorem refusal?_map
    (f : α → β)
    (result : ReadResult α) :
    refusal? (f <$> result) = refusal? result := by
  cases result <;> rfl

/- The first of what is found in a list. -/
theorem findSome?_cons_eq_or
    (find : α → Option β)
    (item : α)
    (rest : List α) :
    (item :: rest).findSome? find =
      (find item).or (rest.findSome? find) := by
  rw [List.findSome?_cons]
  cases find item <;> rfl

/- Of steps for the items of a list the first refusal counts. -/
theorem refusal?_mapM
    (read : α → ReadResult β)
    (items : List α) :
    refusal? (items.mapM read) =
      items.findSome? (fun item => refusal? (read item)) := by
  induction items with
  | nil => rfl
  | cons item rest ih =>
      rw [List.mapM_cons, findSome?_cons_eq_or, ← ih]
      refine refusal?_bind fun first => ?_
      exact refusal?_map (first :: ·) (rest.mapM read)

end Refusals

/- The first field that is refused counts. -/
theorem ReadsFields.refusal?_eq
    {fields : List Field}
    {read : List Entry → ReadResult Node}
    (hReads : ReadsFields fields read)
    (entries : List Entry) :
    refusal? (read entries) =
      fields.findSome? (fun f => refusal? (f.read entries)) := by
  induction hReads with
  | done result hResult => rfl
  | next f goOn hRest ih =>
      rw [findSome?_cons_eq_or]
      exact refusal?_bind ih

/- A node is refused for the first field that is refused. -/
theorem refusal?_readFields
    (type : NodeType)
    (entries : List Entry) :
    refusal? (readFields type entries) =
      type.fields.findSome?
        (fun f => refusal? (f.read entries)) :=
  (readFields_readsFields type).refusal?_eq entries

/- In every role, the refusal of its fields refuses a node. -/
theorem Role.refusal?_read_mapping
    {role : Role}
    {entries : List Entry}
    {type : NodeType}
    {e : ReadError}
    (line : Nat)
    (hType : role.type? entries = some type)
    (hRefused : refusal? (readFields type entries) = some e) :
    refusal? (role.read (.mapping entries line)) = some e := by
  rw [read_mapping line hType,
    refusal?_eq_some.mp hRefused]
  rfl

------------------------------------------------------------
-- Nodes below Fields
------------------------------------------------------------

/-
  The nodes below a field with the roles in which they are
  read, in order.
-/
def Field.places
    (f : Field)
    (entries : List Entry) : List (Role × Document.Node) :=
  match f.slot with
  | .statements =>
      match find? entries f.key with
      | some (.sequence items _) => items.map (Role.statement, ·)
      | _ => []
  | .list role => (fieldItems entries f.key).map (role, ·)
  | .one role => (find? entries f.key).toList.map (role, ·)
  | _ => []

/- A field with nodes below it is refused for the first of them. -/
theorem refusal?_eq_findSome?_places
    {f : Field}
    {entries : List Entry}
    (hPlaces : f.places entries ≠ []) :
    refusal? (f.read entries) =
      (f.places entries).findSome?
        (fun place => refusal? (place.1.read place.2)) := by
  rcases f with ⟨key, slot⟩
  cases slot with
  | statements =>
      change refusal? (readStatements (find? entries key)) = _
      simp only [Field.places] at hPlaces ⊢
      cases hField : find? entries key with
      | none => simp [hField] at hPlaces
      | some node =>
          cases node with
          | sequence items line =>
              rw [readStatements, readStatementItems_eq_mapM,
                refusal?_mapM, List.findSome?_map]
              rfl
          | scalar _ _ _ | mapping _ _ | reference _ _ _ _ =>
              simp [hField] at hPlaces
  | list role =>
      change refusal? ((fieldItems entries key).mapM role.read) =
        ((fieldItems entries key).map (role, ·)).findSome? _
      rw [refusal?_mapM, List.findSome?_map]
      rfl
  | one role =>
      change refusal? ((find? entries key).mapM role.read) =
        ((find? entries key).toList.map (role, ·)).findSome? _
      cases hField : find? entries key with
      | none => simp [Field.places, hField] at hPlaces
      | some node =>
          change refusal? (some <$> role.read node) = _
          rw [refusal?_map, Option.toList_some, List.map_singleton,
            findSome?_cons_eq_or, List.findSome?_nil,
            Option.or_none]
  | texts | truth | number | trusting | path =>
      exact absurd rfl hPlaces

/- The nodes below a field are smaller than the mapping. -/
theorem sizeOf_lt_of_mem_places
    {f : Field}
    {entries : List Entry}
    {place : Role × Document.Node}
    (line : Nat)
    (hPlace : place ∈ f.places entries) :
    sizeOf place.2 <
      sizeOf (Document.Node.mapping entries line) := by
  rcases f with ⟨key, slot⟩
  have hFind := Document.sizeOf_find?_le entries key
  have hItems := Document.sizeOf_fieldItems_le entries key
  rw [Document.Node.mapping.sizeOf_spec]
  cases slot with
  | statements =>
      simp only [Field.places] at hPlace
      split at hPlace
      · rename_i items start hField
        rw [hField] at hFind
        rcases List.mem_map.mp hPlace with ⟨item, hItem, rfl⟩
        have hLess := List.sizeOf_lt_of_mem hItem
        simp only [Option.some.sizeOf_spec,
          Document.Node.sequence.sizeOf_spec] at hFind
        dsimp only
        omega
      · cases hPlace
  | list role =>
      rcases List.mem_map.mp hPlace with ⟨item, hItem, rfl⟩
      have hLess := List.sizeOf_lt_of_mem hItem
      dsimp only at hLess ⊢
      omega
  | one role =>
      rcases List.mem_map.mp hPlace with ⟨item, hItem, rfl⟩
      rw [Option.mem_toList] at hItem
      rw [hItem] at hFind
      simp only [Option.some.sizeOf_spec] at hFind
      dsimp only
      omega
  | texts | truth | number | trusting | path => cases hPlace

end Template

end TemplateJsx
