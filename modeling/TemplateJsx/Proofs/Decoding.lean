import TemplateJsx.Proofs.Encoding
import TemplateJsx.Proofs.NumeralReading

/-
  The reader of template trees undoes their encoding. Fields
  are read one by one first, whatever other fields stand
  beside them. Each node is then read back by its type, and
  trees by one recursion that follows the encoder.

  Key definitions include:
    * `Document.Node.present`
    * `Document.Node.Spells`
    * `Document.Node.ReadsAs`
    * `Template.Carries`

  Main declarations:
    * `Template.spanField_encode`
    * `Template.readNode_encodeNode`
    * `Template.readExpression_encode`
    * `Template.readNode_encode_statement`
    * `Template.ofDocument_encode`
-/

------------------------------------------------------------
-- Reading Fields
------------------------------------------------------------

namespace TemplateJsx

open Document (Node.ofText Node.ofPlain Node.ofBool
  Node.ofItems Node.ofTexts Node.ofFields)

namespace Document

/- A node, unless it stands for nothing. -/
def Node.present (node : Node) : Option Node :=
  (some node).filter (fun value => decide (¬ value.IsNull))

theorem Node.present_eq_some
    {node : Node}
    (hSome : ¬ node.IsNull) :
    node.present = some node := by
  simp [present, hSome]

theorem Node.present_eq_none
    {node : Node}
    (hNone : node.IsNull) :
    node.present = none := by
  simp [present, hNone]

/- A field is found by its key, unless it stands for nothing. -/
theorem find?_eq_present
    {entries : List Entry}
    {key : String}
    {value : Node}
    (hKey : lastValue? key entries = some value) :
    find? entries key = value.present := by
  unfold find?
  rw [hKey]
  rfl

/- Without references, a node that is read is counted. -/
theorem visit_eq_ok
    {p : Progress}
    (hNone : p.referred = 0) :
    Reading.visit false p =
      .ok ((), { p with visited := p.visited + 1 }) := by
  have hFew : ¬ (p.visit false).IsExcessive := by
    intro hMany
    have hReferred : 100 < p.referred + 0 := hMany.1
    omega
  have hVisit : Reading.visit false p =
      (if (p.visit false).IsExcessive then
        throw .excessiveReferences
      else
        set (p.visit false) : Reading Unit) p := rfl
  rw [hVisit, if_neg hFew]
  rfl

/- A reading goes on with what has been read so far. -/
theorem bind_eq_of_ok
    {α β : Type}
    {x : Reading α}
    {f : α → Reading β}
    {p q : Progress}
    {a : α}
    (hFirst : x p = .ok (a, q)) :
    (x >>= f) p = f a q := by
  have hBind : (x >>= f) p =
      (x p).bind (fun result => f result.1 result.2) := rfl
  rw [hBind, hFirst]
  rfl

/-
  A scalar that spells a text: in quotes, or without them if
  the text does not stand for nothing.
-/
inductive Node.Spells : Node → String → Prop
  | quoted (text : String) (line : Nat) :
      Spells (.scalar .quoted text line) text
  | plain
      {text : String}
      (line : Nat)
      (hText : text ∉ nullWords) :
      Spells (.scalar .plain text line) text

/-
  What a text without quotes may stand for: nothing, if it is
  a word for that, and of all texts only itself.
-/
def Scalar.SpelledBy (text : String) : Scalar → Prop
  | .null => text ∈ nullWords
  | .text value => value = text
  | _ => True

theorem Scalar.spelledBy_ofNumeral
    (timestamps : Bool)
    (text : String) :
    (Scalar.ofNumeral timestamps text).SpelledBy text := by
  have hInteger {cs : List Char} {value : Scalar}
      (hValue : Scalar.integer? cs = some value) :
      value.SpelledBy text := by
    rcases Option.map_eq_some_iff.mp hValue with ⟨_, _, rfl⟩
    trivial
  have hDecimal {cs : List Char} {value : Scalar}
      (hValue : Scalar.decimal? cs = some value) :
      value.SpelledBy text := by
    unfold Scalar.decimal? at hValue
    split at hValue
    · rcases Option.map_eq_some_iff.mp hValue with ⟨_, _, rfl⟩
      trivial
    · simp at hValue
  have hMarked {cs : List Char} {value : Scalar}
      (hValue : Scalar.markedInteger? cs = some value) :
      value.SpelledBy text := by
    unfold Scalar.markedInteger? at hValue
    split at hValue <;> simp at hValue <;>
      rcases hValue with ⟨_, _, rfl⟩ <;> trivial
  unfold Scalar.ofNumeral
  split
  · trivial
  · generalize text.toList.filter (· != '_') = cs
    dsimp only
    cases hValue : (Scalar.integer? cs).or
        ((Scalar.decimal? cs).or (Scalar.markedInteger? cs)) with
    | none => rfl
    | some value =>
        rcases Option.or_eq_some_iff.mp hValue with
          hFirst | ⟨_, hOther⟩
        · exact hInteger hFirst
        · rcases Option.or_eq_some_iff.mp hOther with
            hSecond | ⟨_, hThird⟩
          · exact hDecimal hSecond
          · exact hMarked hThird

theorem Scalar.spelledBy_ofSpelling
    (timestamps : Bool)
    (text : String) :
    (Scalar.ofSpelling timestamps text).SpelledBy text := by
  have hWords : ∀ entry ∈ Scalar.words,
      entry.2.SpelledBy entry.1 := by
    simp [Scalar.words, Scalar.SpelledBy, nullWords]
  unfold Scalar.ofSpelling
  split
  · rename_i value hLookup
    rcases List.lookup_eq_some_iff.mp hLookup with
      ⟨before, after, hAll, _⟩
    refine hWords (text, value) ?_
    rw [hAll]
    exact List.mem_append_right _ List.mem_cons_self
  · split
    · rename_i hEmpty
      rw [String.toList_eq_nil_iff] at hEmpty
      subst hEmpty
      exact List.mem_cons_self
    · cases Number.ofText? text with
      | none => rfl
      | some x => trivial
    · split
      · exact Scalar.spelledBy_ofNumeral timestamps text
      · rfl

/- Only the words for nothing are read as nothing. -/
theorem Scalar.ofPlain_ne_null
    {text : String}
    (hText : text ∉ nullWords) :
    Scalar.ofPlain text ≠ .null := by
  intro hNull
  have hSpelled := Scalar.spelledBy_ofSpelling true text
  rw [← Scalar.ofPlain, hNull] at hSpelled
  exact hText hSpelled

/- What a text spells is shown as it was written. -/
theorem textOf_of_spelledBy
    {text : String}
    {value : Scalar}
    (hSpelled : value.SpelledBy text) :
    textOf text value = text := by
  cases value with
  | text _ => exact hSpelled
  | _ => rfl

/- A node that is read as a text, and counted once. -/
def Node.ReadsAs
    (node : Node)
    (text : String) : Prop :=
  ∀ {p : Progress}, p.referred = 0 →
    readText [] node p =
      .ok (some text, { p with visited := p.visited + 1 })

/- A text is read as it stands. -/
theorem Node.Spells.readsAs
    {node : Node}
    {text : String}
    (hSpells : node.Spells text) :
    node.ReadsAs text := by
  intro p hNone
  cases hSpells with
  | quoted _ line => exact bind_eq_of_ok (visit_eq_ok hNone)
  | plain line hText =>
      refine (bind_eq_of_ok (visit_eq_ok hNone)).trans ?_
      change (if Scalar.ofPlain text = .null then _ else _ :
        Reading (Option String)) _ = _
      rw [if_neg (Scalar.ofPlain_ne_null hText)]
      have hWritten :
          textOf text (Scalar.ofPlain text) = text :=
        textOf_of_spelledBy (Scalar.spelledBy_ofSpelling true text)
      rw [hWritten]
      rfl

/- Texts are read one by one. -/
theorem readItems_of_readsAs
    {items : List Node}
    {texts : List String}
    {p : Progress}
    (hRead : List.Forall₂ Node.ReadsAs items texts)
    (hNone : p.referred = 0) :
    readItems [] items p =
      .ok (texts,
        { p with visited := p.visited + texts.length }) := by
  induction hRead generalizing p with
  | nil => rfl
  | @cons node text items texts hFirst hRest ih =>
      have hOthers := ih
        (p := { p with visited := p.visited + 1 }) hNone
      rw [readItems, bind_eq_of_ok (hFirst hNone),
        bind_eq_of_ok hOthers, List.length_cons,
        Nat.add_comm texts.length, ← Nat.add_assoc]
      rfl

/- A sequence of texts is read. -/
theorem readTexts_of_readsAs
    {items : List Node}
    {texts : List String}
    (hRead : List.Forall₂ Node.ReadsAs items texts)
    (line : Nat) :
    (readTexts [] (.sequence items line)).outcome =
      .ok texts := by
  have hItems : readTexts [] (.sequence items line) .none =
      .ok (texts, ⟨0 + 1 + texts.length, 0, []⟩) :=
    (bind_eq_of_ok (visit_eq_ok rfl)).trans
      (readItems_of_readsAs hRead rfl)
  unfold Reading.outcome
  rw [StateT.run, hItems]

/- Texts in quotes spell themselves. -/
theorem forall₂_spells_ofText
    (texts : List String) :
    List.Forall₂ Node.Spells
      (texts.map Node.ofText) texts := by
  induction texts with
  | nil => exact .nil
  | cons text rest ih => exact .cons (.quoted text 0) ih

/- A truth value is read. -/
theorem readBoolean_of_word
    (value : Bool)
    (line : Nat) :
    Reading.outcome
        (do
          let result ← readBoolean []
            (.scalar .plain (if value then "true" else "false")
              line)
          return result.getD false) =
      .ok value := by
  cases value with
  | true => rfl
  | false => rfl

end Document

namespace Template

open Document (Entry lastValue? find?)

variable {entries : List Entry}
variable {key : String}

/- The text of a field. -/
theorem textField_of_spells
    {node : Document.Node}
    {text : String}
    (hKey : find? entries key = some node)
    (hSpells : node.Spells text) :
    textField entries key = text := by
  unfold textField
  rw [hKey]
  cases hSpells with
  | quoted _ line => rfl
  | plain line hText => rfl

theorem textField_of_text
    {text : String}
    (hKey : lastValue? key entries = some (.ofText text)) :
    textField entries key = text :=
  textField_of_spells (Document.find?_eq_present hKey)
    (.quoted text 0)

theorem textField_of_plain
    {text : String}
    (hKey : lastValue? key entries = some (.ofPlain text))
    (hText : text ∉ Document.nullWords) :
    textField entries key = text := by
  have hPresent :
      (Node.ofPlain text).present = some (.ofPlain text) :=
    Document.Node.present_eq_some hText
  exact textField_of_spells
    ((Document.find?_eq_present hKey).trans hPresent)
    (.plain 0 hText)

/- The truth value of a field. -/
theorem booleanField_of_word
    {value : Bool}
    {line : Nat}
    (hKey : find? entries key =
      some (.scalar .plain (if value then "true" else "false")
        line)) :
    booleanField entries key = .ok value := by
  unfold booleanField typedField
  rw [hKey]
  dsimp only
  rw [Document.readBoolean_of_word]
  rfl

theorem booleanField_of_bool
    {value : Bool}
    (hKey : lastValue? key entries = some (.ofBool value)) :
    booleanField entries key = .ok value := by
  have hPresent :
      (Node.ofBool value).present = some (.ofBool value) := by
    cases value with
    | true => rfl
    | false => rfl
  exact booleanField_of_word
    ((Document.find?_eq_present hKey).trans hPresent)

/- Whether a mustache holds raw markup, by its own mark. -/
theorem trustingField_of_bool
    {value : Bool}
    (hKey : lastValue? "trusting" entries = some (.ofBool value))
    (hNone : lastValue? "escaped" entries = none) :
    trustingField entries = .ok value := by
  have hEscaped : find? entries "escaped" = none := by
    unfold Document.find?
    rw [hNone]
    rfl
  unfold trustingField
  rw [booleanField_of_bool hKey, hEscaped]
  rfl

/- The texts of a field. -/
theorem textsField_of_readsAs
    {items : List Document.Node}
    {line : Nat}
    {texts : List String}
    (hKey : find? entries key = some (.sequence items line))
    (hRead : List.Forall₂ Document.Node.ReadsAs items texts) :
    textsField entries key = .ok texts := by
  unfold textsField typedField
  rw [hKey]
  dsimp only
  rw [Document.readTexts_of_readsAs hRead]
  rfl

theorem textsField_of_spells
    {items : List Document.Node}
    {line : Nat}
    {texts : List String}
    (hKey : find? entries key = some (.sequence items line))
    (hSpell : List.Forall₂ Document.Node.Spells items texts) :
    textsField entries key = .ok texts :=
  textsField_of_readsAs hKey
    (hSpell.imp (fun _ _ hSpells => hSpells.readsAs))

theorem textsField_of_texts
    {texts : List String}
    (hKey : lastValue? key entries = some (.ofTexts texts)) :
    textsField entries key = .ok texts :=
  textsField_of_spells (Document.find?_eq_present hKey)
    (Document.forall₂_spells_ofText texts)

/- The nodes of a field. -/
theorem fieldItems_of_items
    {items : List Document.Node}
    (hKey : lastValue? key entries = some (.ofItems items)) :
    Document.fieldItems entries key = items := by
  unfold Document.fieldItems
  rw [Document.find?_eq_present hKey]
  rfl

/- The statements of a field. -/
theorem readStatements_of_items
    {items : List Document.Node}
    (hKey : lastValue? key entries = some (.ofItems items)) :
    readStatements (find? entries key) =
      readStatementItems items := by
  have hPresent :
      (Node.ofItems items).present =
        some (.sequence items 0) := rfl
  rw [Document.find?_eq_present hKey, hPresent, readStatements]

/- The number of a field, printed without quotes. -/
theorem numberField_of_print
    {x : Number}
    (hNumber : x.IsWritable)
    (hKey : lastValue? key entries = some (.ofPlain x.print)) :
    numberField entries key = .ok x := by
  have hRead := Number.ofText?_print hNumber
  -- No word that stands for nothing is a number.
  have hWords : ∀ word ∈ Document.nullWords,
      Number.ofText? word = none := by
    decide
  have hSome : x.print ∉ Document.nullWords := by
    intro hMember
    rw [hWords _ hMember] at hRead
    cases hRead
  unfold numberField
  rw [textField_of_plain hKey hSome]
  dsimp only
  rw [hRead]

/- An integer of a field, printed without quotes. -/
theorem integer_of_repr
    {n : Int}
    (hRange : Integer.minSigned ≤ n ∧ n ≤ Integer.maxSigned)
    (hKey : lastValue? key entries = some (.ofPlain n.repr)) :
    Integer.ofText (textField entries key) = n := by
  have hRead := Integer.ofText_repr hRange.1 hRange.2
  -- The words that stand for nothing are read as zero.
  have hWords : ∀ word ∈ Document.nullWords,
      Integer.ofText word = 0 := by
    decide
  have hSome : n.repr ∉ Document.nullWords := by
    intro hMember
    rw [hWords _ hMember] at hRead
    rw [← hRead] at hMember
    exact absurd hMember (by decide)
  rw [textField_of_plain hKey hSome]
  exact hRead

------------------------------------------------------------
-- Reading Spans and Types
------------------------------------------------------------

/- A location is read back, if its file is known. -/
theorem locationField_encode
    {file : String}
    {l : Option Location}
    (hFile : ∀ x, l = some x → x.file = file)
    (hRange : ∀ x, l = some x → x.IsWritable)
    (hKey : lastValue? key entries = some (encodeLocation l)) :
    locationField file entries key = l := by
  unfold locationField
  rw [Document.find?_eq_present hKey]
  cases l with
  | none => rfl
  | some x =>
      have hWritable := hRange x rfl
      let position := Document.entriesOf
        [("line", .ofPlain x.line.repr),
          ("column", .ofPlain x.column.repr)]
      have hLine :
          Integer.ofText (textField position "line") = x.line :=
        integer_of_repr hWritable.line rfl
      have hColumn :
          Integer.ofText (textField position "column") =
            x.column :=
        integer_of_repr hWritable.column rfl
      have hFound :
          (encodeLocation (some x)).present =
            some (.mapping position 0) := rfl
      rw [hFound]
      dsimp only
      rw [hLine, hColumn, ← hFile x rfl]

/- A span is read back. -/
theorem spanField_encode
    {span : Option Span}
    (hSpan : SpanWritable span)
    (hKey : lastValue? "loc" entries = some (encodeSpan span)) :
    spanField entries = span := by
  unfold spanField
  rw [Document.find?_eq_present hKey]
  cases span with
  | none => rfl
  | some s =>
      have hWritable := hSpan s rfl
      rcases hWritable.file_eq with ⟨hStart, hStop⟩
      let loc := Document.entriesOf
        [("source", .ofText s.file),
          ("start", encodeLocation s.start),
          ("end", encodeLocation s.stop)]
      have hSource : textField loc "source" = s.file :=
        textField_of_text rfl
      have hModule : textField loc "module" = "" := rfl
      have hFile :
          (if textField loc "source" = "" then
            textField loc "module"
          else
            textField loc "source") = s.file := by
        rw [hSource, hModule]
        split
        · rename_i hNone
          exact hNone.symm
        · rfl
      have hFirst :
          locationField s.file loc "start" = s.start :=
        locationField_encode hStart hWritable.start rfl
      have hLast :
          locationField s.file loc "end" = s.stop :=
        locationField_encode hStop hWritable.stop rfl
      have hFound :
          (encodeSpan (some s)).present =
            some (.mapping loc 0) := rfl
      rw [hFound]
      dsimp only
      rw [hFile, hFirst, hLast]

/- The span of a node whose other fields do not hide it. -/
theorem spanField_nodeFields
    {type : String}
    {span : Option Span}
    {fields : List (String × Document.Node)}
    (hLoc :
      lastValue? "loc" (Document.entriesOf fields) = none)
    (hSpan : SpanWritable span) :
    spanField
        (Document.entriesOf (nodeFields type span fields)) =
      span := by
  have hLast :
      lastValue? "loc"
          (Document.entriesOf (nodeFields type span fields)) =
        ((lastValue? "loc" (Document.entriesOf fields)).or
          (some (encodeSpan span))).or none := rfl
  rw [hLoc] at hLast
  exact spanField_encode hSpan hLast

/-
  A node is read by its type, from fields that hide neither
  its type nor its span.
-/
theorem readNode_encodeNode
    {name : String}
    {type : NodeType}
    {span : Option Span}
    {fields : List (String × Document.Node)}
    (hName : NodeType.ofName? name = some type)
    (hType :
      lastValue? "type" (Document.entriesOf fields) = none)
    (hLoc :
      lastValue? "loc" (Document.entriesOf fields) = none)
    (hSpan : SpanWritable span) :
    readNode (encodeNode name span fields) =
      readTyped type
        (Document.entriesOf (nodeFields name span fields))
        span := by
  have hLast :
      lastValue? "type"
          (Document.entriesOf (nodeFields name span fields)) =
        ((lastValue? "type" (Document.entriesOf fields)).or
          none).or (some (.ofText name)) := rfl
  rw [hType] at hLast
  unfold encodeNode Node.ofFields
  rw [readNode, textField_of_text hLast,
    spanField_nodeFields hLoc hSpan, hName]

------------------------------------------------------------
-- Reading Expressions
------------------------------------------------------------

/- The expression of a field is that of the node in it. -/
theorem readExpressionField_present
    (node : Document.Node) :
    readExpressionField node.present = readExpression node := by
  by_cases hNull : node.IsNull
  · rw [Document.Node.present_eq_none hNull,
      readExpressionField, readExpression, if_pos hNull]
  · rw [Document.Node.present_eq_some hNull,
      readExpressionField]

/- A node that is an expression is read as one. -/
theorem readExpression_encodeNode
    {type : String}
    {span : Option Span}
    {fields : List (String × Document.Node)}
    {e : Expr}
    (hNode :
      readNode (encodeNode type span fields) = .ok (.expr e)) :
    readExpression (encodeNode type span fields) = .ok e := by
  have hSome : ¬ (encodeNode type span fields).IsNull := id
  rw [readExpression, if_neg hSome, hNode]
  rfl

/- A path is read back. -/
theorem readNode_encode_path
    (p : Path)
    (hSpan : SpanWritable p.span) :
    readNode p.encode = .ok (.expr (.path p)) := by
  rcases p with ⟨spelling, head, tail, span⟩
  let fields := Document.entriesOf
    (nodeFields "PathExpression" span
      [("original", .ofText spelling),
        ("head", .ofFields
          [("type", .ofText "VarHead"), ("name", .ofText head)]),
        ("tail", .ofTexts tail)])
  have hSpelling : textField fields "original" = spelling :=
    textField_of_text rfl
  have hTail : textsField fields "tail" = .ok tail :=
    textsField_of_texts rfl
  have hHead : find? fields "head" =
      some (.ofFields
        [("type", .ofText "VarHead"), ("name", .ofText head)]) :=
    rfl
  have hRead : readPath fields span =
      .ok ⟨spelling, head, tail, span⟩ := by
    unfold readPath
    rw [hSpelling, hHead, hTail]
    rfl
  rw [Path.encode, readNode_encodeNode rfl rfl rfl hSpan,
    readTyped, hRead]
  rfl

/- Entries among which an invocation is found. -/
structure Carries
    (entries : List Entry)
    (i : Invocation) : Prop where
  path : find? entries "path" = i.callee.encode.present
  params :
    Document.fieldItems entries "params" =
      encodeExpressions i.params
  hash : find? entries "hash" = some i.hash.encode

mutual

/- An expression is read back. -/
theorem readExpression_encode
    (e : Expr)
    (hWritable : e.IsWritable) :
    readExpression e.encode = .ok e := by
  cases e with
  | absent =>
      rw [Expr.encode, readExpression, if_pos]
      decide
  | boolean value span =>
      rw [Expr.encode]
      apply readExpression_encodeNode
      rw [readNode_encodeNode rfl rfl rfl hWritable, readTyped,
        booleanField_of_bool rfl]
      rfl
  | null span =>
      rw [Expr.encode]
      apply readExpression_encodeNode
      rw [readNode_encodeNode rfl rfl rfl hWritable, readTyped]
  | undefined span =>
      rw [Expr.encode]
      apply readExpression_encodeNode
      rw [readNode_encodeNode rfl rfl rfl hWritable, readTyped]
  | number value span =>
      rw [Expr.encode]
      apply readExpression_encodeNode
      rw [readNode_encodeNode rfl rfl rfl hWritable.2, readTyped,
        numberField_of_print hWritable.1 rfl]
      rfl
  | string value span =>
      rw [Expr.encode]
      apply readExpression_encodeNode
      rw [readNode_encodeNode rfl rfl rfl hWritable, readTyped,
        textField_of_text rfl]
  | path p =>
      rw [Expr.encode]
      exact readExpression_encodeNode
        (readNode_encode_path p hWritable)
  | call i span =>
      rw [Expr.IsWritable] at hWritable
      rw [Expr.encode]
      apply readExpression_encodeNode
      rcases i with ⟨callee, params, ⟨pairs, hashSpan⟩⟩
      rw [readNode_encodeNode rfl rfl rfl hWritable.2, readTyped,
        readInvocation_of_carries _ hWritable.1
          ⟨rfl, rfl, rfl⟩]
      rfl

/- An invocation is read back from among other fields. -/
theorem readInvocation_of_carries :
    (i : Invocation) →
      {entries : List Entry} →
      (hWritable : i.IsWritable) →
      (hCarries : Carries entries i) →
      readInvocation entries = .ok i
  | ⟨callee, params, hash⟩, entries, hWritable, hCarries => by
    rw [Invocation.IsWritable] at hWritable
    rcases hWritable with ⟨hCallee, hParams, hHash⟩
    rw [readInvocation, hCarries.path,
      readExpressionField_present,
      readExpression_encode callee hCallee, hCarries.params,
      readExpressions_encode params hParams, hCarries.hash,
      readHashField_encode hash hHash]
    rfl

/- Expressions are read back. -/
theorem readExpressions_encode :
    (es : List Expr) →
      (hWritable : ExpressionsWritable es) →
      readExpressions (encodeExpressions es) = .ok es
  | [], _ => by
    rw [encodeExpressions, readExpressions]
  | e :: rest, hWritable => by
    rw [ExpressionsWritable] at hWritable
    rw [encodeExpressions, readExpressions,
      readExpression_encode e hWritable.1,
      readExpressions_encode rest hWritable.2]
    rfl

/- Named arguments are read back. -/
theorem readHashField_encode :
    (h : Hash) →
      (hWritable : h.IsWritable) →
      readHashField (some h.encode) = .ok h
  | ⟨pairs, span⟩, hWritable => by
    rw [Hash.IsWritable] at hWritable
    rw [Hash.encode, encodeNode, Node.ofFields, readHashField,
      spanField_nodeFields rfl hWritable.2, readHash,
      fieldItems_of_items rfl,
      readPairs_encode pairs hWritable.1]
    rfl

/- Named arguments are read back one by one. -/
theorem readPairs_encode :
    (pairs : List Pair) →
      (hWritable : PairsWritable pairs) →
      readPairs (encodePairs pairs) = .ok pairs
  | [], _ => by
    rw [encodePairs, readPairs]
  | ⟨key, value, span⟩ :: rest, hWritable => by
    rw [PairsWritable] at hWritable
    rcases hWritable with ⟨⟨hValue, hSpan⟩, hRest⟩
    rw [encodePairs, encodeNode, Node.ofFields, readPairs,
      Document.find?_eq_present rfl,
      readExpressionField_present,
      readExpression_encode value hValue,
      readPairs_encode rest hRest, textField_of_text rfl,
      spanField_nodeFields rfl hSpan]
    rfl

end

------------------------------------------------------------
-- Reading Statements
------------------------------------------------------------

theorem readNode_encode_text
    (run : TextRun)
    (hSpan : SpanWritable run.span) :
    readNode run.encode = .ok (.statement (.text run)) := by
  rw [TextRun.encode, readNode_encodeNode rfl rfl rfl hSpan,
    readTyped, textField_of_text rfl]

theorem readNode_encode_mustache
    (m : Mustache)
    (hWritable : m.IsWritable) :
    readNode m.encode = .ok (.statement (.mustache m)) := by
  rcases m with
    ⟨⟨callee, params, ⟨pairs, hashSpan⟩⟩, trusting, span⟩
  rcases hWritable with ⟨hInvocation, hSpan⟩
  rw [Mustache.encode, readNode_encodeNode rfl rfl rfl hSpan,
    readTyped,
    readInvocation_of_carries _ hInvocation ⟨rfl, rfl, rfl⟩,
    trustingField_of_bool rfl rfl]
  rfl

theorem readNode_encode_modifier
    (m : Modifier)
    (hWritable : m.IsWritable) :
    readNode m.encode = .ok (.statement (.modifier m)) := by
  rcases m with ⟨⟨callee, params, ⟨pairs, hashSpan⟩⟩, span⟩
  rcases hWritable with ⟨hInvocation, hSpan⟩
  rw [Modifier.encode, readNode_encodeNode rfl rfl rfl hSpan,
    readTyped,
    readInvocation_of_carries _ hInvocation ⟨rfl, rfl, rfl⟩]
  rfl

/- The parts of a concatenation are read back. -/
theorem readTextParts_encode
    (parts : List TextPart)
    (hWritable : ∀ part ∈ parts, part.IsWritable) :
    readTextParts (parts.map TextPart.encode) = .ok parts := by
  induction parts with
  | nil => rw [List.map_nil, readTextParts]
  | cons part rest ih =>
      rw [List.forall_mem_cons] at hWritable
      have hPart :
          (readNode part.encode).bind asTextPart = .ok part := by
        cases part with
        | absent => exact hWritable.1.elim
        | text run =>
            rw [TextPart.encode,
              readNode_encode_text run hWritable.1]
            rfl
        | mustache m =>
            rw [TextPart.encode,
              readNode_encode_mustache m hWritable.1]
            rfl
      rw [List.map_cons, readTextParts, hPart, ih hWritable.2]
      rfl

theorem readNode_encode_concat
    (c : Concat)
    (hWritable : c.IsWritable) :
    readNode c.encode = .ok (.statement (.concat c)) := by
  rw [Concat.encode,
    readNode_encodeNode rfl rfl rfl hWritable.2, readTyped,
    fieldItems_of_items rfl,
    readTextParts_encode c.parts hWritable.1]
  rfl

/- The value of an attribute is read back. -/
theorem readAttributeValue_encode
    (value : AttributeValue)
    (hWritable : value.IsWritable) :
    readAttributeValue value.encode.present = .ok value := by
  cases value with
  | absent => exact hWritable.elim
  | text run =>
      have hPresent : run.encode.present = some run.encode := rfl
      rw [AttributeValue.encode, hPresent, readAttributeValue,
        readNode_encode_text run hWritable]
      rfl
  | mustache m =>
      have hPresent : m.encode.present = some m.encode := rfl
      rw [AttributeValue.encode, hPresent, readAttributeValue,
        readNode_encode_mustache m hWritable]
      rfl
  | concat c =>
      have hPresent : c.encode.present = some c.encode := rfl
      rw [AttributeValue.encode, hPresent, readAttributeValue,
        readNode_encode_concat c hWritable]
      rfl

/- Attributes are read back. -/
theorem readAttributes_encode
    (attributes : List Attribute)
    (hWritable : ∀ a ∈ attributes, a.IsWritable) :
    readAttributes (attributes.map Attribute.encode) =
      .ok attributes := by
  induction attributes with
  | nil => rw [List.map_nil, readAttributes]
  | cons a rest ih =>
      rw [List.forall_mem_cons] at hWritable
      rcases a with ⟨name, value, span⟩
      rcases hWritable with ⟨⟨hValue, hSpan⟩, hRest⟩
      rw [List.map_cons, readAttributes, Attribute.encode,
        readNode_encodeNode rfl rfl rfl hSpan, readTyped,
        Document.find?_eq_present rfl,
        readAttributeValue_encode value hValue,
        textField_of_text rfl, ih hRest]
      rfl

/- Modifiers are read back. -/
theorem readModifiers_encode
    (modifiers : List Modifier)
    (hWritable : ∀ m ∈ modifiers, m.IsWritable) :
    readModifiers (modifiers.map Modifier.encode) =
      .ok modifiers := by
  induction modifiers with
  | nil => rw [List.map_nil, readModifiers]
  | cons m rest ih =>
      rw [List.forall_mem_cons] at hWritable
      rw [List.map_cons, readModifiers,
        readNode_encode_modifier m hWritable.1, ih hWritable.2]
      rfl

/- The comments of an opening tag are read back. -/
theorem readTagComments_encode
    (comments : List Comment)
    (hWritable : ∀ c ∈ comments, SpanWritable c.span) :
    (comments.map Comment.encodeInTag).mapM readTagComment =
      .ok comments := by
  induction comments with
  | nil => rfl
  | cons c rest ih =>
      rw [List.forall_mem_cons] at hWritable
      rcases c with ⟨value, span⟩
      have hComment :
          readTagComment (Comment.encodeInTag ⟨value, span⟩) =
            .ok ⟨value, span⟩ := by
        rw [Comment.encodeInTag, Comment.encode, encodeNode,
          Node.ofFields, readTagComment, textField_of_text rfl,
          spanField_nodeFields rfl hWritable.1]
      rw [List.map_cons, List.mapM_cons, hComment,
        ih hWritable.2]
      rfl

/- The body in a field is read from its own fields. -/
theorem readBlockField_encodeNode
    {type : String}
    {span : Option Span}
    {fields : List (String × Document.Node)}
    (hLoc :
      lastValue? "loc" (Document.entriesOf fields) = none)
    (hSpan : SpanWritable span) :
    readBlockField (encodeNode type span fields).present =
      readBlock
        (Document.entriesOf (nodeFields type span fields))
        span := by
  have hPresent :
      (encodeNode type span fields).present =
        some (.mapping
          (Document.entriesOf (nodeFields type span fields))
          0) := rfl
  rw [hPresent, readBlockField, spanField_nodeFields hLoc hSpan]

/- A comment of either kind is read back. -/
theorem readNode_encode_comment
    (c : Comment)
    (hSpan : SpanWritable c.span) :
    readNode (c.encode "CommentStatement") =
        .ok (.statement (.comment c)) ∧
      readNode (c.encode "MustacheCommentStatement") =
        .ok (.statement (.mustacheComment c)) := by
  constructor
  · rw [Comment.encode, readNode_encodeNode rfl rfl rfl hSpan,
      readTyped, textField_of_text rfl]
  · rw [Comment.encode, readNode_encodeNode rfl rfl rfl hSpan,
      readTyped, textField_of_text rfl]

mutual

/- A statement is read back. -/
theorem readNode_encode_statement
    (s : Statement)
    (hWritable : s.IsWritable) :
    readNode s.encode = .ok (.statement s) := by
  cases s with
  | absent => exact hWritable.elim
  | element e =>
      rw [Statement.encode]
      exact readNode_encode_element e hWritable
  | text run =>
      rw [Statement.encode]
      exact readNode_encode_text run hWritable
  | mustache m =>
      rw [Statement.encode]
      exact readNode_encode_mustache m hWritable
  | block b =>
      rw [Statement.encode]
      exact readNode_encode_block b hWritable
  | modifier m =>
      rw [Statement.encode]
      exact readNode_encode_modifier m hWritable
  | comment c =>
      rw [Statement.encode]
      exact (readNode_encode_comment c hWritable).1
  | mustacheComment c =>
      rw [Statement.encode]
      exact (readNode_encode_comment c hWritable).2
  | concat c =>
      rw [Statement.encode]
      exact readNode_encode_concat c hWritable

/- An element is read back. -/
theorem readNode_encode_element :
    (e : Element) →
      (hWritable : e.IsWritable) →
      readNode e.encode = .ok (.statement (.element e))
  | ⟨tag, selfClosing, params, attributes, modifiers, comments,
      body, span⟩, hWritable => by
    rw [Element.IsWritable] at hWritable
    rcases hWritable with
      ⟨⟨hAttributes, hModifiers, hComments⟩, hBody, hSpan⟩
    rw [Element.encode, readNode_encodeNode rfl rfl rfl hSpan,
      readTyped, readElement, fieldItems_of_items rfl,
      readAttributes_encode attributes hAttributes,
      fieldItems_of_items rfl,
      readModifiers_encode modifiers hModifiers,
      readStatements_of_items rfl,
      readStatementItems_encode body hBody,
      booleanField_of_bool rfl, textsField_of_texts rfl,
      fieldItems_of_items rfl,
      readTagComments_encode comments hComments,
      textField_of_text rfl]
    rfl

/- A block is read back. -/
theorem readNode_encode_block :
    (b : BlockStatement) →
      (hWritable : b.IsWritable) →
      readNode b.encode = .ok (.statement (.block b))
  | ⟨⟨callee, params, ⟨pairs, hashSpan⟩⟩, program, inverse,
      span⟩, hWritable => by
    rw [BlockStatement.IsWritable] at hWritable
    rcases hWritable with
      ⟨hInvocation, hProgram, hInverse, hSpan⟩
    rw [BlockStatement.encode,
      readNode_encodeNode rfl rfl rfl hSpan, readTyped,
      readInvocation_of_carries _ hInvocation ⟨rfl, rfl, rfl⟩,
      Document.find?_eq_present rfl,
      readBlockField_encode program hProgram,
      Document.find?_eq_present rfl,
      readBlockField_encode inverse hInverse]
    rfl

/- A body is read back, whether it is there or not. -/
theorem readBlockField_encode :
    (b : Block) →
      (hWritable : b.IsWritable) →
      readBlockField b.encode.present = .ok b
  | .absent, _ => by
    have hNone : Block.absent.encode.present = none := rfl
    rw [hNone, readBlockField]
  | .present body params chained span, hWritable => by
    rw [Block.IsWritable] at hWritable
    rw [Block.encode, readBlockField_encodeNode rfl hWritable.2,
      readBlock, readStatements_of_items rfl,
      readStatementItems_encode body hWritable.1,
      textsField_of_texts rfl, booleanField_of_bool rfl]
    rfl

/- Statements are read back. -/
theorem readStatementItems_encode :
    (body : List Statement) →
      (hWritable : StatementsWritable body) →
      readStatementItems (encodeStatements body) = .ok body
  | [], _ => by
    rw [encodeStatements, readStatementItems]
  | s :: rest, hWritable => by
    rw [StatementsWritable] at hWritable
    rw [encodeStatements, readStatementItems,
      readNode_encode_statement s hWritable.1,
      readStatementItems_encode rest hWritable.2]
    rfl

end

------------------------------------------------------------
-- Whole Templates
------------------------------------------------------------

/- A mapping that is a template is the template. -/
theorem ofDocument_of_readNode
    {line : Nat}
    {t : Template}
    (hRead :
      readNode (.mapping entries line) = .ok (.template t)) :
    ofDocument (.mapping entries line) = .ok t := by
  unfold ofDocument
  dsimp only
  rw [hRead]
  rfl

/- A template that can be written is read back. -/
theorem ofDocument_encode
    (t : Template)
    (hWritable : t.IsWritable) :
    ofDocument t.encode = .ok t := by
  rcases hWritable with ⟨hBody, hSpan⟩
  have hRead : readNode t.encode = .ok (.template t) := by
    rw [encode, readNode_encodeNode rfl rfl rfl hSpan,
      readTyped, readStatements_of_items rfl,
      readStatementItems_encode t.body hBody,
      textsField_of_texts rfl]
    rfl
  exact ofDocument_of_readNode hRead

/-
  An element with a span, whose attribute passes the negative
  zero to a helper.
-/
def titled : Template :=
  let span : Span := ⟨some ⟨"a.hbs", 1, 0⟩, some ⟨"a.hbs", 1, 22⟩⟩
  let title : Mustache :=
    ⟨⟨.path ⟨"f", "f", [], none⟩, [.number (.zero true) none],
        .empty⟩,
      false, none⟩
  ⟨[.element
      ⟨"p", true, [], [⟨"title", .mustache title, none⟩], [], [],
        [], some span⟩],
    [], none⟩

theorem ofDocument_encode_titled :
    titled.IsWritable ∧ ofDocument titled.encode = .ok titled := by
  have hNone : SpanWritable none := by
    intro s hSome
    cases hSome
  have hSpan : SpanWritable
      (some ⟨some ⟨"a.hbs", 1, 0⟩, some ⟨"a.hbs", 1, 22⟩⟩) := by
    rintro s ⟨⟩
    refine ⟨?_, ?_, ?_⟩
    · rintro start stop ⟨⟩ ⟨⟩
      rfl
    · rintro l ⟨⟩
      exact ⟨by decide, by decide⟩
    · rintro l ⟨⟩
      exact ⟨by decide, by decide⟩
  have hZero : (Number.zero true).IsWritable :=
    fun hNaN => absurd hNaN.1 (by decide)
  have hWritable : titled.IsWritable := by
    simp [titled, IsWritable, StatementsWritable,
      Statement.IsWritable, Element.IsWritable,
      Attribute.IsWritable, AttributeValue.IsWritable,
      Mustache.IsWritable, Invocation.IsWritable,
      ExpressionsWritable, Expr.IsWritable, Hash.empty,
      Hash.IsWritable, PairsWritable, hNone, hSpan, hZero]
  exact ⟨hWritable, ofDocument_encode titled hWritable⟩

end Template

end TemplateJsx
