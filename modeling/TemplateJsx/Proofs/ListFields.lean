import TemplateJsx.Proofs.Encoding
import TemplateJsx.Proofs.Schema

/-
  Lists that are no sequences. Two fields of a template tree,
  the body of a template or a block and the children of an
  element, must be sequences, and a document is refused in
  which the reader comes to another one. For all other lists
  the reader takes what stands below the field: nothing below
  a scalar or a reference, and the keys and values of a
  mapping in turn. They are read as if they were written as a
  sequence.

  Key definitions include:
    * `Template.Reached`

  Main declarations:
    * `Template.Reached.refused`
    * `Template.readStatements_refused`
    * `Template.Role.read_eq_of_items`
    * `Template.malformed_list_outcome`
-/

------------------------------------------------------------
-- Nodes that are Reached
------------------------------------------------------------

namespace TemplateJsx

namespace Template

open Document (Entry find? fieldItems)

/-
  The nodes that the reader comes to, each in its role: what
  is read before them is not refused.
-/
inductive Reached
    (root : Document.Node) :
    Role →
      Document.Node →
      Prop where
  | top
      (hRoot : ∀ items line, root ≠ .sequence items line) :
      Reached root .root root
  | item
      {earlier later : List Document.Node}
      {line : Nat}
      {node : Document.Node}
      (hRoot : root = .sequence (earlier ++ node :: later) line)
      (hEarlier : ∀ other ∈ earlier,
        refusal? (Role.statement.read other) = none) :
      Reached root .statement node
  | inside
      {role : Role}
      {entries : List Entry}
      {line : Nat}
      {type : NodeType}
      {before after : List Field}
      {f : Field}
      {earlier later : List (Role × Document.Node)}
      {place : Role × Document.Node}
      (hReached : Reached root role (.mapping entries line))
      (hType : role.type? entries = some type)
      (hFields : type.fields = before ++ f :: after)
      (hBefore : ∀ g ∈ before,
        refusal? (g.read entries) = none)
      (hPlaces : f.places entries = earlier ++ place :: later)
      (hEarlier : ∀ other ∈ earlier,
        refusal? (other.1.read other.2) = none) :
      Reached root place.1 place.2

/- What is found in a list behind items without it. -/
theorem findSome?_append_cons
    {α β : Type}
    {find : α → Option β}
    {earlier : List α}
    {item : α}
    {found : β}
    (later : List α)
    (hEarlier : ∀ other ∈ earlier, find other = none)
    (hItem : find item = some found) :
    (earlier ++ item :: later).findSome? find = some found := by
  rw [List.findSome?_append,
    List.findSome?_eq_none_iff.mpr hEarlier, Option.none_or,
    findSome?_cons_eq_or, hItem, Option.some_or]

/- Where a node is reached, its refusal is that of the whole. -/
theorem Reached.refused
    {root : Document.Node}
    {role : Role}
    {node : Document.Node}
    {e : ReadError}
    (hReached : Reached root role node)
    (hRefused : refusal? (role.read node) = some e) :
    ofDocument root = .error e := by
  induction hReached with
  | top hRoot =>
      rw [ofDocument_eq_read hRoot]
      exact refusal?_eq_some.mp hRefused
  | @item earlier later line node hRoot hEarlier =>
      have hItems :
          refusal? ((earlier ++ node :: later).mapM
            Role.statement.read) = some e := by
        rw [refusal?_mapM]
        exact findSome?_append_cons later hEarlier hRefused
      rw [hRoot, ofDocument, readStatementItems_eq_mapM,
        refusal?_eq_some.mp hItems]
      rfl
  | @inside role entries line type before after f earlier later
      place hReached hType hFields hBefore hPlaces hEarlier ih =>
      -- The refusal goes up: from the place to its field, and
      -- from there to the node that has the field.
      have hSome : f.places entries ≠ [] := by
        rw [hPlaces]
        exact List.append_ne_nil_of_right_ne_nil _
          (List.cons_ne_nil _ _)
      have hField : refusal? (f.read entries) = some e := by
        rw [refusal?_eq_findSome?_places hSome, hPlaces]
        exact findSome?_append_cons later hEarlier hRefused
      refine ih (Role.refusal?_read_mapping line hType ?_)
      rw [refusal?_readFields, hFields]
      exact findSome?_append_cons after hBefore hField

------------------------------------------------------------
-- Lists that Must be Sequences
------------------------------------------------------------

/- Behind a find there is that find or an earlier one. -/
theorem exists_findSome?_append_cons
    {α β : Type}
    {item : α}
    {found : β}
    (find : α → Option β)
    (earlier later : List α)
    (hItem : find item = some found) :
    ∃ first,
      (earlier ++ item :: later).findSome? find = some first ∧
        (first = found ∨
          ∃ other ∈ earlier, find other = some first) := by
  cases hEarlier : earlier.findSome? find with
  | none =>
      refine ⟨found, ?_, Or.inl rfl⟩
      exact findSome?_append_cons later
        (List.findSome?_eq_none_iff.mp hEarlier) hItem
  | some first =>
      refine ⟨first, ?_, Or.inr ?_⟩
      · rw [List.findSome?_append, hEarlier, Option.some_or]
      · exact List.exists_of_findSome?_eq_some hEarlier

/- A body that is no sequence is refused. -/
theorem refusal?_read_statements
    {entries : List Entry}
    {key : String}
    {value : Document.Node}
    (hValue : find? entries key = some value)
    (hMalformed : ∀ items line, value ≠ .sequence items line) :
    refusal? (Field.read ⟨key, .statements⟩ entries) =
      some (.notStatements value.line) := by
  change refusal? (readStatements (find? entries key)) = _
  rw [hValue, readStatements_of_not_sequence hMalformed]
  rfl

/-
  Where a node is reached, a field that is refused refuses
  the whole, unless an earlier field has done so.
-/
theorem Reached.refused_by_field
    {root : Document.Node}
    {role : Role}
    {entries : List Entry}
    {line : Nat}
    {type : NodeType}
    {before after : List Field}
    {f : Field}
    {e : ReadError}
    (hReached : Reached root role (.mapping entries line))
    (hType : role.type? entries = some type)
    (hFields : type.fields = before ++ f :: after)
    (hRefused : refusal? (f.read entries) = some e) :
    ∃ first, ofDocument root = .error first ∧
      (first = e ∨
        ∃ g ∈ before, refusal? (g.read entries) = some first) := by
  rcases exists_findSome?_append_cons
      (fun g => refusal? (g.read entries)) before after
      hRefused with
    ⟨first, hFirst, hOrigin⟩
  refine ⟨first, hReached.refused ?_, hOrigin⟩
  refine Role.refusal?_read_mapping line hType ?_
  rw [refusal?_readFields, hFields]
  exact hFirst

------------------------------------------------------------
-- Lists that are Not Checked
------------------------------------------------------------

/- A list of what stands below a field, whatever that is. -/
def Slot.isList : Slot → Bool
  | .list _ => true
  | _ => false

/- The keys under which such lists stand. -/
def listKeys : List String :=
  ["attributes", "modifiers", "comments", "params", "pairs",
    "parts"]

/-
  A list stands under a key of its own, and not in a path,
  which has parts of another kind.
-/
theorem list_fields
    (type : NodeType) :
    ∀ f ∈ type.fields, f.slot.isList = true →
      f.key ∈ listKeys ∧
        ∀ g ∈ type.fields,
          g.slot ≠ .path ∧ (g.key = f.key → g = f) := by
  cases type <;> decide

/- What is not a text, a mark or a span by its key. -/
theorem listKeys_apart :
    ∀ key ∈ listKeys,
      key ∉ textKeys ∧ key ≠ "loc" ∧ key ≠ "trusting" ∧
        key ≠ "escaped" := by
  decide

section Unchecked

variable {entries other : List Entry}
variable {key : String}
variable
  (hApart : ∀ k, k ≠ key → find? entries k = find? other k)

include hApart

/- Texts and the span do not depend on the lists. -/
theorem sameTexts_of_apart
    (hKey : key ∈ listKeys) :
    SameTexts entries other := by
  rcases listKeys_apart key hKey with ⟨hText, hLoc, _, _⟩
  refine ⟨?_, ?_⟩
  · intro k hMember
    have hOther : k ≠ key := fun h => hText (h ▸ hMember)
    unfold textField
    rw [hApart k hOther]
  · unfold spanField
    rw [hApart "loc" hLoc.symm]

/- Nor do the other fields. -/
theorem Field.read_of_apart
    {g : Field}
    (hKey : key ∈ listKeys)
    (hOther : g.key ≠ key)
    (hPath : g.slot ≠ .path) :
    g.read entries = g.read other := by
  rcases g with ⟨k, slot⟩
  have hFound : find? entries k = find? other k :=
    hApart k hOther
  cases slot with
  | statements =>
      exact congrArg readStatements hFound
  | list role =>
      change (fieldItems entries k).mapM role.read =
        (fieldItems other k).mapM role.read
      unfold fieldItems
      rw [hFound]
  | one role => exact congrArg (Option.mapM role.read) hFound
  | texts =>
      change textsField entries k = textsField other k
      unfold textsField typedField
      rw [hFound]
  | truth =>
      change booleanField entries k = booleanField other k
      unfold booleanField typedField
      rw [hFound]
  | number =>
      change numberField entries k = numberField other k
      unfold numberField textField
      rw [hFound]
  | trusting =>
      rcases listKeys_apart key hKey with
        ⟨_, _, hTrusting, hEscaped⟩
      change trustingField entries = trustingField other
      unfold trustingField booleanField typedField
      rw [hApart "trusting" hTrusting.symm,
        hApart "escaped" hEscaped.symm]
  | path => exact absurd rfl hPath

/-
  A list that is not checked is read like the sequence of
  what stands below it.
-/
theorem Role.read_eq_of_items
    {role item : Role}
    {type : NodeType}
    {value : Document.Node}
    {start : Nat}
    (line : Nat)
    (hType : role.type? entries = some type)
    (hField : ⟨key, .list item⟩ ∈ type.fields)
    (hValue : find? entries key = some value)
    (hItems :
      find? other key = some (.sequence value.items start)) :
    role.read (.mapping entries line) =
      role.read (.mapping other line) := by
  rcases list_fields type _ hField rfl with ⟨hKey, hFields⟩
  have hTexts : SameTexts entries other :=
    sameTexts_of_apart hApart hKey
  have hTypes : role.type? other = some type := by
    rw [← hType]
    unfold Role.type?
    rw [hTexts.texts "type" (by decide)]
  rw [read_mapping line hType, read_mapping line hTypes]
  congr 1
  refine readFields_congr ?_ hTexts
  intro g hMember
  rcases hFields g hMember with ⟨hPath, hSame⟩
  by_cases hOther : g.key = key
  · rw [hSame hOther]
    change (fieldItems entries key).mapM item.read =
      (fieldItems other key).mapM item.read
    unfold fieldItems
    rw [hValue, hItems]
    rfl
  · exact Field.read_of_apart hApart hKey hOther hPath

end Unchecked

/- Nothing stands below a scalar or a reference. -/
theorem items_eq_nil
    {node : Document.Node}
    (hSequence : ∀ items line, node ≠ .sequence items line)
    (hMapping : ∀ entries line, node ≠ .mapping entries line) :
    node.items = [] := by
  cases node with
  | scalar style text line => rfl
  | sequence items line => exact absurd rfl (hSequence items line)
  | mapping entries line => exact absurd rfl (hMapping entries line)
  | reference name target line column => rfl

------------------------------------------------------------
-- Malformed Lists
------------------------------------------------------------

/-
  What becomes of a list that is no sequence, where the
  reader comes to it. A body or children are refused, if
  nothing was refused before. Any other list is read as if
  what stands below it were written as a sequence, and as
  empty if it is no mapping.
-/
theorem malformed_list_outcome
    (root : Document.Node)
    (role : Role)
    (entries : List Entry)
    (line : Nat)
    (type : NodeType)
    (key : String)
    (value : Document.Node)
    (hReached : Reached root role (.mapping entries line))
    (hType : role.type? entries = some type)
    (hValue : find? entries key = some value)
    (hMalformed : ∀ items line, value ≠ .sequence items line) :
    (∀ before after,
        type.fields = before ++ ⟨key, .statements⟩ :: after →
        ∃ e, ofDocument root = .error e ∧
          (e = .notStatements value.line ∨
            ∃ g ∈ before,
              refusal? (g.read entries) = some e)) ∧
      ∀ item, ⟨key, .list item⟩ ∈ type.fields →
        ((∀ below line, value ≠ .mapping below line) →
            (Slot.list item).read entries key = .ok []) ∧
          ∀ other start,
            (∀ k, k ≠ key → find? entries k = find? other k) →
            find? other key =
              some (.sequence value.items start) →
            role.read (.mapping entries line) =
              role.read (.mapping other line) := by
  constructor
  · intro before after hFields
    exact hReached.refused_by_field hType hFields
      (refusal?_read_statements hValue hMalformed)
  · intro item hField
    constructor
    · intro hMapping
      change (fieldItems entries key).mapM item.read = _
      unfold fieldItems
      rw [hValue]
      dsimp only
      rw [items_eq_nil hMalformed hMapping]
      rfl
    · intro other start hApart hItems
      exact Role.read_eq_of_items hApart line hType hField
        hValue hItems

/- A call of `f` with the given arguments. -/
def called (params : Document.Node) : List Entry :=
  [⟨.ofPlain "type", .ofPlain "MustacheStatement"⟩,
    ⟨.ofPlain "path",
      .mapping
        [⟨.ofPlain "type", .ofPlain "PathExpression"⟩,
          ⟨.ofPlain "original", .ofPlain "f"⟩] 1⟩,
    ⟨.ofPlain "params", params⟩]

/- A template with the given body. -/
def bodied (body : Document.Node) : List Entry :=
  [⟨.ofPlain "type", .ofPlain "Template"⟩,
    ⟨.ofPlain "body", body⟩]

theorem malformed_list_outcome_word :
    ofDocument (.mapping (bodied (.ofPlain "x")) 1) =
        .error (.notStatements 0) ∧
      ofDocument (.mapping (called (.ofPlain "x")) 1) =
        ofDocument (.mapping (called (.ofItems [])) 1) := by
  have hBodied := malformed_list_outcome
    (.mapping (bodied (.ofPlain "x")) 1) .root _ 1 .template
    "body" (.ofPlain "x") (.top (by simp)) (by decide) rfl
    (by simp [Document.Node.ofPlain])
  have hCalled := malformed_list_outcome
    (.mapping (called (.ofPlain "x")) 1) .root _ 1 .mustache
    "params" (.ofPlain "x") (.top (by simp)) (by decide) rfl
    (by simp [Document.Node.ofPlain])
  constructor
  · rcases hBodied.1 [] [⟨"blockParams", .texts⟩] rfl with
      ⟨e, hError, rfl | ⟨g, hNone, _⟩⟩
    · exact hError
    · cases hNone
  · rw [ofDocument_eq_read (by simp),
      ofDocument_eq_read (by simp)]
    refine (hCalled.2 .expression (by decide)).2 _ 0 ?_ rfl
    intro k hOther
    simp [called, find?, Document.lastValue?,
      Document.Node.ofPlain, Document.Node.text, hOther.symm]

/- The argument is dropped, and nothing is refused. -/
theorem malformed_list_dropped :
    Reached (.mapping (called (.ofPlain "x")) 1) .root
        (.mapping (called (.ofPlain "x")) 1) ∧
      find? (called (.ofPlain "x")) "params" =
        some (.ofPlain "x") ∧
      ofDocument (.mapping (called (.ofPlain "x")) 1) =
        .ok ⟨[.mustache
          ⟨⟨.path ⟨"f", "f", [], none⟩, [], .empty⟩, false,
            none⟩], [], none⟩ := by
  exact ⟨.top (by simp), rfl, by cbv⟩

end Template

end TemplateJsx
