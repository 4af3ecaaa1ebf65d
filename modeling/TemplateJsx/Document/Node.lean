import TemplateJsx.Document.ScalarText

/-
  This file defines the trees that the text of a document
  stands for. Order and repetition of keys are kept, and so
  is the line on which each node starts.

  Key definitions include:
    * `Document.Node`
    * `Document.Entry`
    * `Document.Node.line`
    * `Document.Node.text`
    * `Document.Node.items`
    * `Document.Node.IsNull`
    * `Document.lastValue?`
    * `Document.find?`
    * `Document.fieldItems`
-/

------------------------------------------------------------
-- Nodes
------------------------------------------------------------

namespace TemplateJsx

namespace Document

mutual

/-
  A node of a document. A reference keeps its name beside the
  node it refers to. If that node contains the reference, it
  is repeated only so often that what is read of it is there.
-/
inductive Node where
  | scalar (style : ScalarStyle) (text : String) (line : Nat)
  | sequence (items : List Node) (line : Nat)
  | mapping (entries : List Entry) (line : Nat)
  | reference
      (name : String) (target : Node) (line column : Nat)
  deriving Repr

/- A key of a mapping with its value. -/
structure Entry where
  key : Node
  value : Node
  deriving Repr

end

/- The plain scalars that stand for nothing. -/
def nullWords : List String :=
  ["", "~", "null", "Null", "NULL"]

namespace Node

/- The line on which a node starts, counted from one. -/
def line : Node → Nat
  | .scalar _ _ line => line
  | .sequence _ line => line
  | .mapping _ line => line
  | .reference _ _ line _ => line

/-
  The text of a scalar as it was written, or the name of a
  reference. Collections have no text.
-/
def text : Node → String
  | .scalar _ text _ => text
  | .sequence _ _ => ""
  | .mapping _ _ => ""
  | .reference name _ _ _ => name

/- The keys and values of entries, in turn. -/
def entryItems : List Entry → List Node
  | [] => []
  | ⟨key, value⟩ :: rest => key :: value :: entryItems rest

/-
  The nodes directly below a node. A reference is not
  followed.
-/
def items : Node → List Node
  | .scalar _ _ _ => []
  | .sequence items _ => items
  | .mapping entries _ => entryItems entries
  | .reference _ _ _ _ => []

/- The tag of scalars that stand for nothing. -/
def nullTag : String := "!!null"

/- A scalar that stands for nothing. -/
def IsNull : Node → Prop
  | .scalar .plain text _ => text ∈ nullWords
  | .scalar (.tagged tag) _ _ => tag = nullTag
  | _ => False

instance : (n : Node) → Decidable n.IsNull
  | .scalar .plain text _ => inferInstanceAs (Decidable (text ∈ _))
  | .scalar .quoted _ _ => .isFalse id
  | .scalar (.tagged tag) _ _ =>
      inferInstanceAs (Decidable (tag = _))
  | .sequence _ _ => .isFalse id
  | .mapping _ _ => .isFalse id
  | .reference _ _ _ _ => .isFalse id

end Node

------------------------------------------------------------
-- Fields of Mappings
------------------------------------------------------------

/- The value of the last entry with a key. -/
def lastValue?
    (key : String) : List Entry → Option Node
  | [] => none
  | ⟨k, value⟩ :: rest =>
      (lastValue? key rest).or
        (if k.text = key then some value else none)

/-
  The value of a key. Of several entries with the key the
  last counts, and a value that stands for nothing is the
  same as none.
-/
def find?
    (entries : List Entry)
    (key : String) : Option Node :=
  (lastValue? key entries).filter
    (fun value => decide (¬ value.IsNull))

/- Keys and values in turn are no larger than entries. -/
theorem Node.sizeOf_entryItems_le
    (entries : List Entry) :
    sizeOf (Node.entryItems entries) ≤ sizeOf entries := by
  induction entries with
  | nil => simp [Node.entryItems]
  | cons e rest ih =>
      cases e
      simp [Node.entryItems]
      omega

/- The nodes below a node are no larger than the node. -/
theorem Node.sizeOf_items_le
    (node : Node) :
    sizeOf node.items ≤ sizeOf node := by
  cases node with
  | scalar style text line => simp [Node.items]; omega
  | sequence items line => simp [Node.items]; omega
  | mapping entries line =>
      have := Node.sizeOf_entryItems_le entries
      simp [Node.items]
      omega
  | reference name target line column =>
      simp [Node.items]
      omega

/- A value is no larger than the entries it stands in. -/
theorem sizeOf_lastValue?_le
    (key : String)
    (entries : List Entry) :
    sizeOf (lastValue? key entries) ≤ sizeOf entries := by
  induction entries with
  | nil => simp [lastValue?]
  | cons e rest ih =>
      cases e with
      | mk k value =>
        simp only [lastValue?]
        cases h : lastValue? key rest with
        | some found =>
            rw [h] at ih
            simp at ih ⊢
            omega
        | none =>
            by_cases hk : k.text = key
            · simp [hk]
              omega
            · simp [hk]
              omega

/- A field is no larger than the entries it is found in. -/
theorem sizeOf_find?_le
    (entries : List Entry)
    (key : String) :
    sizeOf (find? entries key) ≤ sizeOf entries := by
  have bound := sizeOf_lastValue?_le key entries
  unfold find?
  cases h : lastValue? key entries with
  | none =>
      rw [h] at bound
      simpa using bound
  | some value =>
      rw [h] at bound
      by_cases hn : value.IsNull
      · simp [Option.filter, hn] at bound ⊢
        omega
      · simpa [Option.filter, hn] using bound

/- The nodes directly below a field of a mapping. -/
def fieldItems
    (entries : List Entry)
    (key : String) : List Node :=
  match find? entries key with
  | none => []
  | some node => node.items

/- The nodes below a field are no larger than the entries. -/
theorem sizeOf_fieldItems_le
    (entries : List Entry)
    (key : String) :
    sizeOf (fieldItems entries key) ≤ sizeOf entries := by
  have bound := sizeOf_find?_le entries key
  unfold fieldItems
  split
  next h => simpa [h] using bound
  next node h =>
    have := node.sizeOf_items_le
    simp [h] at bound
    omega

end Document

end TemplateJsx
