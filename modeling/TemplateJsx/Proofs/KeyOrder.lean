import Mathlib.Data.List.Forall2
import TemplateJsx.Proofs.Encoding
import TemplateJsx.Proofs.Schema

/-
  The order of keys. A document is reordered by moving the
  entries of mappings whose keys differ, at any depth, while
  every node keeps its line. The fields of a mapping are then
  found as before, each with a reordered value, and what is
  read of the document stays the same: the tree with its
  spans, or the error.

  Lists are the exception, where the reader takes whatever
  stands below a field. The entries of a mapping in the place
  of a list would be its items, in the order they stand.

  Key definitions include:
    * `Document.Alike`
    * `Document.Distinct`
    * `Document.Node.Reordered`
    * `Template.Visits`
    * `Template.HasSequences`

  Main declarations:
    * `Document.lastValue?_perm`
    * `Document.find?_reordered`
    * `Document.readTexts_reordered`
    * `Template.Field.read_reordered`
    * `Template.Role.read_reordered`
    * `Template.ofDocument_reordered`
-/

------------------------------------------------------------
-- Reordered Documents
------------------------------------------------------------

namespace TemplateJsx

namespace Document

/-
  Keys that are not told apart: a field is found by the text
  of its key, and a mapping repeats a key if it has the same
  form and text. It is the text that is compared, so that
  style and value do not count: a plain `1` and a quoted one
  are alike. Collections have no text; two sequences are
  alike whatever is in them, and so are two mappings.
-/
def Alike (a b : Node) : Prop :=
  (a.text ≠ "" ∧ a.text = b.text) ∨ sameKey a b = true

instance (a b : Node) : Decidable (Alike a b) := by
  unfold Alike
  infer_instance

/- Entries whose keys are told apart from each other. -/
def Distinct (entries : List Entry) : Prop :=
  entries.Pairwise (fun a b => ¬ Alike a.key b.key)

instance (entries : List Entry) : Decidable (Distinct entries) := by
  unfold Distinct
  infer_instance

mutual

/-
  A document with the entries of some mappings in another
  order.
-/
inductive Node.Reordered : Node → Node → Prop where
  | scalar
      (style : ScalarStyle) (text : String) (line : Nat) :
      Node.Reordered
        (.scalar style text line)
        (.scalar style text line)
  | sequence
      {a b : List Node}
      (line : Nat)
      (hItems : List.Forall₂ Node.Reordered a b) :
      Node.Reordered (.sequence a line) (.sequence b line)
  | mapping
      {a b c : List Entry}
      (line : Nat)
      (hEntries : List.Forall₂ Entry.Reordered a b)
      (hOrder : b = c ∨ Distinct b ∧ b.Perm c) :
      Node.Reordered (.mapping a line) (.mapping c line)
  | reference
      (name : String)
      {a b : Node}
      (line column : Nat)
      (hTarget : Node.Reordered a b) :
      Node.Reordered
        (.reference name a line column)
        (.reference name b line column)

/- An entry whose key and value may be reordered inside. -/
inductive Entry.Reordered : Entry → Entry → Prop where
  | mk
      {a b : Entry}
      (hKey : Node.Reordered a.key b.key)
      (hValue : Node.Reordered a.value b.value) :
      Entry.Reordered a b

end

theorem Entry.Reordered.key
    {a b : Entry}
    (hSame : a.Reordered b) :
    a.key.Reordered b.key := by
  cases hSame with
  | mk hKey hValue => exact hKey

theorem Entry.Reordered.value
    {a b : Entry}
    (hSame : a.Reordered b) :
    a.value.Reordered b.value := by
  cases hSame with
  | mk hKey hValue => exact hValue

namespace Node.Reordered

variable {a b : Node}

theorem line_eq
    (hSame : a.Reordered b) :
    a.line = b.line := by
  cases hSame <;> rfl

theorem text_eq
    (hSame : a.Reordered b) :
    a.text = b.text := by
  cases hSame <;> rfl

theorem isNull_iff
    (hSame : a.Reordered b) :
    a.IsNull ↔ b.IsNull := by
  cases hSame <;> exact Iff.rfl

end Node.Reordered

------------------------------------------------------------
-- Fields of Reordered Mappings
------------------------------------------------------------

theorem Alike.symm
    {a b : Node}
    (hAlike : Alike a b) :
    Alike b a := by
  rcases hAlike with ⟨hSome, hText⟩ | hForm
  · exact Or.inl ⟨hText ▸ hSome, hText.symm⟩
  · refine Or.inr ?_
    cases a <;> cases b <;> simp_all [sameKey]

/- Entries stay distinct in another order. -/
theorem Distinct.perm
    {a b : List Entry}
    (hDistinct : Distinct a)
    (hPerm : a.Perm b) :
    Distinct b :=
  hPerm.pairwise hDistinct
    (fun hApart hAlike => hApart hAlike.symm)

/-
  The value of a key that no other entry has is found in any
  order.
-/
theorem lastValue?_perm
    {a b : List Entry}
    {key : String}
    (hPerm : a.Perm b)
    (hDistinct : Distinct a)
    (hKey : key ≠ "") :
    lastValue? key a = lastValue? key b := by
  induction hPerm with
  | nil => rfl
  | cons e hPerm ih =>
      rcases e with ⟨k, value⟩
      rw [lastValue?, lastValue?, ih hDistinct.tail]
  | swap x y rest =>
      rcases x with ⟨k, value⟩
      rcases y with ⟨l, other⟩
      have hApart : ¬ Alike l k :=
        List.rel_of_pairwise_cons hDistinct
          (List.mem_cons_self ..)
      -- Two entries change places: at most one has the key.
      have hOnce : ¬ (l.text = key ∧ k.text = key) := by
        rintro ⟨hFirst, hSecond⟩
        refine hApart (Or.inl ⟨?_, hFirst.trans hSecond.symm⟩)
        rwa [hFirst]
      simp only [lastValue?, Option.or_assoc]
      by_cases hFirst : l.text = key
      · have hSecond : k.text ≠ key :=
          fun hSecond => hOnce ⟨hFirst, hSecond⟩
        rw [if_pos hFirst, if_neg hSecond, Option.none_or,
          Option.or_none]
      · rw [if_neg hFirst, Option.none_or, Option.or_none]
  | trans hFirst hSecond ihFirst ihSecond =>
      rw [ihFirst hDistinct, ihSecond (hDistinct.perm hFirst)]

section Values

variable {a b c d : Option Node}

theorem rel_or
    (hFirst : Option.Rel Node.Reordered a b)
    (hSecond : Option.Rel Node.Reordered c d) :
    Option.Rel Node.Reordered (a.or c) (b.or d) := by
  cases hFirst with
  | some hValue => exact .some hValue
  | none => exact hSecond

/- A value stands for nothing in both orders, or in none. -/
theorem rel_filter
    (hSame : Option.Rel Node.Reordered a b) :
    Option.Rel Node.Reordered
      (a.filter (fun value => decide (¬ value.IsNull)))
      (b.filter (fun value => decide (¬ value.IsNull))) := by
  cases hSame with
  | none => exact .none
  | @some x y hValue =>
      by_cases hNull : x.IsNull
      · have hOther := hValue.isNull_iff.mp hNull
        simp [Option.filter_some, hNull, hOther]
      · have hOther := mt hValue.isNull_iff.mpr hNull
        simpa [Option.filter_some, hNull, hOther] using
          Option.Rel.some hValue

theorem rel_cases
    (hSame : Option.Rel Node.Reordered a b) :
    (a = none ∧ b = none) ∨
      ∃ x y, a = some x ∧ b = some y ∧ x.Reordered y := by
  cases hSame with
  | none => exact Or.inl ⟨rfl, rfl⟩
  | some hValue => exact Or.inr ⟨_, _, rfl, rfl, hValue⟩

end Values

/- Entry by entry, the value of a key is reordered inside. -/
theorem lastValue?_forall₂
    {a b : List Entry}
    (key : String)
    (hEntries : List.Forall₂ Entry.Reordered a b) :
    Option.Rel Node.Reordered
      (lastValue? key a) (lastValue? key b) := by
  induction hEntries with
  | nil => exact .none
  | @cons x y _ _ hEntry hEntries ih =>
      rcases x with ⟨k, value⟩
      rcases y with ⟨l, other⟩
      have hText : k.text = l.text := hEntry.key.text_eq
      rw [lastValue?, lastValue?, hText]
      refine rel_or ih ?_
      by_cases hFound : l.text = key
      · rw [if_pos hFound, if_pos hFound]
        exact .some hEntry.value
      · rw [if_neg hFound, if_neg hFound]
        exact .none

section Fields

variable {a b : List Entry}
variable {line : Nat}
variable {key : String}

/- The same fields are found, each with a reordered value. -/
theorem find?_reordered
    (hSame : (Node.mapping a line).Reordered (.mapping b line))
    (hKey : key ≠ "") :
    (find? a key = none ∧ find? b key = none) ∨
      ∃ x y, find? a key = some x ∧ find? b key = some y ∧
        x.Reordered y := by
  refine rel_cases (rel_filter ?_)
  cases hSame with
  | mapping line hEntries hOrder =>
      have hRelated := lastValue?_forall₂ key hEntries
      rcases hOrder with rfl | ⟨hDistinct, hPerm⟩
      · exact hRelated
      · rwa [lastValue?_perm hPerm hDistinct hKey] at hRelated

end Fields

------------------------------------------------------------
-- Values of Reordered Nodes
------------------------------------------------------------

/- Forms and texts of keys stay as they are. -/
theorem sameKey_reordered
    {a b c d : Node}
    (hFirst : a.Reordered b)
    (hSecond : c.Reordered d) :
    sameKey a c = sameKey b d := by
  cases hFirst <;> cases hSecond <;> rfl

/- Distinct entries repeat no key. -/
theorem repeatedKeys_of_distinct
    {entries : List Entry}
    (hDistinct : Distinct entries) :
    repeatedKeys entries = [] := by
  induction entries with
  | nil => rfl
  | cons e rest ih =>
      have hNone :
          rest.filter (fun later => sameKey e.key later.key) =
            [] := by
        rw [List.filter_eq_nil_iff]
        intro later hLater hForm
        exact List.rel_of_pairwise_cons hDistinct hLater
          (Or.inr hForm)
      rw [repeatedKeys, hNone, ih hDistinct.tail]
      rfl

/- Entry by entry, the later uses of a key are the same. -/
theorem laterUses_forall₂
    {x y : Node}
    {a b : List Entry}
    (hKey : x.Reordered y)
    (hEntries : List.Forall₂ Entry.Reordered a b) :
    (a.filter (fun later => sameKey x later.key)).map
        (fun later =>
          Mismatch.repeated later.key.line later.key.text
            x.line) =
      (b.filter (fun later => sameKey y later.key)).map
        (fun later =>
          Mismatch.repeated later.key.line later.key.text
            y.line) := by
  induction hEntries with
  | nil => rfl
  | cons hEntry hEntries ih =>
      have hForm := sameKey_reordered hKey hEntry.key
      rw [List.filter_cons, List.filter_cons, hForm]
      split
      · rw [List.map_cons, List.map_cons, ih, hKey.line_eq,
          hEntry.key.line_eq, hEntry.key.text_eq]
      · exact ih

theorem repeatedKeys_forall₂
    {a b : List Entry}
    (hEntries : List.Forall₂ Entry.Reordered a b) :
    repeatedKeys a = repeatedKeys b := by
  induction hEntries with
  | nil => rfl
  | cons hEntry hEntries ih =>
      rw [repeatedKeys, repeatedKeys, ih,
        laterUses_forall₂ hEntry.key hEntries]

/- A mapping where something else is wanted is refused alike. -/
theorem unwantedMapping_reordered
    {a b : List Entry}
    {line : Nat}
    (wanted : String)
    (hSame : (Node.mapping a line).Reordered (.mapping b line)) :
    unwantedMapping a line wanted =
      unwantedMapping b line wanted := by
  cases hSame with
  | mapping line hEntries hOrder =>
      have hKeys := repeatedKeys_forall₂ hEntries
      unfold unwantedMapping
      rcases hOrder with rfl | ⟨hDistinct, hPerm⟩
      · rw [hKeys]
      · rw [hKeys, repeatedKeys_of_distinct hDistinct,
          repeatedKeys_of_distinct (hDistinct.perm hPerm)]

theorem readUnwanted_reordered
    {a b : Node}
    (wanted : String)
    (hSame : a.Reordered b) :
    readUnwanted wanted a = readUnwanted wanted b := by
  cases hSame with
  | scalar style text line => rfl
  | sequence line hItems => rfl
  | reference name line column hTarget => rfl
  | mapping line hEntries hOrder =>
      have hUnwanted := unwantedMapping_reordered wanted
        (.mapping line hEntries hOrder)
      exact congrArg Reading.mismatchAll hUnwanted

theorem readScalar_reordered
    {α : Type}
    {a b : Node}
    (wanted : String)
    (read : Scalar → String → Option α)
    (hSame : a.Reordered b) :
    readScalar wanted read a = readScalar wanted read b := by
  have hUnwanted := readUnwanted_reordered wanted hSame
  cases hSame with
  | scalar style text line => rfl
  | sequence line hItems => rfl
  | reference name line column hTarget => rfl
  | mapping line hEntries hOrder =>
      simp only [readScalar, hUnwanted]

/- References are followed to reordered nodes. -/
theorem readTarget_reordered
    {α : Type}
    {read : Trail → Node → Reading α}
    (hRead : ∀ trail a b, a.Reordered b →
      read trail a = read trail b)
    (trail : Trail)
    (a b : Node)
    (hSame : a.Reordered b) :
    readTarget read trail a = readTarget read trail b := by
  cases hSame with
  | reference name line column hTarget =>
      have hRest := readTarget_reordered hRead
        ((line, column) :: trail) _ _ hTarget
      simp only [readTarget, hRest]
  | scalar style text line => rfl
  | sequence line hItems =>
      simp only [readTarget,
        hRead trail _ _ (.sequence line hItems)]
  | mapping line hEntries hOrder =>
      simp only [readTarget,
        hRead trail _ _ (.mapping line hEntries hOrder)]
termination_by sizeOf a

theorem readItems_reordered
    {a b : List Node}
    (trail : Trail)
    (hItems : List.Forall₂ Node.Reordered a b) :
    readItems trail a = readItems trail b := by
  induction hItems with
  | nil => rfl
  | @cons x y _ _ hItem hItems ih =>
      have hText : readText trail x = readText trail y :=
        readTarget_reordered
          (fun _ _ _ => readScalar_reordered _ _) trail x y hItem
      rw [readItems, readItems, hText, ih]

theorem readTexts_reordered
    {a b : Node}
    (trail : Trail)
    (hSame : a.Reordered b) :
    readTexts trail a = readTexts trail b := by
  refine readTarget_reordered ?_ trail a b hSame
  intro trail a b hSame
  have hUnwanted := readUnwanted_reordered "[]string" hSame
  cases hSame with
  | scalar style text line => rfl
  | sequence line hItems => exact readItems_reordered trail hItems
  | reference name line column hTarget => rfl
  | mapping line hEntries hOrder => simp only [hUnwanted]

theorem readBoolean_reordered
    {a b : Node}
    (trail : Trail)
    (hSame : a.Reordered b) :
    readBoolean trail a = readBoolean trail b :=
  readTarget_reordered
    (fun _ _ _ => readScalar_reordered _ _) trail a b hSame

end Document

------------------------------------------------------------
-- Fields of Reordered Nodes
------------------------------------------------------------

namespace Template

open Document (Entry find? fieldItems)

section Fields

variable {a b : List Entry}
variable {line : Nat}
variable {key : String}
variable
  (hSame :
    (Document.Node.mapping a line).Reordered (.mapping b line))

include hSame

theorem textField_reordered
    (hKey : key ≠ "") :
    textField a key = textField b key := by
  unfold textField
  rcases Document.find?_reordered hSame hKey with
    ⟨hA, hB⟩ | ⟨x, y, hA, hB, hValue⟩
  · rw [hA, hB]
  · rw [hA, hB, Option.map_some, Option.map_some, hValue.text_eq]

theorem typedField_reordered
    {α : Type}
    {read : Document.Node → Document.Reading α}
    (fallback : α)
    (hRead : ∀ x y, x.Reordered y → read x = read y)
    (hKey : key ≠ "") :
    typedField read fallback a key =
      typedField read fallback b key := by
  unfold typedField
  rcases Document.find?_reordered hSame hKey with
    ⟨hA, hB⟩ | ⟨x, y, hA, hB, hValue⟩
  · rw [hA, hB]
  · simp only [hA, hB, hRead x y hValue]

theorem booleanField_reordered
    (hKey : key ≠ "") :
    booleanField a key = booleanField b key := by
  refine typedField_reordered hSame false ?_ hKey
  intro x y hValue
  rw [Document.readBoolean_reordered [] hValue]

theorem textsField_reordered
    (hKey : key ≠ "") :
    textsField a key = textsField b key :=
  typedField_reordered hSame []
    (fun _ _ => Document.readTexts_reordered []) hKey

theorem locationField_reordered
    (file : String)
    (hKey : key ≠ "") :
    locationField file a key = locationField file b key := by
  unfold locationField
  rcases Document.find?_reordered hSame hKey with
    ⟨hA, hB⟩ | ⟨x, y, hA, hB, hValue⟩
  · rw [hA, hB]
  · rw [hA, hB]
    cases hValue with
    | scalar style text line => rfl
    | sequence line hItems => rfl
    | reference name line column hTarget => rfl
    | mapping line hEntries hOrder =>
        have hPosition := Document.Node.Reordered.mapping line
          hEntries hOrder
        simp (disch := decide) only
          [textField_reordered hPosition]

theorem spanField_reordered :
    spanField a = spanField b := by
  have hLoc : "loc" ≠ "" := by decide
  unfold spanField
  rcases Document.find?_reordered hSame hLoc with
    ⟨hA, hB⟩ | ⟨x, y, hA, hB, hValue⟩
  · rw [hA, hB]
  · rw [hA, hB]
    cases hValue with
    | scalar style text line => rfl
    | sequence line hItems => rfl
    | reference name line column hTarget => rfl
    | mapping line hEntries hOrder =>
        have hSpan := Document.Node.Reordered.mapping line
          hEntries hOrder
        simp (disch := decide) only [textField_reordered hSpan,
          locationField_reordered hSpan]

theorem sameTexts_of_reordered :
    SameTexts a b := by
  have hKeys : ∀ key ∈ textKeys, key ≠ "" := by decide
  refine ⟨?_, spanField_reordered hSame⟩
  intro key hKey
  exact textField_reordered hSame (hKeys key hKey)

/- A path is read alike, with whatever fields it is given. -/
theorem readPath_reordered
    (span : Option Span) :
    readPath a span = readPath b span := by
  have hSpelling : textField a "original" = textField b "original" :=
    textField_reordered hSame (by decide)
  have hTail : textsField a "tail" = textsField b "tail" :=
    textsField_reordered hSame (by decide)
  have hTexts : textsField a "parts" = textsField b "parts" :=
    textsField_reordered hSame (by decide)
  have hThis : booleanField a "this" = booleanField b "this" :=
    booleanField_reordered hSame (by decide)
  have hData : booleanField a "data" = booleanField b "data" :=
    booleanField_reordered hSame (by decide)
  have hHead : "head" ≠ "" := by decide
  have hParts : "parts" ≠ "" := by decide
  unfold readPath
  rw [hSpelling, hTail, hTexts, hThis, hData]
  rcases Document.find?_reordered hSame hHead with
    ⟨hA, hB⟩ | ⟨x, y, hA, hB, hValue⟩
  · rw [hA, hB]
    rcases Document.find?_reordered hSame hParts with
      ⟨hA, hB⟩ | ⟨x, y, hA, hB, hValue⟩
    · rw [hA, hB]
    · rw [hA, hB]
  · rw [hA, hB]
    cases hValue with
    | scalar style text line => rfl
    | sequence line hItems => rfl
    | reference name line column hTarget => rfl
    | mapping line hEntries hOrder =>
        have hHead := Document.Node.Reordered.mapping line
          hEntries hOrder
        unfold readHead
        simp (disch := decide) only [textField_reordered hHead]

theorem trustingField_reordered :
    trustingField a = trustingField b := by
  have hTrusting :
      booleanField a "trusting" = booleanField b "trusting" :=
    booleanField_reordered hSame (by decide)
  have hEscaped :
      booleanField a "escaped" = booleanField b "escaped" :=
    booleanField_reordered hSame (by decide)
  have hKey : "escaped" ≠ "" := by decide
  unfold trustingField
  rw [hTrusting, hEscaped]
  rcases Document.find?_reordered hSame hKey with
    ⟨hA, hB⟩ | ⟨x, y, hA, hB, hValue⟩
  · rw [hA, hB]
  · rw [hA, hB]
    refine bind_congr fun trusting => ?_
    cases trusting <;> rfl

end Fields

------------------------------------------------------------
-- Nodes below Reordered Fields
------------------------------------------------------------

/- A list that is left out or written as a sequence. -/
def Field.HoldsSequence
    (f : Field)
    (entries : List Entry) : Prop :=
  ∀ role value,
    f.slot = .list role →
    find? entries f.key = some value →
    ∃ items line, value = .sequence items line

/- Items that are read alike one by one are read alike. -/
theorem mapM_reordered
    {role : Role}
    {a b : List Document.Node}
    (hItems : List.Forall₂ Document.Node.Reordered a b)
    (hEach : ∀ x ∈ a, ∀ y, x.Reordered y →
      role.read x = role.read y) :
    a.mapM role.read = b.mapM role.read := by
  induction hItems with
  | nil => rfl
  | cons hItem hItems ih =>
      rw [List.forall_mem_cons] at hEach
      rw [List.mapM_cons, List.mapM_cons, hEach.1 _ hItem,
        ih hEach.2]

/-
  A field is read alike if the nodes below it are. Of what
  stands in place of a list, only sequences keep their items
  in order.
-/
theorem Field.read_reordered
    {f : Field}
    {a b : List Entry}
    {line : Nat}
    (hSame :
      (Document.Node.mapping a line).Reordered (.mapping b line))
    (hKey : f.key ≠ "")
    (hSequence : f.HoldsSequence a)
    (hEach : ∀ place ∈ f.places a, ∀ y, place.2.Reordered y →
      place.1.read place.2 = place.1.read y) :
    f.read a = f.read b := by
  rcases f with ⟨key, slot⟩
  have hFound := Document.find?_reordered hSame hKey
  cases slot with
  | statements =>
      change readStatements (find? a key) =
        readStatements (find? b key)
      simp only [Field.places] at hEach
      rcases hFound with ⟨hA, hB⟩ | ⟨x, y, hA, hB, hValue⟩
      · rw [hA, hB]
      · rw [hA] at hEach
        rw [hA, hB]
        cases hValue with
        | scalar style text line => rfl
        | mapping line hEntries hOrder =>
            rw [readStatements_of_not_sequence (by simp),
              readStatements_of_not_sequence (by simp)]
            rfl
        | reference name line column hTarget =>
            rw [readStatements_of_not_sequence (by simp),
              readStatements_of_not_sequence (by simp)]
            rfl
        | sequence line hItems =>
            rw [List.forall_mem_map] at hEach
            rw [readStatements, readStatements,
              readStatementItems_eq_mapM,
              readStatementItems_eq_mapM]
            exact mapM_reordered hItems hEach
  | list role =>
      change (fieldItems a key).mapM role.read =
        (fieldItems b key).mapM role.read
      simp only [Field.places, List.forall_mem_map] at hEach
      unfold fieldItems at hEach ⊢
      rcases hFound with ⟨hA, hB⟩ | ⟨x, y, hA, hB, hValue⟩
      · rw [hA, hB]
      · rcases hSequence role x rfl hA with ⟨items, start, rfl⟩
        rw [hA] at hEach
        rw [hA, hB]
        cases hValue with
        | sequence line hItems =>
            exact mapM_reordered hItems hEach
  | one role =>
      change (find? a key).mapM role.read =
        (find? b key).mapM role.read
      simp only [Field.places, List.forall_mem_map,
        Option.mem_toList] at hEach
      rcases hFound with ⟨hA, hB⟩ | ⟨x, y, hA, hB, hValue⟩
      · rw [hA, hB]
      · rw [hA, hB]
        exact congrArg (some <$> ·) (hEach x hA y hValue)
  | texts => exact textsField_reordered hSame hKey
  | truth => exact booleanField_reordered hSame hKey
  | number =>
      change numberField a key = numberField b key
      unfold numberField
      rw [textField_reordered hSame hKey]
  | trusting => exact trustingField_reordered hSame
  | path =>
      change readPath a (spanField a) = readPath b (spanField b)
      rw [spanField_reordered hSame, readPath_reordered hSame]

------------------------------------------------------------
-- Reordered Trees
------------------------------------------------------------

/- Fields are found by keys that are not empty. -/
theorem key_ne_empty
    (type : NodeType) :
    ∀ f ∈ type.fields, f.key ≠ "" := by
  cases type <;> decide

/-
  The nodes that are read of a document with their roles, as
  long as nothing is refused.
-/
inductive Visits
    (root : Document.Node) :
    Role →
      Document.Node →
      Prop where
  | top : Visits root .root root
  | item
      {items : List Document.Node}
      {line : Nat}
      {node : Document.Node}
      (hRoot : root = .sequence items line)
      (hItem : node ∈ items) :
      Visits root .statement node
  | inside
      {role : Role}
      {entries : List Entry}
      {line : Nat}
      {type : NodeType}
      {f : Field}
      {place : Role × Document.Node}
      (hVisits : Visits root role (.mapping entries line))
      (hType : role.type? entries = some type)
      (hField : f ∈ type.fields)
      (hPlace : place ∈ f.places entries) :
      Visits root place.1 place.2

/- A document in which lists are written as sequences. -/
def HasSequences (root : Document.Node) : Prop :=
  ∀ role entries line type f,
    Visits root role (.mapping entries line) →
    role.type? entries = some type →
    f ∈ type.fields →
    f.HoldsSequence entries

/- A mapping is read alike if the nodes below it are. -/
theorem Role.read_mapping_reordered
    {role : Role}
    {a b : List Entry}
    {line : Nat}
    (hSame :
      (Document.Node.mapping a line).Reordered (.mapping b line))
    (hLists : ∀ type f, role.type? a = some type →
      f ∈ type.fields → f.HoldsSequence a)
    (hEach : ∀ type f place, role.type? a = some type →
      f ∈ type.fields → place ∈ f.places a →
      ∀ y, place.2.Reordered y →
        place.1.read place.2 = place.1.read y) :
    role.read (.mapping a line) = role.read (.mapping b line) := by
  have hTexts := sameTexts_of_reordered hSame
  have hTypes : role.type? a = role.type? b := by
    unfold Role.type?
    rw [hTexts.texts "type" (by decide)]
  cases hType : role.type? a with
  | none =>
      rw [read_mapping_of_no_type line hType,
        read_mapping_of_no_type line (hTypes ▸ hType),
        hTexts.texts "type" (by decide)]
  | some type =>
      have hFields : ∀ f ∈ type.fields, f.read a = f.read b := by
        intro f hField
        exact Field.read_reordered hSame
          (key_ne_empty type f hField)
          (hLists type f hType hField)
          (fun place => hEach type f place hType hField)
      rw [read_mapping line hType,
        read_mapping line (hTypes ▸ hType),
        readFields_congr hFields hTexts]

/- In its role, every node is read alike when it is reordered. -/
theorem Role.read_reordered
    {root : Document.Node}
    (hLists : HasSequences root)
    (role : Role)
    (a b : Document.Node)
    (hVisits : Visits root role a)
    (hSame : a.Reordered b) :
    role.read a = role.read b := by
  -- The relation passes through lists of items and entries,
  -- so that the induction is on the size of the node.
  induction hSize : sizeOf a using Nat.strongRecOn
    generalizing role a b with
  | ind size ih =>
      cases hSame with
      | scalar style text line => rfl
      | sequence line hItems =>
          rw [role.read_of_not_mapping (by simp) id,
            role.read_of_not_mapping (by simp) id]
          rfl
      | reference name line column hTarget =>
          rw [role.read_of_not_mapping (by simp) id,
            role.read_of_not_mapping (by simp) id]
          rfl
      | mapping line hEntries hOrder =>
          refine read_mapping_reordered
            (.mapping line hEntries hOrder) ?_ ?_
          · intro type f
            exact hLists role _ line type f hVisits
          · intro type f place hType hField hPlace other hOther
            have hLess := sizeOf_lt_of_mem_places line hPlace
            exact ih (sizeOf place.2) (hSize ▸ hLess) place.1
              place.2 other
              (.inside hVisits hType hField hPlace) hOther rfl

/-
  What is read of a document does not depend on the order of
  keys: the tree with its spans is the same, or the error.
  Only those entries move whose keys are told apart by the
  texts that the reader compares. A mapping with two
  sequences for keys, or with two mappings, keeps its order,
  as these have no text to be told apart by.
-/
theorem ofDocument_reordered
    (a b : Document.Node)
    (hSame : a.Reordered b)
    (hLists : HasSequences a) :
    ofDocument a = ofDocument b := by
  have hTop :
      Role.root.read a = Role.root.read b :=
    Role.root.read_reordered hLists a b .top hSame
  cases hSame with
  | scalar style text line => rfl
  | sequence line hItems =>
      have hBody := mapM_reordered hItems
        (fun x hItem y => Role.statement.read_reordered hLists
          x y (.item rfl hItem))
      rw [ofDocument, ofDocument, readStatementItems_eq_mapM,
        readStatementItems_eq_mapM, hBody]
  | reference name line column hTarget =>
      rwa [ofDocument_eq_read (by simp),
        ofDocument_eq_read (by simp)]
  | mapping line hEntries hOrder =>
      rwa [ofDocument_eq_read (by simp),
        ofDocument_eq_read (by simp)]

/- A part of an interpolated text. -/
def plainPart : List Entry :=
  [⟨.ofPlain "type", .ofPlain "TextNode"⟩,
    ⟨.ofPlain "chars", .ofPlain "a"⟩]

/- An interpolated text with a single part. -/
def interpolation (part : List Entry) : List Entry :=
  [⟨.ofPlain "type", .ofPlain "ConcatStatement"⟩,
    ⟨.ofPlain "parts", .ofItems [.mapping part 2]⟩]

theorem type?_interpolation :
    Role.root.type? (interpolation plainPart) =
      some .concat := by
  decide

theorem type?_plainPart :
    Role.textPart.type? plainPart = some .text := by
  decide

theorem visits_interpolation
    {role : Role}
    {node : Document.Node}
    (hVisits :
      Visits (.mapping (interpolation plainPart) 1) role node) :
    (role = .root ∧
        node = .mapping (interpolation plainPart) 1) ∨
      (role = .textPart ∧ node = .mapping plainPart 2) := by
  induction hVisits with
  | top => exact Or.inl ⟨rfl, rfl⟩
  | item hRoot hItem => cases hRoot
  | inside hVisits hType hField hPlace ih =>
      rcases ih with ⟨rfl, hNode⟩ | ⟨rfl, hNode⟩
      · cases hNode
        cases hType.symm.trans type?_interpolation
        cases List.mem_singleton.mp hField
        cases List.mem_singleton.mp hPlace
        exact Or.inr ⟨rfl, rfl⟩
      · cases hNode
        cases hType.symm.trans type?_plainPart
        cases hField

theorem hasSequences_interpolation :
    HasSequences (.mapping (interpolation plainPart) 1) := by
  intro role entries line type f hVisits hType hField
  rcases visits_interpolation hVisits with
    ⟨rfl, hNode⟩ | ⟨rfl, hNode⟩
  · cases hNode
    cases hType.symm.trans type?_interpolation
    cases List.mem_singleton.mp hField
    intro role value hSlot hFound
    cases hFound
    exact ⟨_, _, rfl⟩
  · cases hNode
    cases hType.symm.trans type?_plainPart
    cases hField

theorem ofDocument_reordered_interpolation :
    ofDocument (.mapping (interpolation plainPart) 1) =
        ofDocument
          (.mapping (interpolation plainPart.reverse).reverse 1) ∧
      ofDocument (.mapping (interpolation plainPart) 1) =
        .ok ⟨[.concat ⟨[.text ⟨"a", none⟩], none⟩], [], none⟩ := by
  have hWord : ∀ text,
      (Document.Node.ofPlain text).Reordered (.ofPlain text) :=
    fun text => .scalar .plain text 0
  have hPart :
      (Document.Node.mapping plainPart 2).Reordered
        (.mapping plainPart.reverse 2) := by
    refine .mapping (b := plainPart) 2 ?_ (Or.inr ⟨?_, ?_⟩)
    · exact .cons (.mk (hWord _) (hWord _))
        (.cons (.mk (hWord _) (hWord _)) .nil)
    · decide
    · exact (List.reverse_perm _).symm
  refine ⟨ofDocument_reordered _ _ ?_ hasSequences_interpolation,
    by cbv⟩
  refine .mapping (b := interpolation plainPart.reverse) 1 ?_
    (Or.inr ⟨?_, ?_⟩)
  · exact .cons (.mk (hWord _) (hWord _))
      (.cons (.mk (hWord _) (.sequence 0 (.cons hPart .nil)))
        .nil)
  · decide
  · exact (List.reverse_perm _).symm

end Template

end TemplateJsx
