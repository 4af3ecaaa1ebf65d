import TemplateJsx.Proofs.Decoding
import TemplateJsx.Proofs.Splitting
import TemplateJsx.Proofs.Success

/-
  The forms of a path in a document. A path is given by its
  head and its tail, by its parts and two marks, or by its
  text alone. Every form of one path is read as the same
  head and tail, and resolved to the same expression.

  Key definitions include:
    * `Template.Head`
    * `Template.NamesHead`
    * `Template.ListsParts`
    * `Template.PathForm`

  Main declarations:
    * `Template.readHead_of_names`
    * `Template.readPath_of_form`
    * `Template.path_of_head`
    * `Template.expression_of_head_eq_ok_iff`
    * `Template.path_forms_agree`
-/

------------------------------------------------------------
-- Heads
------------------------------------------------------------

namespace TemplateJsx

namespace Template

/- What a path starts at. -/
inductive Head where
  | this
  | argument (name : String)
  | plain (name : String)
  deriving DecidableEq, Repr

namespace Head

/- The head as it is written. -/
def text : Head → String
  | .this => "this"
  | .argument name => "@" ++ name
  | .plain name => name

/-
  Heads that no other head is written as: names are not
  empty and do not start with `@`, and only `this` is
  written as `this`.
-/
def IsProper : Head → Prop
  | .this => True
  | .argument name =>
      name ≠ "" ∧ name.toList.head? ≠ some '@'
  | .plain name =>
      name ≠ "" ∧ name.toList.head? ≠ some '@' ∧ name ≠ "this"

/- What a head refers to. -/
def reference : Head → Jsx.Expr
  | .this => .identifier "this"
  | .argument name => .member (.identifier "args") name
  | .plain name => .identifier name

end Head

variable {head : Head}
variable {tail : List String}

theorem Head.text_ne_empty
    (hHead : head.IsProper) :
    head.text ≠ "" := by
  cases head with
  | this => decide
  | argument name =>
      intro hEmpty
      have hChars := congrArg String.toList hEmpty
      simp [Head.text] at hChars
  | plain name => exact hHead.1

------------------------------------------------------------
-- Forms
------------------------------------------------------------

open Document (Entry find?)

/- A field that spells a text. -/
def HasText
    (entries : List Entry)
    (key : String)
    (text : String) : Prop :=
  ∃ node, find? entries key = some node ∧ node.Spells text

/- A field that lists texts. -/
def HasTexts
    (entries : List Entry)
    (key : String)
    (texts : List String) : Prop :=
  ∃ items line, find? entries key = some (.sequence items line) ∧
    List.Forall₂ Document.Node.Spells items texts

/- A tail that is listed, or left out if it is empty. -/
def HasTail
    (entries : List Entry)
    (tail : List String) : Prop :=
  (tail = [] ∧ find? entries "tail" = none) ∨
    HasTexts entries "tail" tail

/- A field that is true, or else is false or left out. -/
def HasMark
    (entries : List Entry)
    (key : String)
    (value : Bool) : Prop :=
  (value = false ∧ find? entries key = none) ∨
    ∃ line, find? entries key =
      some (.scalar .plain (if value then "true" else "false")
        line)

/-
  The fields of a head. The name of an argument may be given
  with its `@` or without it.
-/
inductive NamesHead (entries : List Entry) : Head → Prop
  | this
      (hType : HasText entries "type" "ThisHead") :
      NamesHead entries .this
  | argument
      {name written : String}
      (hType : HasText entries "type" "AtHead")
      (hName : HasText entries "name" written)
      (hWritten : written = name ∨ written = "@" ++ name) :
      NamesHead entries (.argument name)
  | plain
      {name : String}
      (hType : HasText entries "type" "VarHead")
      (hName : HasText entries "name" name) :
      NamesHead entries (.plain name)

/-
  The parts of a path with the marks `this` and `data`. The
  name of the head is the first part, but `this` is none.
-/
inductive ListsParts
    (entries : List Entry)
    (tail : List String) : Head → Prop
  | this
      {isData : Bool}
      (hParts : HasTexts entries "parts" tail)
      (hThis : HasMark entries "this" true)
      (hData : HasMark entries "data" isData) :
      ListsParts entries tail .this
  | argument
      {name : String}
      (hParts : HasTexts entries "parts" (name :: tail))
      (hThis : HasMark entries "this" false)
      (hData : HasMark entries "data" true) :
      ListsParts entries tail (.argument name)
  | plain
      {name : String}
      (hParts : HasTexts entries "parts" (name :: tail))
      (hThis : HasMark entries "this" false)
      (hData : HasMark entries "data" false) :
      ListsParts entries tail (.plain name)

/-
  The forms of a path: its head and its tail, its parts, or
  only its names with dots between them.
-/
inductive PathForm
    (head : Head)
    (tail : List String)
    (entries : List Entry) : Prop
  | headed
      {fields : List Entry}
      {line : Nat}
      (hFields :
        find? entries "head" = some (.mapping fields line))
      (hHead : NamesHead fields head)
      (hTail : HasTail entries tail)
  | parted
      (hNone : find? entries "head" = none)
      (hParts : ListsParts entries tail head)
  | spelled
      (hNone : find? entries "head" = none)
      (hParts : find? entries "parts" = none)
      (hText : HasText entries "original"
        (Text.joinWith "." (head.text :: tail)))

------------------------------------------------------------
-- Reading Forms
------------------------------------------------------------

variable {entries : List Entry}
variable {key : String}

theorem HasText.textField_eq
    {text : String}
    (hText : HasText entries key text) :
    textField entries key = text := by
  rcases hText with ⟨node, hKey, hSpells⟩
  exact textField_of_spells hKey hSpells

theorem HasTexts.textsField_eq
    {texts : List String}
    (hTexts : HasTexts entries key texts) :
    textsField entries key = .ok texts := by
  rcases hTexts with ⟨items, line, hKey, hSpell⟩
  exact textsField_of_spells hKey hSpell

theorem HasTail.textsField_eq
    (hTail : HasTail entries tail) :
    textsField entries "tail" = .ok tail := by
  rcases hTail with ⟨rfl, hNone⟩ | hTexts
  · unfold textsField typedField
    rw [hNone]
  · exact hTexts.textsField_eq

theorem HasMark.booleanField_eq
    {value : Bool}
    (hMark : HasMark entries key value) :
    booleanField entries key = .ok value := by
  rcases hMark with ⟨rfl, hNone⟩ | ⟨line, hKey⟩
  · unfold booleanField typedField
    rw [hNone]
  · exact booleanField_of_word hKey

/- The fields of a head give its text. -/
theorem readHead_of_names
    (hHead : head.IsProper)
    (hNames : NamesHead entries head) :
    readHead entries = head.text := by
  unfold readHead
  cases hNames with
  | this hType =>
      rw [hType.textField_eq]
      rfl
  | argument hType hName hWritten =>
      rename_i name written
      rw [hType.textField_eq, hName.textField_eq,
        if_neg (by decide)]
      -- The `@` is put in front only where it is missing.
      rcases hWritten with rfl | rfl
      · rw [if_pos ⟨rfl, hHead.2⟩]
        rfl
      · rw [if_neg (by simp)]
        rfl
  | plain hType hName =>
      rw [hType.textField_eq, hName.textField_eq,
        if_neg (by decide), if_neg (by simp)]
      rfl

/- The parts of a path with their marks. -/
theorem readPath_of_parts
    {parts : List String}
    {isThis isData : Bool}
    (span : Option Span)
    (hNone : find? entries "head" = none)
    (hParts : HasTexts entries "parts" parts)
    (hThis : HasMark entries "this" isThis)
    (hData : HasMark entries "data" isData) :
    readPath entries span =
      .ok ⟨textField entries "original",
        (headOfParts isThis isData parts).1,
        (headOfParts isThis isData parts).2, span⟩ := by
  have hTexts := hParts.textsField_eq
  rcases hParts with ⟨items, line, hFound, _⟩
  unfold readPath
  rw [hNone, hFound, hTexts, hThis.booleanField_eq,
    hData.booleanField_eq]
  rfl

/- A text with dots between names is read as the names. -/
theorem Path.ofSpelling_joinWith
    {first : String}
    {rest : List String}
    (span : Option Span)
    (hFirst : first ≠ "")
    (hDots : ∀ name ∈ first :: rest, '.' ∉ name.toList) :
    Path.ofSpelling (Text.joinWith "." (first :: rest)) span =
      ⟨Text.joinWith "." (first :: rest), first, rest, span⟩ := by
  have hSplit :
      Text.splitAt '.' (Text.joinWith "." (first :: rest)) =
        first :: rest :=
    Text.splitAt_joinWith rfl (List.cons_ne_nil _ _) hDots
  have hSome : Text.joinWith "." (first :: rest) ≠ "" := by
    intro hEmpty
    rw [hEmpty] at hSplit
    injection hSplit with hHead _
    exact hFirst hHead.symm
  unfold Path.ofSpelling
  rw [if_neg hSome, hSplit]

/- Every form of a path is read as its head and its tail. -/
theorem readPath_of_form
    (span : Option Span)
    (hHead : head.IsProper)
    (hDots : ∀ name ∈ head.text :: tail, '.' ∉ name.toList)
    (hForm : PathForm head tail entries) :
    ∃ spelling, readPath entries span =
      .ok ⟨spelling, head.text, tail, span⟩ := by
  refine ⟨textField entries "original", ?_⟩
  cases hForm with
  | headed hFields hNames hTail =>
      unfold readPath
      rw [hFields, hTail.textsField_eq]
      dsimp only
      rw [readHead_of_names hHead hNames]
      rfl
  | parted hNone hParts =>
      cases hParts with
      | this hParts hThis hData =>
          exact readPath_of_parts span hNone hParts hThis hData
      | argument hParts hThis hData =>
          exact readPath_of_parts span hNone hParts hThis hData
      | plain hParts hThis hData =>
          exact readPath_of_parts span hNone hParts hThis hData
  | spelled hNone hParts hText =>
      unfold readPath
      rw [hNone, hParts, hText.textField_eq]
      dsimp only
      rw [Path.ofSpelling_joinWith span
        (Head.text_ne_empty hHead) hDots]

------------------------------------------------------------
-- Resolving Heads
------------------------------------------------------------

/- The name of a head, without the `@` of an argument. -/
def Head.name : Head → String
  | .this => "this"
  | .argument name => name
  | .plain name => name

/- The names along a path are that of its head and the tail. -/
theorem segments_of_head
    {p : Path}
    (hHead : head.IsProper)
    (hText : p.head = head.text) :
    p.segments = head.name :: p.tail := by
  unfold Path.segments
  rw [hText]
  cases head with
  | this => rfl
  | argument name =>
      have hChars :
          ("@" ++ name).toList = '@' :: name.toList := by
        simp
      rw [Head.text, hChars]
      simp [Head.name]
  | plain name =>
      rw [Head.text]
      split
      · rename_i hEmpty
        exact absurd (String.toList_eq_nil_iff.mp hEmpty) hHead.1
      · rename_i rest hArgument
        exact absurd (congrArg List.head? hArgument) hHead.2.1
      · rfl

/- Only the head of an argument starts with `@`. -/
theorem reference_eq_of_head
    {p : Path}
    (hHead : head.IsProper)
    (hText : p.head = head.text) :
    (if p.IsArgument then
        .member (.identifier Resolve.argumentsName) head.name
      else
        .identifier head.name) = head.reference := by
  have hArgument :
      p.IsArgument ↔ head.text.toList.head? = some '@' := by
    unfold Path.IsArgument
    rw [hText]
  cases head with
  | this => exact if_neg (hArgument.not.mpr (by decide))
  | argument name =>
      exact if_pos (hArgument.mpr (by simp [Head.text]))
  | plain name => exact if_neg (hArgument.not.mpr hHead.2.1)

/- A path is resolved from what its head refers to on. -/
theorem path_of_head
    {p : Path}
    (hHead : head.IsProper)
    (hText : p.head = head.text) :
    Resolve.path p = .ok (head.reference.extend p.tail) := by
  rw [Resolve.path_of_segments (segments_of_head hHead hText),
    reference_eq_of_head hHead hText]

/- It is resolved so unless it is too deep. -/
theorem expression_of_head_eq_ok_iff
    {p : Path}
    {config : Config}
    {depth : Nat}
    {e : Jsx.Expr}
    (hHead : head.IsProper)
    (hText : p.head = head.text) :
    Resolve.expression config depth (.path p) = .ok e ↔
      ¬ (0 < config.maxDepth ∧ config.maxDepth ≤ depth) ∧
        e = head.reference.extend p.tail :=
  Resolve.expression_path_eq_ok_iff (path_of_head hHead hText)

------------------------------------------------------------
-- Agreement
------------------------------------------------------------

/-
  The forms of a path agree. Each is read, as the same head
  and the same tail, and where there is room each is
  resolved to the same expression.
-/
theorem path_forms_agree
    (head : Head)
    (tail : List String)
    (hHead : head.IsProper)
    (hDots : ∀ name ∈ head.text :: tail, '.' ∉ name.toList)
    (entries : List Entry)
    (line : Nat)
    (hType : HasText entries "type" "PathExpression")
    (hForm : PathForm head tail entries) :
    ∃ p,
      readNode (.mapping entries line) = .ok (.expr (.path p)) ∧
        p.head = head.text ∧
        p.tail = tail ∧
        ∀ config depth e,
          Resolve.expression config depth (.path p) = .ok e ↔
            ¬ (0 < config.maxDepth ∧ config.maxDepth ≤ depth) ∧
              e = head.reference.extend tail := by
  rcases readPath_of_form (spanField entries) hHead hDots hForm
    with ⟨spelling, hRead⟩
  have hName :
      NodeType.ofName? "PathExpression" = some .path := by
    decide
  refine
    ⟨⟨spelling, head.text, tail, spanField entries⟩,
      ?_, rfl, rfl, ?_⟩
  · rw [readNode, hType.textField_eq, hName]
    dsimp only
    rw [readTyped, hRead]
    rfl
  · intro config depth e
    exact expression_of_head_eq_ok_iff hHead rfl

/- The path `@item..x` by its head and its tail. -/
def itemHeaded : List Entry :=
  [⟨.ofPlain "type", .ofPlain "PathExpression"⟩,
    ⟨.ofPlain "head",
      .mapping
        [⟨.ofPlain "type", .ofPlain "AtHead"⟩,
          ⟨.ofPlain "name", .ofText "@item"⟩] 2⟩,
    ⟨.ofPlain "tail", .ofItems [.ofText "", .ofPlain "x"]⟩]

/- The path `@item..x` by its parts. -/
def itemParted : List Entry :=
  [⟨.ofPlain "type", .ofPlain "PathExpression"⟩,
    ⟨.ofPlain "data", .ofBool true⟩,
    ⟨.ofPlain "parts",
      .ofItems [.ofPlain "item", .ofText "", .ofPlain "x"]⟩]

/- The path `@item..x` by its text. -/
def itemSpelled : List Entry :=
  [⟨.ofPlain "type", .ofPlain "PathExpression"⟩,
    ⟨.ofPlain "original", .ofText "@item..x"⟩]

/-
  An argument whose tail starts with an empty name, in each
  of the forms.
-/
theorem path_forms_agree_item :
    ∃ p q r,
      readNode (.mapping itemHeaded 1) =
          .ok (.expr (.path p)) ∧
        readNode (.mapping itemParted 1) =
          .ok (.expr (.path q)) ∧
        readNode (.mapping itemSpelled 1) =
          .ok (.expr (.path r)) ∧
        [p.head, q.head, r.head] =
          ["@item", "@item", "@item"] ∧
        [p.tail, q.tail, r.tail] =
          [["", "x"], ["", "x"], ["", "x"]] := by
  have hType {entries : List Entry}
      (hKey : find? entries "type" =
        some (.ofPlain "PathExpression")) :
      HasText entries "type" "PathExpression" :=
    ⟨_, hKey, .plain 0 (by decide)⟩
  have hTail :
      List.Forall₂ Document.Node.Spells
        [.ofText "", .ofPlain "x"] ["", "x"] :=
    .cons (.quoted "" 0) (.cons (.plain 0 (by decide)) .nil)
  have hAgree := path_forms_agree (.argument "item") ["", "x"]
    ⟨by decide, by decide⟩ (by decide)
  rcases hAgree itemHeaded 1 (hType rfl)
      (.headed rfl
        (.argument ⟨_, rfl, .plain 0 (by decide)⟩
          ⟨_, rfl, .quoted "@item" 0⟩ (.inr rfl))
        (.inr ⟨_, _, rfl, hTail⟩)) with
    ⟨p, hFirst, hHead, hNames, _⟩
  rcases hAgree itemParted 1 (hType rfl)
      (.parted rfl
        (.argument
          ⟨_, _, rfl, .cons (.plain 0 (by decide)) hTail⟩
          (.inl ⟨rfl, rfl⟩) (.inr ⟨0, rfl⟩))) with
    ⟨q, hSecond, hHead', hNames', _⟩
  rcases hAgree itemSpelled 1 (hType rfl)
      (.spelled rfl rfl ⟨_, rfl, .quoted "@item..x" 0⟩) with
    ⟨r, hThird, hHead'', hNames'', _⟩
  refine ⟨p, q, r, hFirst, hSecond, hThird, ?_, ?_⟩
  · rw [hHead, hHead', hHead'']
    rfl
  · rw [hNames, hNames', hNames'']

end Template

end TemplateJsx
