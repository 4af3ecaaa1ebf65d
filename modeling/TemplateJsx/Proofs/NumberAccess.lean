import TemplateJsx.Proofs.Blame
import TemplateJsx.Proofs.PointedNumeral
import TemplateJsx.Proofs.WellFormed

/-
  Properties of numbers in resolved trees. The only trees
  with one come from blocks that repeat their body for a
  number in place of a list. They are found by one recursion
  over the template, which says for each tree whether it
  takes a property of a given number.

  Key definitions include:
    * `Jsx.Node.Accesses`
    * `Template.BlockStatement.Counts`
    * `Template.Node.HasCount`
    * `Template.HasCountIn`
    * `Resolve.Mirrors`

  Main declarations:
    * `Jsx.Node.accesses_iff`
    * `Template.hasCount_block`
    * `Resolve.expression_accesses`
    * `Resolve.standardBlock_accesses`
    * `Resolve.root_accesses`
    * `Resolve.numbers_readable_iff`
-/

------------------------------------------------------------
-- Properties of Numbers in Trees
------------------------------------------------------------

namespace TemplateJsx

namespace Jsx

namespace Node

/- A tree in which a property of a number is found. -/
def Accesses
    (x : Number)
    (property : String)
    (n : Node) : Prop :=
  Occurs (.expr (.member (.number x) property)) n

variable {x : Number}
variable {property : String}

/- It is the tree itself, or is found in one of its parts. -/
theorem accesses_iff
    (n : Node) :
    n.Accesses x property ↔
      n = .expr (.member (.number x) property) ∨
        ∃ part ∈ n.parts, part.Accesses x property := by
  constructor
  · intro hOccurs
    cases hOccurs with
    | here => exact Or.inl rfl
    | inside hPart hOccurs => exact Or.inr ⟨_, hPart, hOccurs⟩
  · rintro (rfl | ⟨part, hPart, hOccurs⟩)
    · exact .here _
    · exact .inside hPart hOccurs

/- Names and literals have no parts. -/
theorem not_accesses_leaf
    {e : Expr}
    (hLeaf : e.IsLeaf) :
    ¬ Accesses x property (.expr e) := by
  rw [accesses_iff]
  cases e with
  | identifier _ | string _ | number _ | boolean _ | null =>
      simp [parts, Expr.parts]
  | _ => exact hLeaf.elim

@[simp] theorem accesses_member
    {base : Expr}
    {name : String} :
    Accesses x property (.expr (.member base name)) ↔
      (base = .number x ∧ name = property) ∨
        Accesses x property (.expr base) := by
  rw [accesses_iff]
  simp [parts, Expr.parts]

@[simp] theorem accesses_call
    {callee : Expr}
    {arguments : List Expr} :
    Accesses x property (.expr (.call callee arguments)) ↔
      Accesses x property (.expr callee) ∨
        ∃ a ∈ arguments, Accesses x property (.expr a) := by
  rw [accesses_iff]
  simp [parts, Expr.parts]

@[simp] theorem accesses_object
    {properties : List Property} :
    Accesses x property (.expr (.object properties)) ↔
      ∃ p ∈ properties, Accesses x property (.property p) := by
  rw [accesses_iff]
  simp [parts, Expr.parts]

@[simp] theorem accesses_property
    {key : String}
    {value : Expr} :
    Accesses x property (.property (.mk key value)) ↔
      Accesses x property (.expr value) := by
  rw [accesses_iff]
  simp [parts]

@[simp] theorem accesses_binary
    {op : BinaryOp}
    {left right : Expr} :
    Accesses x property (.expr (.binary op left right)) ↔
      Accesses x property (.expr left) ∨
        Accesses x property (.expr right) := by
  rw [accesses_iff]
  simp [parts, Expr.parts]

@[simp] theorem accesses_conditional
    {test consequent alternate : Expr} :
    Accesses x property
        (.expr (.conditional test consequent alternate)) ↔
      Accesses x property (.expr test) ∨
        Accesses x property (.expr consequent) ∨
        Accesses x property (.expr alternate) := by
  rw [accesses_iff]
  simp [parts, Expr.parts]

@[simp] theorem accesses_arrow
    {params : List String}
    {body : Expr} :
    Accesses x property (.expr (.arrow params body)) ↔
      Accesses x property (.expr body) := by
  rw [accesses_iff]
  simp [parts, Expr.parts]

@[simp] theorem accesses_container
    {e : Expr} :
    Accesses x property (.child (.container e)) ↔
      Accesses x property (.expr e) := by
  rw [accesses_iff]
  simp [parts]

@[simp] theorem not_accesses_text
    {value : String} :
    ¬ Accesses x property (.child (.text value)) := by
  rw [accesses_iff]
  simp [parts]

/- Markup has the same parts wherever it stands. -/
@[simp] theorem accesses_child_markup
    {m : Markup} :
    Accesses x property (.child (.markup m)) ↔
      Accesses x property (.expr (.markup m)) := by
  rw [accesses_iff, accesses_iff (.expr (.markup m))]
  simp [parts, Expr.parts]

@[simp] theorem accesses_fragment
    {children : List Child} :
    Accesses x property
        (.expr (.markup (.fragment children))) ↔
      ∃ c ∈ children, Accesses x property (.child c) := by
  rw [accesses_iff]
  simp [parts, Expr.parts, Markup.parts]

/- The name of a tag is made of names. -/
theorem not_accesses_tagName
    (name : TagName) :
    ¬ Accesses x property (.tagName name) := by
  induction name with
  | identifier name =>
      rw [accesses_iff]
      simp [parts]
  | member base name ih =>
      rw [accesses_iff]
      simpa [parts] using ih

@[simp] theorem accesses_element
    {name : TagName}
    {attributes : List Attribute}
    {children : List Child}
    {selfClosing : Bool} :
    Accesses x property
        (.expr (.markup
          (.element name attributes children selfClosing))) ↔
      (∃ a ∈ attributes, Accesses x property (.attr a)) ∨
        ∃ c ∈ children, Accesses x property (.child c) := by
  rw [accesses_iff]
  simp [parts, Expr.parts, Markup.parts, not_accesses_tagName,
    or_and_right, exists_or]

@[simp] theorem accesses_attr_container
    {name : String}
    {value : Expr} :
    Accesses x property (.attr (.container name value)) ↔
      Accesses x property (.expr value) := by
  rw [accesses_iff]
  simp [parts]

@[simp] theorem accesses_spread
    {argument : Expr} :
    Accesses x property (.attr (.spread argument)) ↔
      Accesses x property (.expr argument) := by
  rw [accesses_iff]
  simp [parts]

/- The children for raw text hold literals only. -/
theorem not_accesses_textChildrenFrom
    (run cs : List Char) :
    ∀ child ∈ textChildrenFrom run cs,
      ¬ Accesses x property (.child child) := by
  have hBrace : ∀ c : Char,
      ¬ Accesses x property
        (.child (.container (.string c.toString))) := by
    intro c
    rw [accesses_container]
    exact not_accesses_leaf trivial
  induction cs generalizing run with
  | nil => simp [textChildrenFrom]
  | cons c rest ih =>
      rw [textChildrenFrom]
      split
      · simp only [List.forall_mem_cons]
        exact ⟨not_accesses_text, hBrace c, ih []⟩
      · exact ih (c :: run)

end Node

end Jsx

------------------------------------------------------------
-- Blocks over Numbers in Templates
------------------------------------------------------------

namespace Template

/-
  A block that takes a property of a number: it repeats its
  body for the number in place of a list, and asks for its
  length if there is an `else`.
-/
structure BlockStatement.Counts
    (x : Number)
    (property : String)
    (b : BlockStatement) : Prop where
  form : Resolve.blockForm b = .eachBlock
  param : ∃ span, b.invocation.params = [.number x span]
  asked : property = "map" ∨
    property = "length" ∧ b.inverse.IsPresent

/- A tree in which such a block is found. -/
def Node.HasCount
    (x : Number)
    (property : String)
    (n : Node) : Prop :=
  ∃ b, Occurs (.statement (.block b)) n ∧ b.Counts x property

/- Statements in which such a block is found. -/
def HasCountIn
    (x : Number)
    (property : String)
    (body : List Statement) : Prop :=
  ∃ s ∈ body, Node.HasCount x property (.statement s)

variable {x : Number}
variable {property : String}

@[simp] theorem not_hasCountIn_nil :
    ¬ HasCountIn x property [] := by
  simp [HasCountIn]

@[simp] theorem hasCountIn_cons
    {s : Statement}
    {rest : List Statement} :
    HasCountIn x property (s :: rest) ↔
      Node.HasCount x property (.statement s) ∨
        HasCountIn x property rest := by
  simp [HasCountIn]

/- A body that was not written has no blocks. -/
theorem not_hasCountIn_of_not_isPresent
    {b : Block}
    (hAbsent : ¬ b.IsPresent) :
    ¬ HasCountIn x property b.body := by
  cases b with
  | absent => exact not_hasCountIn_nil
  | present body params chained span =>
      exact absurd trivial hAbsent

namespace Node

/- It is the tree itself, or is found in one of its parts. -/
theorem hasCount_iff
    (n : Node) :
    n.HasCount x property ↔
      (∃ b, n = .statement (.block b) ∧ b.Counts x property) ∨
        ∃ part ∈ n.parts, part.HasCount x property := by
  constructor
  · rintro ⟨b, hOccurs, hCounts⟩
    cases hOccurs with
    | here => exact Or.inl ⟨b, rfl, hCounts⟩
    | inside hPart hOccurs =>
        exact Or.inr ⟨_, hPart, b, hOccurs, hCounts⟩
  · rintro (⟨b, rfl, hCounts⟩ | ⟨part, hPart, b, hOccurs, hCounts⟩)
    · exact ⟨b, .here _, hCounts⟩
    · exact ⟨b, .inside hPart hOccurs, hCounts⟩

/- A node without statement lists anywhere below it. -/
def IsFlat : Node → Prop
  | .template _ => False
  | .block _ => False
  | .statement (.element _) => False
  | .statement (.block _) => False
  | _ => True

/- The parts of an invocation are flat. -/
theorem isFlat_of_mem_invocation
    {i : Invocation} :
    ∀ part ∈ i.parts, part.IsFlat := by
  intro part hPart
  simp only [Invocation.parts, List.cons_append, List.mem_cons,
    List.mem_append, List.mem_map, List.not_mem_nil,
    or_false] at hPart
  rcases hPart with rfl | ⟨e, _, rfl⟩ | rfl <;> trivial

/- What lies below a flat node is flat. -/
theorem IsFlat.parts
    {n : Node}
    (hFlat : n.IsFlat) :
    ∀ part ∈ n.parts, part.IsFlat := by
  cases n with
  | template t => exact hFlat.elim
  | block b => exact hFlat.elim
  | attr a =>
      rcases a with ⟨name, value, span⟩
      cases value <;>
        simp [Node.parts, AttributeValue.nodes, IsFlat]
  | expr e =>
      cases e with
      | call i span => exact isFlat_of_mem_invocation
      | _ => simp [Node.parts, Expr.parts]
  | hash h => simp [Node.parts, IsFlat]
  | pair p => simp [Node.parts, IsFlat]
  | statement s =>
      cases s with
      | element el => exact hFlat.elim
      | block b => exact hFlat.elim
      | mustache m => exact isFlat_of_mem_invocation
      | modifier m => exact isFlat_of_mem_invocation
      | concat c =>
          simp only [Node.parts, Statement.parts,
            List.forall_mem_map]
          intro part _
          cases part <;> trivial
      | _ => simp [Node.parts, Statement.parts]

/- No block is found in a flat node. -/
theorem IsFlat.not_hasCount
    {n : Node}
    (hFlat : n.IsFlat) :
    ¬ n.HasCount x property := by
  rintro ⟨b, hOccurs, _⟩
  generalize hBlock : Node.statement (.block b) = m at hOccurs
  induction hOccurs with
  | here =>
      rw [← hBlock] at hFlat
      exact hFlat
  | inside hPart _ ih => exact ih (hFlat.parts _ hPart)

end Node

/- A block of an element is found among its children. -/
theorem hasCount_element
    (el : Element) :
    Node.HasCount x property (.statement (.element el)) ↔
      HasCountIn x property el.children := by
  rw [Node.hasCount_iff]
  constructor
  · rintro (⟨b, hNode, _⟩ | ⟨part, hPart, hCount⟩)
    · cases hNode
    · simp only [Node.parts, Statement.parts, Element.parts,
        List.mem_append, List.mem_map] at hPart
      rcases hPart with
        ((⟨a, _, rfl⟩ | ⟨m, _, rfl⟩) | ⟨c, _, rfl⟩) |
          ⟨s, hMember, rfl⟩
      · exact absurd hCount (Node.IsFlat.not_hasCount trivial)
      · exact absurd hCount (Node.IsFlat.not_hasCount trivial)
      · exact absurd hCount (Node.IsFlat.not_hasCount trivial)
      · exact ⟨s, hMember, hCount⟩
  · rintro ⟨s, hMember, hCount⟩
    refine Or.inr ⟨.statement s, ?_, hCount⟩
    exact List.mem_append_right _ (List.mem_map_of_mem hMember)

/- A block below a body is found in its statements. -/
theorem exists_nodes_hasCount
    (b : Block) :
    (∃ part ∈ b.nodes, part.HasCount x property) ↔
      HasCountIn x property b.body := by
  cases b with
  | absent => simp [Block.nodes, Block.body]
  | present body params chained span =>
      simp only [Block.nodes, List.mem_singleton,
        exists_eq_left]
      rw [Node.hasCount_iff]
      simp [Node.parts, Block.body, HasCountIn]

/- A block is found itself or in one of its bodies. -/
theorem hasCount_block
    (b : BlockStatement) :
    Node.HasCount x property (.statement (.block b)) ↔
      b.Counts x property ∨
        HasCountIn x property b.program.body ∨
        HasCountIn x property b.inverse.body := by
  have hInvocation :
      ¬ ∃ part ∈ b.invocation.parts,
        part.HasCount x property := by
    rintro ⟨part, hPart, hCount⟩
    exact (Node.isFlat_of_mem_invocation part hPart).not_hasCount
      hCount
  rw [Node.hasCount_iff, ← exists_nodes_hasCount,
    ← exists_nodes_hasCount]
  simp only [Node.parts, Statement.parts, BlockStatement.parts,
    List.mem_append, or_and_right, exists_or, hInvocation,
    false_or, Node.statement.injEq, Statement.block.injEq,
    exists_eq_left']

end Template

------------------------------------------------------------
-- Expressions
------------------------------------------------------------

namespace Resolve

open Jsx (Node)

variable {config : Config}
variable {x : Number}
variable {property : String}

/- A member path from what is no number is no number. -/
theorem extend_ne_number
    {base : Jsx.Expr}
    (names : List String)
    (hBase : base ≠ .number x) :
    base.extend names ≠ .number x := by
  induction names generalizing base with
  | nil => exact hBase
  | cons name names ih => exact ih Jsx.Expr.noConfusion

/- It takes no property of a number either. -/
theorem extend_accesses
    {base : Jsx.Expr}
    (names : List String)
    (hNumber : base ≠ .number x)
    (hBase : ¬ Node.Accesses x property (.expr base)) :
    ¬ Node.Accesses x property (.expr (base.extend names)) := by
  induction names generalizing base with
  | nil => exact hBase
  | cons name names ih =>
      have hMember :
          ¬ Node.Accesses x property
            (.expr (base.append name)) := by
        rw [Jsx.Expr.append, Node.accesses_member, not_or]
        exact ⟨fun hAccess => hNumber hAccess.1, hBase⟩
      exact ih Jsx.Expr.noConfusion hMember

/- A resolved path goes on from a name. -/
theorem path_eq_extend
    {p : Template.Path}
    {y : Jsx.Expr}
    (hPath : path p = .ok y) :
    ∃ name names, y = (Jsx.Expr.identifier name).extend names := by
  rcases path_eq_ok hPath with ⟨head, tail, hNames, _⟩
  rw [path_of_segments hNames] at hPath
  cases hPath
  by_cases hArgument : p.IsArgument
  · rw [if_pos hArgument]
    exact ⟨argumentsName, head :: tail, rfl⟩
  · rw [if_neg hArgument]
    exact ⟨head, tail, rfl⟩

/- A resolved path takes no property of a number. -/
theorem path_accesses
    {p : Template.Path}
    {y : Jsx.Expr}
    (hPath : path p = .ok y) :
    ¬ Node.Accesses x property (.expr y) := by
  rcases path_eq_extend hPath with ⟨name, names, rfl⟩
  exact extend_accesses names Jsx.Expr.noConfusion
    (Node.not_accesses_leaf trivial)

/- What is called takes no property of a number. -/
theorem callee_accesses
    (target : Template.Expr) :
    ¬ Node.Accesses x property (.expr (callee target)) := by
  cases target with
  | path p =>
      simp only [callee]
      cases hPath : path p with
      | ok members => exact path_accesses hPath
      | error kind => exact Node.not_accesses_leaf trivial
  | _ => exact Node.not_accesses_leaf trivial

/- Nor does the object of named arguments. -/
theorem hashObject_accesses
    {named : List Jsx.Property}
    (hNamed : ∀ p ∈ named,
      ¬ Node.Accesses x property (.property p)) :
    ¬ Node.Accesses x property (.expr (hashObject named)) := by
  simpa [hashObject] using hNamed

mutual

/- No resolved expression takes a property of a number. -/
theorem expression_accesses
    (depth : Nat)
    (e : Template.Expr)
    (y : Jsx.Expr)
    (hExpr : expression config depth e = .ok y) :
    ¬ Node.Accesses x property (.expr y) := by
  cases e with
  | path p => exact path_accesses (expression_path_eq_ok hExpr)
  | call i span =>
      rw [expression] at hExpr
      rcases bind_eq_ok hExpr with ⟨_, _, hCall⟩
      exact helperCall_accesses (depth + 1) i y hCall
  | absent =>
      rw [expression] at hExpr
      rcases bind_eq_ok hExpr with ⟨_, _, hAbsent⟩
      cases hAbsent
  | boolean value span
  | null span
  | undefined span
  | number value span
  | string value span =>
      rw [expression] at hExpr
      rcases bind_eq_ok hExpr with ⟨_, _, hLeaf⟩
      cases hLeaf
      exact Node.not_accesses_leaf trivial

/- No resolved invocation does. -/
theorem helperCall_accesses
    (depth : Nat) :
    (i : Template.Invocation) →
      (y : Jsx.Expr) →
      (hCall : helperCall config depth i = .ok y) →
      ¬ Node.Accesses x property (.expr y)
  | ⟨target, params, ⟨pairs, span⟩⟩, y, hCall => by
    rcases helperCall_eq_ok hCall with
      ⟨positional, named, hParams, hNamed, hExpr⟩
    rw [hExpr, Node.accesses_call, not_or]
    refine ⟨callee_accesses _, ?_⟩
    rintro ⟨a, hMember, hAccess⟩
    rcases List.mem_append.mp hMember with hMember | hMember
    · exact expressions_accesses depth params positional hParams
        a hMember hAccess
    · rw [List.mem_singleton.mp hMember] at hAccess
      exact hashObject_accesses
        (namedArguments_accesses depth pairs named hNamed)
        hAccess

/- No resolved argument does. -/
theorem expressions_accesses
    (depth : Nat) :
    (es : List Template.Expr) →
      (ys : List Jsx.Expr) →
      (hAll : expressions config depth es = .ok ys) →
      ∀ y ∈ ys, ¬ Node.Accesses x property (.expr y)
  | [], ys, hAll => by
    rw [expressions] at hAll
    cases hAll
    exact List.forall_mem_nil _
  | e :: rest, ys, hAll => by
    rcases expressions_cons_eq_ok hAll with
      ⟨first, others, hFirst, hOthers, hList⟩
    rw [hList, List.forall_mem_cons]
    exact ⟨expression_accesses depth e first hFirst,
      expressions_accesses depth rest others hOthers⟩

/- No resolved named argument does. -/
theorem namedArguments_accesses
    (depth : Nat) :
    (pairs : List Template.Pair) →
      (ps : List Jsx.Property) →
      (hAll : namedArguments config depth pairs = .ok ps) →
      ∀ p ∈ ps, ¬ Node.Accesses x property (.property p)
  | [], ps, hAll => by
    rw [namedArguments] at hAll
    cases hAll
    exact List.forall_mem_nil _
  | ⟨key, value, span⟩ :: rest, ps, hAll => by
    rcases namedArguments_cons_eq_ok hAll with
      ⟨first, others, hFirst, hOthers, hList⟩
    rw [hList, List.forall_mem_cons, Node.accesses_property]
    exact ⟨expression_accesses depth value first hFirst,
      namedArguments_accesses depth rest others hOthers⟩

end

/- Only a number is resolved to a number. -/
theorem expression_eq_number_iff
    {depth : Nat}
    {e : Template.Expr}
    {y : Jsx.Expr}
    (hExpr : expression config depth e = .ok y) :
    y = .number x ↔ ∃ span, e = .number x span := by
  cases e with
  | path p =>
      rcases path_eq_extend (expression_path_eq_ok hExpr) with
        ⟨name, names, rfl⟩
      exact iff_of_false
        (extend_ne_number names Jsx.Expr.noConfusion) (by simp)
  | call i span =>
      rw [expression] at hExpr
      rcases bind_eq_ok hExpr with ⟨_, _, hCall⟩
      rcases helperCall_eq_ok hCall with ⟨_, _, _, _, rfl⟩
      simp
  | absent =>
      rw [expression] at hExpr
      rcases bind_eq_ok hExpr with ⟨_, _, hAbsent⟩
      cases hAbsent
  | boolean value span
  | null span
  | undefined span
  | number value span
  | string value span =>
      rw [expression] at hExpr
      rcases bind_eq_ok hExpr with ⟨_, _, hLeaf⟩
      cases hLeaf
      simp

------------------------------------------------------------
-- Values in Opening Tags
------------------------------------------------------------

/- What stands in braces takes no property of a number. -/
theorem mustache_accesses
    {depth : Nat}
    {m : Template.Mustache}
    {y : Jsx.Expr}
    (hMustache : mustache config depth m = .ok y) :
    ¬ Node.Accesses x property (.expr y) := by
  rcases mustache_eq_ok hMustache with
    ⟨_, hCallee⟩ | ⟨_, hCall⟩
  · exact expression_accesses depth _ y hCallee
  · exact helperCall_accesses depth _ y hCall

/- Nor does a part of an interpolated text. -/
theorem partValue_accesses
    {depth : Nat}
    {part : Template.TextPart}
    {y : Jsx.Expr}
    (hPart : partValue config depth part = .ok y) :
    ¬ Node.Accesses x property (.expr y) := by
  rcases partValue_eq_ok hPart with
    ⟨run, _, hText⟩ | ⟨m, _, hMustache⟩
  · rw [hText]
    exact Node.not_accesses_leaf trivial
  · exact mustache_accesses hMustache

/- Nor does a sum of parts. -/
theorem sumFrom_accesses
    {depth : Nat}
    {sum y : Jsx.Expr}
    {parts : List Template.TextPart}
    (hStart : ¬ Node.Accesses x property (.expr sum))
    (hSum : sumFrom config depth sum parts = .ok y) :
    ¬ Node.Accesses x property (.expr y) := by
  induction parts generalizing sum with
  | nil =>
      cases hSum
      exact hStart
  | cons part rest ih =>
      rcases bind_eq_ok hSum with ⟨next, hNext, hSum⟩
      refine ih ?_ hSum
      rw [Node.accesses_binary, not_or]
      exact ⟨hStart, partValue_accesses hNext⟩

/- Nor does an interpolated text. -/
theorem concat_accesses
    {depth : Nat}
    {parts : List Template.TextPart}
    {y : Jsx.Expr}
    (hConcat : concat config depth parts = .ok y) :
    ¬ Node.Accesses x property (.expr y) := by
  cases parts with
  | nil =>
      cases hConcat
      exact Node.not_accesses_leaf trivial
  | cons part rest =>
      rcases bind_eq_ok hConcat with ⟨first, hFirst, hSum⟩
      exact sumFrom_accesses (partValue_accesses hFirst) hSum

/- Nor does a resolved attribute. -/
theorem attributeOf_accesses
    {depth : Nat}
    {a : Template.Attribute}
    {result : Jsx.Attribute}
    (hAttribute : attributeOf config depth a = .ok result) :
    ¬ Node.Accesses x property (.attr result) := by
  rcases attributeOf_eq_ok hAttribute with
    ⟨_, rfl⟩ | ⟨_, ⟨rfl, _⟩ | ⟨run, _, rfl⟩ |
      ⟨m, y, _, hValue, rfl⟩ | ⟨c, y, _, hValue, rfl⟩⟩
  · rw [Node.accesses_spread]
    exact Node.not_accesses_leaf trivial
  · rw [Node.accesses_iff]
    simp [Node.parts]
  · rw [Node.accesses_iff]
    simp [Node.parts]
  · rw [Node.accesses_attr_container]
    exact mustache_accesses hValue
  · rw [Node.accesses_attr_container]
    exact concat_accesses hValue

/- Nor does a resolved modifier. -/
theorem modifier_accesses
    {depth : Nat}
    {m : Template.Modifier}
    {result : Jsx.Attribute}
    (hModifier : modifier config depth m = .ok result) :
    ¬ Node.Accesses x property (.attr result) := by
  rcases modifier_eq_ok hModifier with
    ⟨_, event, handler, y, _, hHandler, rfl⟩
  rw [Node.accesses_attr_container]
  exact expression_accesses depth handler y hHandler

------------------------------------------------------------
-- Elements and Blocks
------------------------------------------------------------

open Template (HasCountIn)

/-
  A body whose result takes a property of a number exactly if
  one of its statements is to.
-/
def Mirrors
    (x : Number)
    (property : String)
    (result : Unit → Outcome Jsx.Expr)
    (body : List Template.Statement) : Prop :=
  ∀ y, result () = .ok y →
    (Node.Accesses x property (.expr y) ↔
      HasCountIn x property body)

/-
  In a resolved element, properties of numbers come from the
  children.
-/
theorem standardElement_accesses
    {depth : Nat}
    {el : Template.Element}
    {children : Unit → Outcome (List Jsx.Child)}
    {body : Unit → Outcome Jsx.Expr}
    {m : Jsx.Markup}
    (hChildren : ∀ cs, children () = .ok cs →
      ((∃ c ∈ cs, Node.Accesses x property (.child c)) ↔
        HasCountIn x property el.children))
    (hBody : Mirrors x property body el.children)
    (hElement :
      standardElement config depth el children body = .ok m) :
    Node.Accesses x property (.expr (.markup m)) ↔
      Template.Node.HasCount x property
        (.statement (.element el)) := by
  rcases standardElement_eq_ok hElement with
    ⟨attributes, events, kids, closing, hAttributes, hEvents,
      hKids, rfl⟩
  have hNone :
      ¬ ∃ a ∈ attributes ++ events,
        Node.Accesses x property (.attr a) := by
    rintro ⟨a, hMember, hAccess⟩
    rcases List.mem_append.mp hMember with hMember | hMember
    · exact forall_mem_of_mapM_eq_ok
        (fun _ _ => attributeOf_accesses) hAttributes a hMember
        hAccess
    · exact forall_mem_of_mapM_eq_ok
        (fun _ _ => modifier_accesses) hEvents a hMember hAccess
  rw [Template.hasCount_element, Node.accesses_element,
    or_iff_right hNone]
  rcases elementChildren_eq_ok hKids with
    ⟨_, hPlain⟩ | ⟨y, hY, rfl⟩
  · exact hChildren kids hPlain
  · simpa using hBody y hY

section Blocks

variable {depth : Nat}
variable {b : Template.BlockStatement}
variable {program inverse : Unit → Outcome Jsx.Expr}
variable {y : Jsx.Expr}

/- An `else` takes what its body takes. -/
theorem inverseOrNull_accesses
    (hInverse : Mirrors x property inverse b.inverse.body)
    (hElse : inverseOrNull b inverse = .ok y) :
    Node.Accesses x property (.expr y) ↔
      HasCountIn x property b.inverse.body := by
  rcases inverseOrNull_eq_ok hElse with
    ⟨_, hSome⟩ | ⟨hAbsent, rfl⟩
  · exact hInverse y hSome
  · exact iff_of_false (Node.not_accesses_leaf trivial)
      (Template.not_hasCountIn_of_not_isPresent hAbsent)

theorem conditionalBlock_accesses
    {negate : Bool}
    (hProgram : Mirrors x property program b.program.body)
    (hInverse : Mirrors x property inverse b.inverse.body)
    (hBlock :
      conditionalBlock config depth negate b program inverse =
        .ok y) :
    Node.Accesses x property (.expr y) ↔
      HasCountIn x property b.program.body ∨
        HasCountIn x property b.inverse.body := by
  rcases conditionalBlock_eq_ok hBlock with
    ⟨param, test, consequent, alternate, _, hTest,
      hConsequent, hAlternate, hExpr⟩
  have hTest : ¬ Node.Accesses x property (.expr test) :=
    expression_accesses depth param test hTest
  have hConsequent := hProgram consequent hConsequent
  have hAlternate := inverseOrNull_accesses hInverse hAlternate
  cases negate with
  | true =>
      rw [hExpr, if_pos rfl, Node.accesses_conditional,
        or_iff_right hTest, hConsequent, hAlternate, or_comm]
  | false =>
      rw [hExpr, if_neg Bool.false_ne_true,
        Node.accesses_conditional, or_iff_right hTest,
        hConsequent, hAlternate]

/-
  An `each` over a number takes the properties `map` and,
  with an `else`, `length` of it.
-/
theorem eachBlock_accesses
    (hForm : blockForm b = .eachBlock)
    (hProgram : Mirrors x property program b.program.body)
    (hInverse : Mirrors x property inverse b.inverse.body)
    (hBlock :
      eachBlock config depth b program inverse = .ok y) :
    Node.Accesses x property (.expr y) ↔
      b.Counts x property ∨
        HasCountIn x property b.program.body ∨
        HasCountIn x property b.inverse.body := by
  rcases eachBlock_eq_ok hBlock with
    ⟨param, list, body, hParams, hList, hBody, hExpr⟩
  have hNone : ¬ Node.Accesses x property (.expr list) :=
    expression_accesses depth param list hList
  have hBody := hProgram body hBody
  have hNumber :
      list = .number x ↔
        ∃ span, b.invocation.params = [.number x span] := by
    rw [expression_eq_number_iff hList, hParams]
    simp
  have hCounts :
      b.Counts x property ↔
        list = .number x ∧ (property = "map" ∨
          property = "length" ∧ b.inverse.IsPresent) := by
    rw [hNumber]
    exact ⟨fun h => ⟨h.param, h.asked⟩,
      fun h => ⟨hForm, h.1, h.2⟩⟩
  -- The list itself takes no property: what is taken of it
  -- is what the block asks for.
  have hAppend :
      ∀ name, Node.Accesses x property
          (.expr (list.append name)) ↔
        list = .number x ∧ property = name := by
    intro name
    simp [Jsx.Expr.append, hNone, eq_comm]
  have hMapped :
      Node.Accesses x property
          (.expr (.call (list.append "map")
            [.arrow b.program.blockParams body])) ↔
        (list = .number x ∧ property = "map") ∨
          HasCountIn x property b.program.body := by
    simp [hAppend, hBody]
  rcases hExpr with ⟨hElse, other, hOther, rfl⟩ | ⟨hElse, rfl⟩
  · rw [Node.accesses_conditional, hAppend, hMapped,
      hInverse other hOther, hCounts]
    simp only [hElse, and_true, and_or_left, or_assoc,
      or_left_comm]
  · have hAbsent :
        ¬ HasCountIn x property b.inverse.body :=
      Template.not_hasCountIn_of_not_isPresent hElse
    rw [hMapped, hCounts]
    simp only [hElse, hAbsent, and_false, or_false]

/- A `let` takes what its body takes, and has no `else`. -/
theorem letBlock_accesses
    (hProgram : Mirrors x property program b.program.body)
    (hBlock : letBlock config depth b program = .ok y) :
    Node.Accesses x property (.expr y) ↔
      HasCountIn x property b.program.body ∨
        HasCountIn x property b.inverse.body := by
  have hElse : ¬ HasCountIn x property b.inverse.body := by
    refine Template.not_hasCountIn_of_not_isPresent ?_
    intro hPresent
    rw [letBlock, if_pos (Or.inr hPresent)] at hBlock
    cases hBlock
  rcases letBlock_eq_ok hBlock with
    ⟨arguments, body, hArguments, hBody, rfl⟩
  have hNone :
      ¬ ∃ a ∈ arguments, Node.Accesses x property (.expr a) := by
    rintro ⟨a, hMember, hAccess⟩
    exact expressions_accesses depth _ arguments hArguments a
      hMember hAccess
  rw [Node.accesses_call, Node.accesses_arrow,
    hProgram body hBody, or_iff_left hNone, or_iff_left hElse]

/- A body that is passed on takes what it takes itself. -/
theorem bodyFunction_accesses
    {block : Template.Block}
    {body : Unit → Outcome Jsx.Expr}
    {functions : List Jsx.Expr}
    (hEach : Mirrors x property body block.body)
    (hBody : bodyFunction block body = .ok functions) :
    (∃ f ∈ functions, Node.Accesses x property (.expr f)) ↔
      HasCountIn x property block.body := by
  rcases bodyFunction_eq_ok hBody with
    ⟨z, _, hZ, rfl⟩ | ⟨hAbsent, rfl⟩
  · simpa using hEach z hZ
  · simpa using Template.not_hasCountIn_of_not_isPresent hAbsent

/- A call with bodies takes what the bodies take. -/
theorem customBlock_accesses
    (hProgram : Mirrors x property program b.program.body)
    (hInverse : Mirrors x property inverse b.inverse.body)
    (hBlock :
      customBlock config depth b program inverse = .ok y) :
    Node.Accesses x property (.expr y) ↔
      HasCountIn x property b.program.body ∨
        HasCountIn x property b.inverse.body := by
  rcases customBlock_eq_ok hBlock with
    ⟨positional, named, first, second, hParams, hNamed,
      hFirst, hSecond, rfl⟩
  have hNone :
      ¬ ∃ a ∈ positional ++ [hashObject named],
        Node.Accesses x property (.expr a) := by
    rintro ⟨a, hMember, hAccess⟩
    rcases List.mem_append.mp hMember with hMember | hMember
    · exact expressions_accesses depth _ positional hParams a
        hMember hAccess
    · rw [List.mem_singleton.mp hMember] at hAccess
      exact hashObject_accesses
        (namedArguments_accesses depth _ named hNamed) hAccess
  rw [Node.accesses_call, or_iff_right (callee_accesses _),
    ← bodyFunction_accesses hProgram hFirst,
    ← bodyFunction_accesses hInverse hSecond]
  simp only [List.mem_append (s := positional ++ _ ++ _),
    List.mem_append (s := positional ++ _), or_and_right,
    exists_or, hNone, false_or]

/-
  A resolved block takes a property of a number by itself, if
  it repeats its body for one, or in one of its bodies.
-/
theorem standardBlock_accesses
    (hProgram : Mirrors x property program b.program.body)
    (hInverse : Mirrors x property inverse b.inverse.body)
    (hBlock :
      standardBlock config depth b program inverse = .ok y) :
    Node.Accesses x property (.expr y) ↔
      Template.Node.HasCount x property
        (.statement (.block b)) := by
  rw [Template.hasCount_block]
  unfold standardBlock at hBlock
  by_cases hForm : blockForm b = .eachBlock
  · rw [hForm] at hBlock
    exact eachBlock_accesses hForm hProgram hInverse hBlock
  · have hNone : ¬ b.Counts x property :=
      fun hCounts => hForm hCounts.form
    rw [or_iff_right hNone]
    split at hBlock
    · exact conditionalBlock_accesses hProgram hInverse hBlock
    · exact conditionalBlock_accesses hProgram hInverse hBlock
    · contradiction
    · exact letBlock_accesses hProgram hBlock
    · exact customBlock_accesses hProgram hInverse hBlock

end Blocks

------------------------------------------------------------
-- Statements
------------------------------------------------------------

open Template.Node (HasCount)

/- The children for a statement take what its value takes. -/
theorem markupChildren_accesses
    {depth : Nat}
    {s : Template.Statement}
    {cs : List Jsx.Child}
    (hValue : ∀ y,
      value (Setup.standard config) depth s = .ok y →
        (Node.Accesses x property (.expr y) ↔
          HasCount x property (.statement s)))
    (hChildren :
      markupChildren (Setup.standard config) depth s =
        .ok cs) :
    (∃ c ∈ cs, Node.Accesses x property (.child c)) ↔
      HasCount x property (.statement s) := by
  rcases markupChildren_eq_ok hChildren with
    ⟨run, rfl, rfl⟩ | ⟨c, hComment, rfl⟩ |
      ⟨y, hY, ⟨m, rfl, rfl⟩ | rfl⟩
  · refine iff_of_false ?_
      (Template.Node.IsFlat.not_hasCount trivial)
    rintro ⟨child, hMember, hAccess⟩
    exact Node.not_accesses_textChildrenFrom [] _ child hMember
      hAccess
  · have hFlat : (Template.Node.statement s).IsFlat := by
      rcases hComment with rfl | rfl <;> trivial
    refine iff_of_false ?_ hFlat.not_hasCount
    simp [Node.accesses_iff (.expr (.empty c.value)),
      Node.parts, Jsx.Expr.parts]
  · simpa using hValue _ hY
  · simpa using hValue y hY

mutual

/- The value of a statement. -/
theorem value_accesses
    (depth : Nat)
    (s : Template.Statement)
    (y : Jsx.Expr)
    (hValue :
      value (Setup.standard config) depth s = .ok y) :
    Node.Accesses x property (.expr y) ↔
      HasCount x property (.statement s) := by
  cases s with
  | element e =>
      rw [value] at hValue
      rcases bind_eq_ok hValue with ⟨m, hMarkup, hValue⟩
      cases hValue
      exact element_accesses depth e m hMarkup
  | text run =>
      rw [value] at hValue
      cases hValue
      exact iff_of_false (Node.not_accesses_leaf trivial)
        (Template.Node.IsFlat.not_hasCount trivial)
  | mustache m =>
      rw [value] at hValue
      exact iff_of_false (mustache_accesses hValue)
        (Template.Node.IsFlat.not_hasCount trivial)
  | block b =>
      rw [value] at hValue
      exact block_accesses depth b y hValue
  | comment c
  | mustacheComment c
  | modifier m
  | concat c
  | absent =>
      rw [value] at hValue
      cases hValue

/- An element. -/
theorem element_accesses
    (depth : Nat) :
    (el : Template.Element) →
      (m : Jsx.Markup) →
      (hElement :
        element (Setup.standard config) depth el = .ok m) →
      (Node.Accesses x property (.expr (.markup m)) ↔
        HasCount x property (.statement (.element el)))
  | ⟨_, _, _, _, _, _, body, _⟩, m, hElement => by
    rw [element] at hElement
    exact standardElement_accesses
      (fun cs => children_accesses depth body cs)
      (fun y => root_accesses depth body y)
      hElement

/- A block. -/
theorem block_accesses
    (depth : Nat) :
    (b : Template.BlockStatement) →
      (y : Jsx.Expr) →
      (hBlock :
        block (Setup.standard config) depth b = .ok y) →
      (Node.Accesses x property (.expr y) ↔
        HasCount x property (.statement (.block b)))
  | ⟨_, program, inverse, _⟩, y, hBlock => by
    rw [block] at hBlock
    exact standardBlock_accesses
      (fun z => branch_accesses depth program z)
      (fun z => branch_accesses depth inverse z)
      hBlock

/- A body of a block. -/
theorem branch_accesses
    (depth : Nat) :
    (b : Template.Block) →
      (y : Jsx.Expr) →
      (hBranch :
        branch (Setup.standard config) depth b = .ok y) →
      (Node.Accesses x property (.expr y) ↔
        HasCountIn x property b.body)
  | .absent, y, hBranch => by
    rw [branch] at hBranch
    cases hBranch
    simp [Template.Block.body]
  | .present body _ _ _, y, hBranch => by
    rw [branch] at hBranch
    exact root_accesses depth body y hBranch

/- Children. -/
theorem children_accesses
    (depth : Nat) :
    (body : List Template.Statement) →
      (cs : List Jsx.Child) →
      (hChildren :
        children (Setup.standard config) depth body =
          .ok cs) →
      ((∃ c ∈ cs, Node.Accesses x property (.child c)) ↔
        HasCountIn x property body)
  | [], cs, hChildren => by
    rw [children] at hChildren
    cases hChildren
    simp
  | s :: rest, cs, hChildren => by
    rcases children_cons_eq_ok hChildren with
      ⟨first, others, hFirst, hOthers, rfl⟩
    have hFirst := markupChildren_accesses
      (fun y => value_accesses (depth + 1) s y) hFirst
    have hOthers := children_accesses depth rest others hOthers
    simp only [List.mem_append, or_and_right, exists_or,
      hFirst, hOthers, Template.hasCountIn_cons]

/- Statements resolved to one expression. -/
theorem root_accesses
    (depth : Nat) :
    (body : List Template.Statement) →
      (y : Jsx.Expr) →
      (hRoot :
        root (Setup.standard config) depth body = .ok y) →
      (Node.Accesses x property (.expr y) ↔
        HasCountIn x property body)
  | [], y, hRoot => by
    rw [root] at hRoot
    cases hRoot
    simp
  | [s], y, hRoot => by
    rw [root] at hRoot
    rcases bind_eq_ok hRoot with ⟨_, _, hValue⟩
    have hValue := value_accesses (depth + 1) s y hValue
    simpa using hValue
  | s :: next :: rest, y, hRoot => by
    rw [root] at hRoot
    rcases bind_eq_ok hRoot with ⟨_, _, hRoot⟩
    rcases bind_eq_ok hRoot with ⟨first, hFirst, hRoot⟩
    rcases bind_eq_ok hRoot with ⟨others, hOthers, hRoot⟩
    cases hRoot
    have hFirst := markupChildren_accesses
      (fun z => value_accesses (depth + 1) s z) hFirst
    have hOthers :=
      children_accesses depth (next :: rest) others hOthers
    simp only [Node.accesses_fragment, List.mem_append,
      or_and_right, exists_or, hFirst, hOthers,
      Template.hasCountIn_cons]

end

------------------------------------------------------------
-- Whole Templates
------------------------------------------------------------

/-
  Every property of a number in the tree of an accepted
  template is printed so that it is read as one, exactly if
  each number that stands for the list of an `each` has no
  sign and a point.
-/
theorem numbers_readable_iff
    (config : Config)
    (t : Template)
    (e : Jsx.Expr)
    (hAccepted :
      (Setup.standard config).resolve (some t) = .ok e) :
    (∀ x property,
        Node.Occurs (.expr (.member (.number x) property))
            (.expr e) →
          Jsx.ReadsAccess
            (Jsx.Expr.member (.number x) property).print x
            property) ↔
      ∀ b x span,
        t.Contains (.statement (.block b)) →
        blockForm b = .eachBlock →
        b.invocation.params = [.number x span] →
        x.negative = false ∧ '.' ∈ x.print.toList := by
  have hMap : Text.IsLegalName "map" := by decide
  have hLength : Text.IsLegalName "length" := by decide
  have hFound :
      ∀ x property,
        Node.Accesses x property (.expr e) ↔
          HasCountIn x property t.body :=
    fun x property => root_accesses 0 t.body e hAccepted
  constructor
  · rintro hReadable b x span ⟨_, hTree, hOccurs⟩ hForm hParams
    rcases List.mem_map.mp hTree with ⟨s, hMember, rfl⟩
    have hCounts : b.Counts x "map" :=
      ⟨hForm, ⟨span, hParams⟩, Or.inl rfl⟩
    have hAccess : Node.Accesses x "map" (.expr e) :=
      (hFound x "map").mpr ⟨s, hMember, b, hOccurs, hCounts⟩
    exact (Jsx.readsAccess_print_iff x hMap).mp
      (hReadable x "map" hAccess)
  · intro hPointed x property hAccess
    rcases (hFound x property).mp hAccess with
      ⟨s, hMember, b, hOccurs, hCounts⟩
    rcases hCounts.param with ⟨span, hParams⟩
    have hContains : t.Contains (.statement (.block b)) :=
      ⟨.statement s, List.mem_map_of_mem hMember, hOccurs⟩
    have hName : Text.IsLegalName property := by
      rcases hCounts.asked with rfl | ⟨rfl, _⟩
      · exact hMap
      · exact hLength
    exact (Jsx.readsAccess_print_iff x hName).mpr
      (hPointed b x span hContains hCounts.form hParams)

/- A number in place of the list of an `each`. -/
def counted (x : Number) : Template :=
  let item : Template.Path := ⟨"item", "item", [], none⟩
  let program : Template.Block :=
    .present
      [.mustache ⟨⟨.path item, [], ⟨[], none⟩⟩, false, none⟩]
      ["item"] false none
  { body :=
      [.block
        ⟨⟨.path ⟨"each", "each", [], none⟩,
            [.number x none], ⟨[], none⟩⟩,
          program, .absent, none⟩]
    blockParams := []
    span := none }

/- The number 0.5. -/
def half : Number :=
  ⟨false, ⟨1022, by decide⟩, ⟨0, by decide⟩⟩

theorem numbers_readable_half :
    ∃ e, (Setup.standard .default).resolve
          (some (counted half)) = .ok e ∧
      ∀ x property,
        Node.Occurs (.expr (.member (.number x) property))
            (.expr e) →
          Jsx.ReadsAccess
            (Jsx.Expr.member (.number x) property).print x
            property := by
  refine ⟨_, rfl,
    (numbers_readable_iff .default (counted half) _ rfl).mpr ?_⟩
  rintro b x span ⟨_, hTree, hOccurs⟩ hForm hParams
  rw [List.mem_singleton.mp hTree] at hOccurs
  have hCount :=
    (Template.hasCount_block _).mp
      ⟨b, hOccurs, hForm, ⟨span, hParams⟩, Or.inl rfl⟩
  rcases hCount with hCounts | hProgram | hInverse
  · rcases hCounts.param with ⟨_, hHalf⟩
    cases hHalf
    exact ⟨rfl, by decide +kernel⟩
  · rcases hProgram with ⟨s, hMember, hCount⟩
    rw [List.mem_singleton.mp hMember] at hCount
    exact absurd hCount
      (Template.Node.IsFlat.not_hasCount trivial)
  · exact absurd hInverse Template.not_hasCountIn_nil

/- Zero has no point: what is printed is read as `0.` and a name. -/
theorem numbers_unreadable_zero :
    ∃ e, (Setup.standard .default).resolve
          (some (counted (.zero false))) = .ok e ∧
      Node.Occurs
        (.expr (.member (.number (.zero false)) "map"))
        (.expr e) ∧
      e.print = "0.map((item) => item)" ∧
      ¬ Jsx.ReadsAccess
        (Jsx.Expr.member (.number (.zero false)) "map").print
        (.zero false) "map" := by
  refine ⟨_, rfl, ?_, ?_, ?_⟩
  · exact .inside (List.mem_cons_self ..) (.here _)
  · decide +kernel
  · rw [Jsx.readsAccess_print_iff _ (by decide)]
    rintro ⟨_, hPoint⟩
    exact absurd hPoint (by decide)

end Resolve

end TemplateJsx
