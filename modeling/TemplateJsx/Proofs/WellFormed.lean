import TemplateJsx.Proofs.Success

/-
  The shape of resolved trees. The type of trees allows text
  with braces, comments in the place of values, elements that
  close themselves around children, operators other than
  sums and functions whose body would be read as a block. No
  resolved tree contains any of these.

  A tree is taken apart into nodes, and what holds of every
  node that occurs in it is proved from what holds of a node
  and of its parts.

  Key definitions include:
    * `Jsx.Node.parts`
    * `Jsx.Node.Occurs`
    * `Jsx.Expr.StartsWithObject`
    * `Jsx.Node.Fits`
    * `Jsx.Expr.WellFormed`
    * `Jsx.Node.Sound`
    * `Jsx.Expr.Settled`

  Main declarations:
    * `Jsx.Node.Sound.of_parts`
    * `Resolve.expression_settled`
    * `Resolve.standardElement_sound`
    * `Resolve.standardBlock_settled`
    * `Resolve.root_settled`
    * `Resolve.resolve_wellFormed`
-/

------------------------------------------------------------
-- Nodes in Trees
------------------------------------------------------------

namespace TemplateJsx

namespace Jsx

/- The nodes directly below markup. -/
def Markup.parts : Markup → List Node
  | .element name attributes children _ =>
      .tagName name :: attributes.map .attr
        ++ children.map .child
  | .fragment children => children.map .child

/- The nodes directly below an expression. -/
def Expr.parts : Expr → List Node
  | .member base _ => [.expr base]
  | .call callee arguments => .expr callee :: arguments.map .expr
  | .object properties => properties.map .property
  | .binary _ left right => [.expr left, .expr right]
  | .conditional test consequent alternate =>
      [.expr test, .expr consequent, .expr alternate]
  | .arrow _ body => [.expr body]
  | .markup m => m.parts
  | .identifier _ => []
  | .string _ => []
  | .number _ => []
  | .boolean _ => []
  | .null => []
  | .empty _ => []

namespace Node

/- The nodes directly below a node. -/
def parts : Node → List Node
  | .expr e => e.parts
  | .property (.mk _ value) => [.expr value]
  | .attr (.container _ value) => [.expr value]
  | .attr (.spread argument) => [.expr argument]
  | .attr (.bare _) => []
  | .attr (.text _ _) => []
  | .child (.markup markup) => markup.parts
  | .child (.container expression) => [.expr expression]
  | .child (.text _) => []
  | .tagName (.member object _) => [.tagName object]
  | .tagName (.identifier _) => []

/- A node is found in a tree, at its root or below it. -/
inductive Occurs : Node → Node → Prop
  | here
      (n : Node) :
      Occurs n n
  | inside
      {n part whole : Node}
      (hPart : part ∈ whole.parts)
      (hOccurs : Occurs n part) :
      Occurs n whole

end Node

------------------------------------------------------------
-- Well-Formed Trees
------------------------------------------------------------

/-
  What is printed first of an expression is an object. It is
  found along the objects of members, the callees of calls,
  left operands and tests.
-/
def Expr.StartsWithObject : Expr → Prop
  | .object _ => True
  | .member base _ => base.StartsWithObject
  | .call callee _ => callee.StartsWithObject
  | .binary _ left _ => left.StartsWithObject
  | .conditional test _ _ => test.StartsWithObject
  | _ => False

/- Markup that closes itself has no children. -/
def Markup.ClosesEmpty : Markup → Prop
  | .element _ _ children selfClosing =>
      selfClosing = true → children = []
  | .fragment _ => True

/-
  What is asked of a single node: text holds no braces,
  markup that closes itself has no children, sums are the
  only operations, and the body of a function does not start
  with an object.
-/
def Node.Fits : Node → Prop
  | .child (.text value) =>
      '\x7b' ∉ value.toList ∧ '\x7d' ∉ value.toList
  | .child (.markup markup) => markup.ClosesEmpty
  | .expr (.markup markup) => markup.ClosesEmpty
  | .expr (.binary operator _ _) => operator = .add
  | .expr (.arrow _ body) => ¬ body.StartsWithObject
  | _ => True

/-
  What is asked of a node and its parts: only a container
  among children may hold an empty expression.
-/
def Node.KeepsComments (n : Node) : Prop :=
  ∀ comment, .expr (.empty comment) ∈ n.parts →
    n = .child (.container (.empty comment))

/-
  Every node of the tree is as it should be, and the tree
  itself is not an empty expression.
-/
structure Expr.WellFormed (e : Expr) : Prop where
  fits : ∀ n : Node, n.Occurs (.expr e) → n.Fits
  comments : ∀ n : Node, n.Occurs (.expr e) → n.KeepsComments
  filled : ∀ comment, e ≠ .empty comment

------------------------------------------------------------
-- Sound Nodes
------------------------------------------------------------

/- All is as it should be at a node and below it. -/
structure Node.Sound (n : Node) : Prop where
  fits : ∀ m : Node, m.Occurs n → m.Fits
  comments : ∀ m : Node, m.Occurs n → m.KeepsComments
  filled : ∀ comment, n ≠ .expr (.empty comment)

namespace Node.Sound

/-
  A node is sound if its parts are and it fits itself. Its
  parts are no empty expressions then, so that none of them
  is out of place.
-/
theorem of_parts
    {n : Node}
    (hFilled : ∀ comment, n ≠ .expr (.empty comment))
    (hFits : n.Fits)
    (hParts : ∀ part ∈ n.parts, part.Sound) :
    n.Sound := by
  refine ⟨?_, ?_, hFilled⟩
  · intro m hOccurs
    cases hOccurs with
    | here => exact hFits
    | inside hPart hOccurs =>
        exact (hParts _ hPart).fits m hOccurs
  · intro m hOccurs
    cases hOccurs with
    | here =>
        intro comment hPart
        exact absurd rfl ((hParts _ hPart).filled comment)
    | inside hPart hOccurs =>
        exact (hParts _ hPart).comments m hOccurs

/- A comment among children is sound. -/
theorem comment
    (value : String) :
    Node.Sound (.child (.container (.empty value))) := by
  have hLeaf : ∀ m : Node, m.Occurs (.expr (.empty value)) →
      m = .expr (.empty value) := by
    intro m hOccurs
    cases hOccurs with
    | here => rfl
    | inside hPart _ => cases hPart
  refine ⟨?_, ?_, by simp⟩
  · intro m hOccurs
    cases hOccurs with
    | here => trivial
    | inside hPart hOccurs =>
        rw [List.mem_singleton.mp hPart] at hOccurs
        rw [hLeaf m hOccurs]
        trivial
  · intro m hOccurs
    cases hOccurs with
    | here =>
        intro other hPart
        cases List.mem_singleton.mp hPart
        rfl
    | inside hPart hOccurs =>
        rw [List.mem_singleton.mp hPart] at hOccurs
        rw [hLeaf m hOccurs]
        intro other hNone
        cases hNone

end Node.Sound

/- The name of a tag is sound. -/
theorem TagName.sound
    (name : TagName) :
    Node.Sound (.tagName name) := by
  induction name with
  | identifier name =>
      exact .of_parts (by simp) trivial (by simp [Node.parts])
  | member base property ih =>
      exact .of_parts (by simp) trivial
        (by simpa [Node.parts] using ih)

/- All is as it should be in markup. -/
structure Markup.Sound (m : Markup) : Prop where
  closes : m.ClosesEmpty
  parts : ∀ part ∈ m.parts, part.Sound

/- Markup that is a sound expression is a sound child. -/
theorem Node.Sound.child
    {m : Markup}
    (hMarkup : Node.Sound (.expr (.markup m))) :
    Node.Sound (.child (.markup m)) := by
  refine ⟨?_, ?_, by simp⟩
  · intro n hOccurs
    cases hOccurs with
    | here =>
        have hCloses := hMarkup.fits _ (.here _)
        exact hCloses
    | inside hPart hOccurs =>
        exact hMarkup.fits n (.inside hPart hOccurs)
  · intro n hOccurs
    cases hOccurs with
    | here =>
        intro comment hPart
        cases hMarkup.comments _ (.here _) comment hPart
    | inside hPart hOccurs =>
        exact hMarkup.comments n (.inside hPart hOccurs)

/- An element is sound if all that stands in it is. -/
theorem Markup.sound_element
    {name : TagName}
    {attributes : List Attribute}
    {children : List Child}
    {selfClosing : Bool}
    (hAttributes :
      ∀ a ∈ attributes, Node.Sound (.attr a))
    (hChildren : ∀ c ∈ children, Node.Sound (.child c))
    (hClosing : selfClosing = true → children = []) :
    Markup.Sound
      (.element name attributes children selfClosing) := by
  refine ⟨hClosing, ?_⟩
  intro part hPart
  simp only [Markup.parts, List.cons_append, List.mem_cons,
    List.mem_append, List.mem_map] at hPart
  rcases hPart with rfl | ⟨a, hMember, rfl⟩ | ⟨c, hMember, rfl⟩
  · exact name.sound
  · exact hAttributes a hMember
  · exact hChildren c hMember

/- A fragment is sound if its children are. -/
theorem Markup.sound_fragment
    {children : List Child}
    (hChildren : ∀ c ∈ children, Node.Sound (.child c)) :
    Markup.Sound (.fragment children) := by
  refine ⟨trivial, ?_⟩
  intro part hPart
  rcases List.mem_map.mp hPart with ⟨c, hMember, rfl⟩
  exact hChildren c hMember

/- A container among children is sound with its expression. -/
theorem Node.Sound.container
    {e : Expr}
    (hExpr : Node.Sound (.expr e)) :
    Node.Sound (.child (.container e)) :=
  .of_parts (by simp) trivial (by simpa [Node.parts] using hExpr)

------------------------------------------------------------
-- Settled Expressions
------------------------------------------------------------

/-
  An expression that may be the body of a function: it is
  sound and does not start with an object.
-/
structure Expr.Settled (e : Expr) : Prop where
  sound : Node.Sound (.expr e)
  starts : ¬ e.StartsWithObject

/- A name or a literal. -/
def Expr.IsLeaf : Expr → Prop
  | .identifier _ => True
  | .string _ => True
  | .number _ => True
  | .boolean _ => True
  | .null => True
  | _ => False

namespace Expr.Settled

/- Names and literals are settled. -/
theorem leaf
    {e : Expr}
    (hLeaf : e.IsLeaf) :
    e.Settled := by
  cases e with
  | identifier _ | string _ | number _ | boolean _ | null =>
      exact ⟨.of_parts (by simp) trivial (List.forall_mem_nil _),
        id⟩
  | _ => exact hLeaf.elim

theorem member
    {base : Expr}
    (hBase : base.Settled)
    (property : String) :
    (Expr.member base property).Settled := by
  refine ⟨.of_parts (by simp) trivial ?_, hBase.starts⟩
  simpa [Node.parts, Expr.parts] using hBase.sound

theorem extend
    {base : Expr}
    (hBase : base.Settled)
    (names : List String) :
    (base.extend names).Settled := by
  induction names generalizing base with
  | nil => exact hBase
  | cons name names ih => exact ih (hBase.member name)

theorem call
    {callee : Expr}
    {arguments : List Expr}
    (hCallee : callee.Settled)
    (hArguments : ∀ a ∈ arguments, Node.Sound (.expr a)) :
    (Expr.call callee arguments).Settled := by
  refine ⟨.of_parts (by simp) trivial ?_, hCallee.starts⟩
  intro part hPart
  simp only [Node.parts, Expr.parts, List.mem_cons,
    List.mem_map] at hPart
  rcases hPart with rfl | ⟨a, hMember, rfl⟩
  · exact hCallee.sound
  · exact hArguments a hMember

theorem add
    {left right : Expr}
    (hLeft : left.Settled)
    (hRight : right.Settled) :
    (Expr.binary .add left right).Settled := by
  refine ⟨.of_parts (by simp) rfl ?_, hLeft.starts⟩
  simpa [Node.parts, Expr.parts] using
    ⟨hLeft.sound, hRight.sound⟩

theorem conditional
    {test consequent alternate : Expr}
    (hTest : test.Settled)
    (hConsequent : consequent.Settled)
    (hAlternate : alternate.Settled) :
    (Expr.conditional test consequent alternate).Settled := by
  refine ⟨.of_parts (by simp) trivial ?_, hTest.starts⟩
  simpa [Node.parts, Expr.parts] using
    ⟨hTest.sound, hConsequent.sound, hAlternate.sound⟩

theorem arrow
    {body : Expr}
    (params : List String)
    (hBody : body.Settled) :
    (Expr.arrow params body).Settled := by
  refine ⟨.of_parts (by simp) hBody.starts ?_, id⟩
  simpa [Node.parts, Expr.parts] using hBody.sound

theorem markup
    {m : Markup}
    (hMarkup : m.Sound) :
    (Expr.markup m).Settled :=
  ⟨.of_parts (by simp) hMarkup.closes hMarkup.parts, id⟩

end Expr.Settled

/- Objects are sound with their properties. -/
theorem Node.Sound.object
    {properties : List Property}
    (hProperties :
      ∀ p ∈ properties, Node.Sound (.property p)) :
    Node.Sound (.expr (.object properties)) := by
  refine .of_parts (by simp) trivial ?_
  intro part hPart
  rcases List.mem_map.mp hPart with ⟨p, hMember, rfl⟩
  exact hProperties p hMember

/- Properties are sound with their values. -/
theorem Node.Sound.property
    {value : Expr}
    (key : String)
    (hValue : Node.Sound (.expr value)) :
    Node.Sound (.property (.mk key value)) :=
  .of_parts (by simp) trivial (by simpa [Node.parts] using hValue)

/- The children for raw text are sound. -/
theorem sound_textChildrenFrom
    (run cs : List Char)
    (hRun : ∀ c ∈ run, isBrace c = false) :
    ∀ child ∈ textChildrenFrom run cs,
      Node.Sound (.child child) := by
  have hText : ∀ run : List Char,
      (∀ c ∈ run, isBrace c = false) →
        Node.Sound
          (.child (.text (String.ofList run.reverse))) := by
    intro run hRun
    refine .of_parts (by simp) ?_ (by simp [Node.parts])
    constructor
    · intro hBrace
      have hFalse := hRun '\x7b' (by simpa using hBrace)
      cases hFalse
    · intro hBrace
      have hFalse := hRun '\x7d' (by simpa using hBrace)
      cases hFalse
  induction cs generalizing run with
  | nil =>
      intro child hMember
      rw [textChildrenFrom] at hMember
      rw [List.mem_singleton.mp hMember]
      exact hText run hRun
  | cons c rest ih =>
      intro child hMember
      rw [textChildrenFrom] at hMember
      by_cases hBrace : isBrace c = true
      · rw [if_pos hBrace] at hMember
        rcases List.mem_cons.mp hMember with rfl | hMember
        · exact hText run hRun
        · rcases List.mem_cons.mp hMember with rfl | hMember
          · have hLeaf : (Expr.string c.toString).Settled :=
              .leaf trivial
            exact .container hLeaf.sound
          · exact ih [] (by simp) child hMember
      · rw [if_neg hBrace] at hMember
        refine ih (c :: run) ?_ child hMember
        rw [List.forall_mem_cons]
        exact ⟨by simpa using hBrace, hRun⟩

end Jsx

------------------------------------------------------------
-- Expressions
------------------------------------------------------------

namespace Resolve

open Jsx (Node)

variable {config : Config}

/- A resolved path is settled. -/
theorem path_settled
    {p : Template.Path}
    {x : Jsx.Expr}
    (hPath : path p = .ok x) :
    x.Settled := by
  rcases path_eq_ok hPath with ⟨head, tail, hNames, _⟩
  rw [path_of_segments hNames] at hPath
  cases hPath
  apply Jsx.Expr.Settled.extend
  by_cases hArgument : p.IsArgument
  · rw [if_pos hArgument]
    have hBase : (Jsx.Expr.identifier argumentsName).Settled :=
      .leaf trivial
    exact hBase.member head
  · rw [if_neg hArgument]
    exact .leaf trivial

/- What is called is settled. -/
theorem callee_settled
    (target : Template.Expr) :
    (callee target).Settled := by
  cases target with
  | path p =>
      simp only [callee]
      cases hPath : path p with
      | ok members => exact path_settled hPath
      | error kind => exact .leaf trivial
  | _ => exact .leaf trivial

/- The object of named arguments is sound. -/
theorem hashObject_sound
    {named : List Jsx.Property}
    (hNamed : ∀ p ∈ named, Node.Sound (.property p)) :
    Node.Sound (.expr (hashObject named)) := by
  refine .object ?_
  intro p hMember
  rw [List.mem_singleton.mp hMember]
  exact .property hashName (.object hNamed)

mutual

/- A resolved expression is settled. -/
theorem expression_settled
    (depth : Nat)
    (e : Template.Expr)
    (x : Jsx.Expr)
    (hExpr : expression config depth e = .ok x) :
    x.Settled := by
  cases e with
  | path p => exact path_settled (expression_path_eq_ok hExpr)
  | call i span =>
      rw [expression] at hExpr
      rcases bind_eq_ok hExpr with ⟨_, _, hCall⟩
      exact helperCall_settled (depth + 1) i x hCall
  | absent =>
      rw [expression] at hExpr
      rcases bind_eq_ok hExpr with ⟨_, _, hAbsent⟩
      cases hAbsent
  | boolean value span
  | null span
  | undefined span
  | number value span
  | string value span =>
      rw [expression] at hExpr
      rcases bind_eq_ok hExpr with ⟨_, _, hLeaf⟩
      cases hLeaf
      exact .leaf trivial

/- A resolved invocation is settled. -/
theorem helperCall_settled
    (depth : Nat) :
    (i : Template.Invocation) →
      (x : Jsx.Expr) →
      (hCall : helperCall config depth i = .ok x) →
      x.Settled
  | ⟨target, params, ⟨pairs, span⟩⟩, x, hCall => by
    rcases helperCall_eq_ok hCall with
      ⟨positional, named, hParams, hNamed, hExpr⟩
    rw [hExpr]
    refine .call (callee_settled _) ?_
    intro a hMember
    rcases List.mem_append.mp hMember with hMember | hMember
    · exact (expressions_settled depth params positional
        hParams a hMember).sound
    · rw [List.mem_singleton.mp hMember]
      exact hashObject_sound
        (namedArguments_sound depth pairs named hNamed)

/- Resolved expressions are settled. -/
theorem expressions_settled
    (depth : Nat) :
    (es : List Template.Expr) →
      (xs : List Jsx.Expr) →
      (hAll : expressions config depth es = .ok xs) →
      ∀ x ∈ xs, x.Settled
  | [], xs, hAll => by
    rw [expressions] at hAll
    cases hAll
    exact List.forall_mem_nil _
  | e :: rest, xs, hAll => by
    rcases expressions_cons_eq_ok hAll with
      ⟨first, others, hFirst, hOthers, hList⟩
    rw [hList, List.forall_mem_cons]
    exact ⟨expression_settled depth e first hFirst,
      expressions_settled depth rest others hOthers⟩

/- Resolved named arguments are sound. -/
theorem namedArguments_sound
    (depth : Nat) :
    (pairs : List Template.Pair) →
      (ps : List Jsx.Property) →
      (hAll : namedArguments config depth pairs = .ok ps) →
      ∀ p ∈ ps, Node.Sound (.property p)
  | [], ps, hAll => by
    rw [namedArguments] at hAll
    cases hAll
    exact List.forall_mem_nil _
  | ⟨key, value, span⟩ :: rest, ps, hAll => by
    rcases namedArguments_cons_eq_ok hAll with
      ⟨first, others, hFirst, hOthers, hList⟩
    rw [hList, List.forall_mem_cons]
    exact
      ⟨.property key
          (expression_settled depth value first hFirst).sound,
        namedArguments_sound depth rest others hOthers⟩

end

------------------------------------------------------------
-- Values in Opening Tags
------------------------------------------------------------

/- What stands in braces is settled. -/
theorem mustache_settled
    {depth : Nat}
    {m : Template.Mustache}
    {x : Jsx.Expr}
    (hMustache : mustache config depth m = .ok x) :
    x.Settled := by
  rcases mustache_eq_ok hMustache with
    ⟨_, hCallee⟩ | ⟨_, hCall⟩
  · exact expression_settled depth _ x hCallee
  · exact helperCall_settled depth _ x hCall

/- A part of an interpolated text is settled. -/
theorem partValue_settled
    {depth : Nat}
    {part : Template.TextPart}
    {x : Jsx.Expr}
    (hPart : partValue config depth part = .ok x) :
    x.Settled := by
  rcases partValue_eq_ok hPart with
    ⟨run, _, hText⟩ | ⟨m, _, hMustache⟩
  · rw [hText]
    exact .leaf trivial
  · exact mustache_settled hMustache

/- A sum of parts is settled. -/
theorem sumFrom_settled
    {depth : Nat}
    {sum x : Jsx.Expr}
    {parts : List Template.TextPart}
    (hStart : sum.Settled)
    (hSum : sumFrom config depth sum parts = .ok x) :
    x.Settled := by
  induction parts generalizing sum with
  | nil =>
      cases hSum
      exact hStart
  | cons part rest ih =>
      rcases bind_eq_ok hSum with ⟨next, hNext, hSum⟩
      exact ih (hStart.add (partValue_settled hNext)) hSum

/- An interpolated text is settled. -/
theorem concat_settled
    {depth : Nat}
    {parts : List Template.TextPart}
    {x : Jsx.Expr}
    (hConcat : concat config depth parts = .ok x) :
    x.Settled := by
  cases parts with
  | nil =>
      cases hConcat
      exact .leaf trivial
  | cons part rest =>
      rcases bind_eq_ok hConcat with ⟨first, hFirst, hSum⟩
      exact sumFrom_settled (partValue_settled hFirst) hSum

/- An attribute with an expression is sound. -/
theorem container_sound
    {x : Jsx.Expr}
    (name : String)
    (hValue : x.Settled) :
    Node.Sound (.attr (.container name x)) :=
  .of_parts (by simp) trivial
    (by simpa [Node.parts] using hValue.sound)

/- A resolved attribute is sound. -/
theorem attributeOf_sound
    {depth : Nat}
    {a : Template.Attribute}
    {result : Jsx.Attribute}
    (hAttribute : attributeOf config depth a = .ok result) :
    Node.Sound (.attr result) := by
  rcases attributeOf_eq_ok hAttribute with
    ⟨_, rfl⟩ | ⟨_, ⟨rfl, _⟩ | ⟨run, _, rfl⟩ |
      ⟨m, x, _, hValue, rfl⟩ | ⟨c, x, _, hValue, rfl⟩⟩
  · have hName : (Jsx.Expr.identifier attributesName).Settled :=
      .leaf trivial
    exact .of_parts (by simp) trivial
      (by simpa [Node.parts] using hName.sound)
  · exact .of_parts (by simp) trivial (by simp [Node.parts])
  · exact .of_parts (by simp) trivial (by simp [Node.parts])
  · exact container_sound _ (mustache_settled hValue)
  · exact container_sound _ (concat_settled hValue)

/- A resolved modifier is sound. -/
theorem modifier_sound
    {depth : Nat}
    {m : Template.Modifier}
    {result : Jsx.Attribute}
    (hModifier : modifier config depth m = .ok result) :
    Node.Sound (.attr result) := by
  rcases modifier_eq_ok hModifier with
    ⟨_, event, handler, x, _, hHandler, rfl⟩
  exact container_sound _
    (expression_settled depth handler x hHandler)

/- What is found for each member of a list is sound. -/
theorem mapM_sound
    {α : Type}
    {f : α → Outcome Jsx.Attribute}
    {as : List α}
    {results : List Jsx.Attribute}
    (hEach : ∀ a result, f a = .ok result →
      Node.Sound (.attr result))
    (hAll : as.mapM f = .ok results) :
    ∀ result ∈ results, Node.Sound (.attr result) := by
  induction as generalizing results with
  | nil =>
      cases hAll
      exact List.forall_mem_nil _
  | cons a rest ih =>
      rcases mapM_eq_ok_cons hAll with
        ⟨first, others, hFirst, hOthers, rfl⟩
      rw [List.forall_mem_cons]
      exact ⟨hEach a first hFirst, ih hOthers⟩

------------------------------------------------------------
-- Elements and Blocks
------------------------------------------------------------

/-
  A resolved element is sound, provided that what stands in
  it is.
-/
theorem standardElement_sound
    {depth : Nat}
    {el : Template.Element}
    {children : Unit → Outcome (List Jsx.Child)}
    {body : Unit → Outcome Jsx.Expr}
    {m : Jsx.Markup}
    (hChildren : ∀ cs, children () = .ok cs →
      ∀ c ∈ cs, Node.Sound (.child c))
    (hBody : ∀ x, body () = .ok x → x.Settled)
    (hElement :
      standardElement config depth el children body = .ok m) :
    m.Sound := by
  rcases standardElement_eq_ok hElement with
    ⟨attributes, events, kids, closing, hAttributes, hEvents,
      hKids, rfl⟩
  refine Jsx.Markup.sound_element ?_ ?_ ?_
  · intro a hMember
    rcases List.mem_append.mp hMember with hMember | hMember
    · exact mapM_sound (fun _ _ => attributeOf_sound)
        hAttributes a hMember
    · exact mapM_sound (fun _ _ => modifier_sound) hEvents a
        hMember
  · rcases elementChildren_eq_ok hKids with
      ⟨_, hPlain⟩ | ⟨x, hX, rfl⟩
    · exact hChildren kids hPlain
    · intro c hMember
      rw [List.mem_singleton.mp hMember]
      exact .container ((hBody x hX).arrow _).sound
  · rintro rfl
    exact standardElement_closing hElement

section Blocks

variable {depth : Nat}
variable {b : Template.BlockStatement}
variable {program inverse : Unit → Outcome Jsx.Expr}
variable {x : Jsx.Expr}

theorem conditionalBlock_settled
    {negate : Bool}
    (hProgram : ∀ y, program () = .ok y → y.Settled)
    (hInverse : ∀ y, inverse () = .ok y → y.Settled)
    (hBlock :
      conditionalBlock config depth negate b program inverse =
        .ok x) :
    x.Settled := by
  rcases conditionalBlock_eq_ok hBlock with
    ⟨param, test, consequent, alternate, _, hTest,
      hConsequent, hAlternate, hExpr⟩
  have hTest := expression_settled depth param test hTest
  have hConsequent := hProgram consequent hConsequent
  have hAlternate : alternate.Settled := by
    rcases inverseOrNull_eq_ok hAlternate with
      ⟨_, hSome⟩ | ⟨_, rfl⟩
    · exact hInverse alternate hSome
    · exact .leaf trivial
  cases negate with
  | true =>
      rw [hExpr, if_pos rfl]
      exact hTest.conditional hAlternate hConsequent
  | false =>
      rw [hExpr, if_neg Bool.false_ne_true]
      exact hTest.conditional hConsequent hAlternate

theorem eachBlock_settled
    (hProgram : ∀ y, program () = .ok y → y.Settled)
    (hInverse : ∀ y, inverse () = .ok y → y.Settled)
    (hBlock :
      eachBlock config depth b program inverse = .ok x) :
    x.Settled := by
  rcases eachBlock_eq_ok hBlock with
    ⟨param, list, body, _, hList, hBody, hExpr⟩
  have hList := expression_settled depth param list hList
  have hMapped :
      (Jsx.Expr.call (list.append "map")
        [.arrow b.program.blockParams body]).Settled := by
    refine (hList.member "map").call ?_
    intro a hMember
    rw [List.mem_singleton.mp hMember]
    exact ((hProgram body hBody).arrow _).sound
  rcases hExpr with ⟨_, other, hOther, rfl⟩ | ⟨_, rfl⟩
  · exact (hList.member "length").conditional hMapped
      (hInverse other hOther)
  · exact hMapped

theorem letBlock_settled
    (hProgram : ∀ y, program () = .ok y → y.Settled)
    (hBlock : letBlock config depth b program = .ok x) :
    x.Settled := by
  rcases letBlock_eq_ok hBlock with
    ⟨arguments, body, hArguments, hBody, rfl⟩
  refine ((hProgram body hBody).arrow _).call ?_
  intro a hMember
  exact (expressions_settled depth _ arguments hArguments a
    hMember).sound

/- A body that is passed on is a sound argument. -/
theorem bodyFunction_sound
    {block : Template.Block}
    {body : Unit → Outcome Jsx.Expr}
    {xs : List Jsx.Expr}
    (hBody : ∀ y, body () = .ok y → y.Settled)
    (hFunction : bodyFunction block body = .ok xs) :
    ∀ a ∈ xs, Node.Sound (.expr a) := by
  rcases bodyFunction_eq_ok hFunction with
    ⟨y, _, hY, rfl⟩ | ⟨_, rfl⟩
  · intro a hMember
    rw [List.mem_singleton.mp hMember]
    exact ((hBody y hY).arrow _).sound
  · exact List.forall_mem_nil _

theorem customBlock_settled
    (hProgram : ∀ y, program () = .ok y → y.Settled)
    (hInverse : ∀ y, inverse () = .ok y → y.Settled)
    (hBlock :
      customBlock config depth b program inverse = .ok x) :
    x.Settled := by
  rcases customBlock_eq_ok hBlock with
    ⟨positional, named, first, second, hParams, hNamed,
      hFirst, hSecond, rfl⟩
  refine (callee_settled _).call ?_
  simp only [List.mem_append, List.mem_singleton]
  rintro a (((hMember | rfl) | hMember) | hMember)
  · exact (expressions_settled depth _ positional hParams a
      hMember).sound
  · exact hashObject_sound
      (namedArguments_sound depth _ named hNamed)
  · exact bodyFunction_sound hProgram hFirst a hMember
  · exact bodyFunction_sound hInverse hSecond a hMember

/-
  A resolved block is settled, provided that its bodies are.
-/
theorem standardBlock_settled
    (hProgram : ∀ y, program () = .ok y → y.Settled)
    (hInverse : ∀ y, inverse () = .ok y → y.Settled)
    (hBlock :
      standardBlock config depth b program inverse = .ok x) :
    x.Settled := by
  unfold standardBlock at hBlock
  cases hForm : blockForm b with
  | ifBlock | unlessBlock =>
      rw [hForm] at hBlock
      exact conditionalBlock_settled hProgram hInverse hBlock
  | eachBlock =>
      rw [hForm] at hBlock
      exact eachBlock_settled hProgram hInverse hBlock
  | letBlock =>
      rw [hForm] at hBlock
      exact letBlock_settled hProgram hBlock
  | custom =>
      rw [hForm] at hBlock
      exact customBlock_settled hProgram hInverse hBlock

end Blocks

------------------------------------------------------------
-- Statements
------------------------------------------------------------

/- A statement is a sound child if its value is settled. -/
theorem markupChildren_sound
    {depth : Nat}
    {s : Template.Statement}
    {cs : List Jsx.Child}
    (hValue : ∀ x,
      value (Setup.standard config) depth s = .ok x →
        x.Settled)
    (hChildren :
      markupChildren (Setup.standard config) depth s =
        .ok cs) :
    ∀ c ∈ cs, Node.Sound (.child c) := by
  rcases markupChildren_eq_ok hChildren with
    ⟨run, _, rfl⟩ | ⟨c, _, rfl⟩ |
      ⟨x, hX, ⟨m, rfl, rfl⟩ | rfl⟩
  · exact Jsx.sound_textChildrenFrom [] _ (by simp)
  · intro child hMember
    rw [List.mem_singleton.mp hMember]
    exact .comment c.value
  · intro child hMember
    rw [List.mem_singleton.mp hMember]
    exact (hValue _ hX).sound.child
  · intro child hMember
    rw [List.mem_singleton.mp hMember]
    exact .container (hValue x hX).sound

mutual

/- The value of a statement is settled. -/
theorem value_settled
    (depth : Nat)
    (s : Template.Statement)
    (x : Jsx.Expr)
    (hValue :
      value (Setup.standard config) depth s = .ok x) :
    x.Settled := by
  cases s with
  | element e =>
      rw [value] at hValue
      rcases bind_eq_ok hValue with ⟨m, hMarkup, hValue⟩
      cases hValue
      exact .markup (element_sound depth e m hMarkup)
  | text run =>
      rw [value] at hValue
      cases hValue
      exact .leaf trivial
  | mustache m =>
      rw [value] at hValue
      exact mustache_settled hValue
  | block b =>
      rw [value] at hValue
      exact block_settled depth b x hValue
  | comment c
  | mustacheComment c
  | modifier m
  | concat c
  | absent =>
      rw [value] at hValue
      cases hValue

/- A resolved element is sound. -/
theorem element_sound
    (depth : Nat) :
    (e : Template.Element) →
      (m : Jsx.Markup) →
      (hElement :
        element (Setup.standard config) depth e = .ok m) →
      m.Sound
  | ⟨_, _, _, _, _, _, body, _⟩, m, hElement => by
    rw [element] at hElement
    exact standardElement_sound
      (fun cs => children_sound depth body cs)
      (fun x => root_settled depth body x)
      hElement

/- A resolved block is settled. -/
theorem block_settled
    (depth : Nat) :
    (b : Template.BlockStatement) →
      (x : Jsx.Expr) →
      (hBlock :
        block (Setup.standard config) depth b = .ok x) →
      x.Settled
  | ⟨_, program, inverse, _⟩, x, hBlock => by
    rw [block] at hBlock
    exact standardBlock_settled
      (fun y => branch_settled depth program y)
      (fun y => branch_settled depth inverse y)
      hBlock

/- The resolved body of a block is settled. -/
theorem branch_settled
    (depth : Nat) :
    (b : Template.Block) →
      (x : Jsx.Expr) →
      (hBranch :
        branch (Setup.standard config) depth b = .ok x) →
      x.Settled
  | .absent, x, hBranch => by
    rw [branch] at hBranch
    cases hBranch
    exact .markup (Jsx.Markup.sound_fragment (by simp))
  | .present body _ _ _, x, hBranch => by
    rw [branch] at hBranch
    exact root_settled depth body x hBranch

/- Resolved children are sound. -/
theorem children_sound
    (depth : Nat) :
    (body : List Template.Statement) →
      (cs : List Jsx.Child) →
      (hChildren :
        children (Setup.standard config) depth body =
          .ok cs) →
      ∀ c ∈ cs, Node.Sound (.child c)
  | [], cs, hChildren => by
    rw [children] at hChildren
    cases hChildren
    exact List.forall_mem_nil _
  | s :: rest, cs, hChildren => by
    rcases children_cons_eq_ok hChildren with
      ⟨first, others, hFirst, hOthers, rfl⟩
    rw [List.forall_mem_append]
    exact
      ⟨markupChildren_sound
          (fun x => value_settled (depth + 1) s x) hFirst,
        children_sound depth rest others hOthers⟩

/- Statements resolved to one expression are settled. -/
theorem root_settled
    (depth : Nat) :
    (body : List Template.Statement) →
      (x : Jsx.Expr) →
      (hRoot :
        root (Setup.standard config) depth body = .ok x) →
      x.Settled
  | [], x, hRoot => by
    rw [root] at hRoot
    cases hRoot
    exact .markup (Jsx.Markup.sound_fragment (by simp))
  | [s], x, hRoot => by
    rw [root] at hRoot
    rcases bind_eq_ok hRoot with ⟨_, _, hValue⟩
    exact value_settled (depth + 1) s x hValue
  | s :: next :: rest, x, hRoot => by
    rw [root] at hRoot
    rcases bind_eq_ok hRoot with ⟨_, _, hRoot⟩
    rcases bind_eq_ok hRoot with ⟨first, hFirst, hRoot⟩
    rcases bind_eq_ok hRoot with ⟨others, hOthers, hRoot⟩
    cases hRoot
    refine .markup (Jsx.Markup.sound_fragment ?_)
    rw [List.forall_mem_append]
    exact
      ⟨markupChildren_sound
          (fun y => value_settled (depth + 1) s y) hFirst,
        children_sound depth (next :: rest) others hOthers⟩

end

------------------------------------------------------------
-- Whole Templates
------------------------------------------------------------

/-
  The tree of every accepted template is well formed, under
  every configuration.
-/
theorem resolve_wellFormed
    (config : Config)
    (t : Template)
    (e : Jsx.Expr)
    (hAccepted :
      (Setup.standard config).resolve (some t) = .ok e) :
    e.WellFormed := by
  have hSettled := root_settled 0 t.body e hAccepted
  refine ⟨hSettled.sound.fits, hSettled.sound.comments, ?_⟩
  intro comment hEmpty
  exact hSettled.sound.filled comment (by rw [hEmpty])

/-
  Raw text with a brace, a comment, and an element that is
  closed at once, repeated for every item of a list.
-/
def listed : Template :=
  let items : Template.Path := ⟨"items", "items", [], none⟩
  let program : Template.Block :=
    .present
      [.element ⟨"br", true, [], [], [], [], [], none⟩]
      ["item"] false none
  { body :=
      [.text ⟨"a\x7bb", none⟩, .comment ⟨"c", none⟩,
        .block
          ⟨⟨.path ⟨"each", "each", [], none⟩,
              [.path items], ⟨[], none⟩⟩,
            program, .absent, none⟩]
    blockParams := []
    span := none }

theorem resolve_wellFormed_listed :
    ∃ e, (Setup.standard .default).resolve (some listed) =
        .ok e ∧ e.WellFormed := by
  refine ⟨.markup (.fragment
    [.text "a", .container (.string "\x7b"), .text "b",
      .container (.empty "c"),
      .container
        (.call (.member (.identifier "items") "map")
          [.arrow ["item"]
            (.markup
              (.element (.identifier "br") [] [] true))])]),
    ?_, ?_⟩
  · rfl
  · exact resolve_wellFormed .default listed _ rfl

end Resolve

end TemplateJsx
