import TemplateJsx.Proofs.Success

/-
  What failures point at. Resolution fails at many places and
  with different nodes at hand, and a failure travels through
  all that lies around the place. The node that it names is
  still one of the template: its kind and its span are those
  of a node in the tree, and what it shows is that node.

  For each step it is said of which kinds a failure may be and
  among which nodes it is to be looked for: those that the
  step was given. A step for a node may fail at the node or in
  one of its parts. How failures travel does not depend on
  what is said of them.

  Key definitions include:
    * `Template.Node.parts`
    * `Template.Node.Occurs`
    * `Template.Node.OccursIn`
    * `Resolve.Fails`
    * `Resolve.Failure.PointsAt`
    * `Resolve.Failure.PointsInto`
    * `Resolve.BlamesIn`

  Main declarations:
    * `Resolve.path_eq_error`
    * `Resolve.expression_blames`
    * `Resolve.standardElement_blames`
    * `Resolve.standardBlock_blames`
    * `Resolve.root_blames`
    * `Resolve.resolve_blames`
-/

------------------------------------------------------------
-- Nodes in Trees
------------------------------------------------------------

namespace TemplateJsx

namespace Template

/- The nodes directly below a node that calls something. -/
def Invocation.parts (i : Invocation) : List Node :=
  .expr i.callee :: i.params.map .expr ++ [.hash i.hash]

/- The node of a block, if the block was written. -/
def Block.nodes : Block → List Node
  | .absent => []
  | .present body blockParams chained span =>
      [.block (.present body blockParams chained span)]

/- The node of an attribute's value, if it has one. -/
def AttributeValue.nodes : AttributeValue → List Node
  | .absent => []
  | .text run => [.statement (.text run)]
  | .mustache m => [.statement (.mustache m)]
  | .concat c => [.statement (.concat c)]

/- The nodes directly below an element. -/
def Element.parts (el : Element) : List Node :=
  el.attributes.map .attr
    ++ el.modifiers.map (fun m => .statement (.modifier m))
    ++ el.comments.map (fun c => .statement (.mustacheComment c))
    ++ el.children.map .statement

/- The nodes directly below a block statement. -/
def BlockStatement.parts (b : BlockStatement) : List Node :=
  b.invocation.parts ++ b.program.nodes ++ b.inverse.nodes

/- The nodes directly below a statement. -/
def Statement.parts : Statement → List Node
  | .element el => el.parts
  | .mustache m => m.invocation.parts
  | .block b => b.parts
  | .modifier m => m.invocation.parts
  | .concat c => c.parts.map (fun part => .statement part.toStatement)
  | .absent => []
  | .text _ => []
  | .comment _ => []
  | .mustacheComment _ => []

/- The nodes directly below an expression. -/
def Expr.parts : Expr → List Node
  | .call i _ => i.parts
  | _ => []

namespace Node

/- The nodes directly below a node. -/
def parts : Node → List Node
  | .template t => t.body.map .statement
  | .block b => b.body.map .statement
  | .statement s => s.parts
  | .attr a => a.value.nodes
  | .expr e => e.parts
  | .hash h => h.pairs.map .pair
  | .pair p => [.expr p.value]

/- A node is found in a tree, at its root or below it. -/
inductive Occurs : Node → Node → Prop
  | here
      (n : Node) :
      Occurs n n
  | inside
      {n part whole : Node}
      (hPart : part ∈ whole.parts)
      (hOccurs : Occurs n part) :
      Occurs n whole

/- A node is found in one of some trees. -/
def OccursIn
    (n : Node)
    (trees : List Node) : Prop :=
  ∃ whole ∈ trees, n.Occurs whole

/- A statement or an expression that was left out. -/
def IsAbsent : Node → Prop
  | .statement .absent => True
  | .expr .absent => True
  | _ => False

end Node

/- A node that occurs in a template, at any depth. -/
def Contains
    (t : Template)
    (n : Node) : Prop :=
  n.OccursIn (t.body.map .statement)

end Template

namespace Resolve

------------------------------------------------------------
-- How Failures Travel
------------------------------------------------------------

/-
  If there is no result, then because of a failure of which
  something holds.
-/
def Fails
    {α : Type}
    (told : Failure → Prop)
    (outcome : Outcome α) : Prop :=
  ∀ e, outcome = .error e → ∃ f, e = .failure f ∧ told f

namespace Fails

variable
  {α β : Type}
  {told : Failure → Prop}

theorem ok (a : α) :
    Fails told (.ok a : Outcome α) := by
  intro e hError
  cases hError

theorem error
    {f : Failure}
    (hTold : told f) :
    Fails told (.error (.failure f) : Outcome α) := by
  intro e hError
  cases hError
  exact ⟨f, rfl, hTold⟩

theorem bind
    {x : Outcome α}
    {f : α → Outcome β}
    (hFirst : Fails told x)
    (hNext : ∀ a, Fails told (f a)) :
    Fails told (x >>= f) := by
  cases x with
  | ok a => exact hNext a
  | error e =>
      intro e' hError
      cases hError
      exact hFirst e rfl

theorem map
    {x : Outcome α}
    (g : α → β)
    (h : Fails told x) :
    Fails told (x >>= fun a => .ok (g a)) :=
  h.bind fun a => ok (g a)

theorem mapM
    {f : α → Outcome β}
    {as : List α}
    (hEach : ∀ a ∈ as, Fails told (f a)) :
    Fails told (as.mapM f) := by
  induction as with
  | nil => exact ok []
  | cons a rest ih =>
      rw [List.mapM_cons]
      have hRest :=
        ih fun a hMember => hEach a (List.mem_cons_of_mem _ hMember)
      exact (hEach a List.mem_cons_self).bind fun b =>
        hRest.map (b :: ·)

theorem mono
    {told' : Failure → Prop}
    {x : Outcome α}
    (h : Fails told x)
    (hTold : ∀ f, told f → told' f) :
    Fails told' x := by
  intro e hError
  rcases h e hError with ⟨f, hFailure, hHolds⟩
  exact ⟨f, hFailure, hTold f hHolds⟩

end Fails

------------------------------------------------------------
-- Failures that Point at Nodes
------------------------------------------------------------

/-
  A failure names a node by its kind and its span, and shows
  it or nothing.
-/
structure Failure.PointsAt
    (f : Failure)
    (n : Template.Node) : Prop where
  kind : f.node = n.kind
  span : f.span = n.span
  snapshot : f.snapshot = "" ∨ f.snapshot = n.source

/-
  A failure is of one of the kinds, and points at a node in
  one of the trees.
-/
structure Failure.PointsInto
    (f : Failure)
    (kinds : List ErrorKind)
    (trees : List Template.Node) : Prop where
  kind : f.kind ∈ kinds
  node : ∃ n, n.OccursIn trees ∧ f.PointsAt n

/- If there is no result, a node in the trees is to blame. -/
abbrev BlamesIn
    {α : Type}
    (kinds : List ErrorKind)
    (trees : List Template.Node)
    (outcome : Outcome α) : Prop :=
  Fails (·.PointsInto kinds trees) outcome

/- The kinds of failure of an expression. -/
def expressionKinds : List ErrorKind :=
  [.maxDepthExceeded, .emptyPathSegments,
    .unexpectedExpressionKind]

/-
  The kinds of failure of a statement. That something is no
  path is not among them.
-/
def statementKinds : List ErrorKind :=
  [.unsupportedTopLevelConstruct, .unexpectedStatementKind,
    .unsupportedModifier, .malformedBlock] ++ expressionKinds

namespace Fails

variable
  {α : Type}
  {kinds : List ErrorKind}
  {trees : List Template.Node}

/- Looking in more trees finds what was found before. -/
theorem widen
    {trees' : List Template.Node}
    {x : Outcome α}
    (hTrees : trees ⊆ trees')
    (h : BlamesIn kinds trees x) :
    BlamesIn kinds trees' x := by
  refine h.mono fun f hPoints => ?_
  rcases hPoints with ⟨hKind, n, ⟨whole, hWhole, hOccurs⟩, hAt⟩
  exact ⟨hKind, n, ⟨whole, hTrees hWhole, hOccurs⟩, hAt⟩

/- What an expression is blamed for, a statement may be. -/
theorem ofExpression
    {x : Outcome α}
    (h : BlamesIn expressionKinds trees x) :
    BlamesIn statementKinds trees x :=
  h.mono fun _ hPoints =>
    ⟨List.mem_append_right _ hPoints.kind, hPoints.node⟩

/- What is found in one tree is found among more. -/
theorem among
    {node : Template.Node}
    {x : Outcome α}
    (hNode : node ∈ trees)
    (h : BlamesIn kinds [node] x) :
    BlamesIn kinds trees x := by
  refine h.widen ?_
  intro n hMember
  rw [List.mem_singleton.mp hMember]
  exact hNode

/- What is found in the parts of a node is found in the node. -/
theorem inside
    {whole : Template.Node}
    {x : Outcome α}
    (hWhole : whole ∈ trees)
    (h : BlamesIn kinds whole.parts x) :
    BlamesIn kinds trees x := by
  refine h.mono fun f hPoints => ?_
  rcases hPoints with ⟨hKind, n, ⟨part, hPart, hOccurs⟩, hAt⟩
  exact ⟨hKind, n, ⟨whole, hWhole, .inside hPart hOccurs⟩, hAt⟩

/- Positional arguments are below the node that passes them. -/
theorem ofParams
    {i : Template.Invocation}
    {x : Outcome α}
    (h : BlamesIn kinds (i.params.map .expr) x) :
    BlamesIn kinds i.parts x := by
  refine h.widen fun n hMember => ?_
  exact List.mem_cons_of_mem _ (List.mem_append_left _ hMember)

/- So are named ones, in one node for all of them. -/
theorem ofPairs
    {i : Template.Invocation}
    {x : Outcome α}
    (h : BlamesIn kinds (i.hash.pairs.map .pair) x) :
    BlamesIn kinds i.parts x := by
  have hHash : Template.Node.hash i.hash ∈ i.parts :=
    List.mem_cons_of_mem _
      (List.mem_append_right _ List.mem_cons_self)
  exact .inside hHash h

/- A failure at a node points at it. -/
theorem fail
    {kind : ErrorKind}
    {node : Template.Node}
    (hNode : node ∈ trees)
    (hKind : kind ∈ kinds) :
    BlamesIn kinds trees (Resolve.fail kind node : Outcome α) :=
  .error ⟨hKind, node, ⟨node, hNode, .here node⟩,
    ⟨rfl, rfl, Or.inl rfl⟩⟩

/- So does a failure that shows the node. -/
theorem failShowing
    {kind : ErrorKind}
    {node : Template.Node}
    (hNode : node ∈ trees)
    (hKind : kind ∈ kinds) :
    BlamesIn kinds trees
      (Resolve.failShowing kind node : Outcome α) :=
  .error ⟨hKind, node, ⟨node, hNode, .here node⟩,
    ⟨rfl, rfl, Or.inr rfl⟩⟩

theorem enter
    {node : Template.Node}
    (config : Config)
    (depth : Nat)
    (hNode : node ∈ trees)
    (hKind : .maxDepthExceeded ∈ kinds) :
    BlamesIn kinds trees (Resolve.enter config depth node) := by
  unfold Resolve.enter
  split
  · exact fail hNode hKind
  · exact ok ()

end Fails

------------------------------------------------------------
-- Expressions
------------------------------------------------------------

/-
  A path is refused for having no names and for nothing else:
  what is built from names is a path, so that a name can be
  put in front of it.
-/
theorem path_eq_error
    {p : Template.Path}
    {kind : ErrorKind}
    (hPath : path p = .error kind) :
    kind = .emptyPathSegments := by
  cases hNames : p.segments with
  | nil =>
      unfold path at hPath
      rw [hNames] at hPath
      cases hPath
      rfl
  | cons head tail =>
      rw [path_of_segments hNames] at hPath
      cases hPath

section Expressions

variable (config : Config)

mutual

/-
  An expression fails for its depth, for a path without names
  in it, or for something that was left out.
-/
theorem expression_blames
    (depth : Nat)
    (e : Template.Expr) :
    BlamesIn expressionKinds [.expr e]
      (expression config depth e) := by
  have hSelf : Template.Node.expr e ∈ [Template.Node.expr e] :=
    List.mem_cons_self
  have hEnter :
      BlamesIn expressionKinds [.expr e]
        (enter config depth (.expr e)) :=
    .enter config depth hSelf (by decide)
  cases e with
  | call i span =>
      rw [expression]
      refine hEnter.bind fun _ => ?_
      exact .inside hSelf (helperCall_blames (depth + 1) i)
  | path p =>
      rw [expression]
      refine hEnter.bind fun _ => ?_
      cases hPath : path p with
      | ok members => exact .ok members
      | error kind =>
          rw [path_eq_error hPath]
          exact .failShowing hSelf (by decide)
  | absent =>
      rw [expression]
      refine hEnter.bind fun _ => ?_
      exact .failShowing hSelf (by decide)
  | boolean value span
  | null span
  | number value span
  | string value span
  | undefined span =>
      rw [expression]
      exact hEnter.bind fun _ => .ok _

theorem helperCall_blames
    (depth : Nat) :
    (i : Template.Invocation) →
      BlamesIn expressionKinds i.parts (helperCall config depth i)
  | ⟨target, params, ⟨pairs, span⟩⟩ => by
    rw [helperCall]
    have hParams := expressions_blames depth params
    have hNamed := namedArguments_blames depth pairs
    exact (Fails.ofParams hParams).bind fun positional =>
      .map _ (.ofPairs hNamed)

theorem expressions_blames
    (depth : Nat) :
    (es : List Template.Expr) →
      BlamesIn expressionKinds (es.map .expr)
        (expressions config depth es)
  | [] => by
    rw [expressions]
    exact .ok []
  | e :: rest => by
    rw [expressions]
    have hFirst := expression_blames depth e
    have hRest := expressions_blames depth rest
    refine (hFirst.among List.mem_cons_self).bind fun x => ?_
    exact .map (x :: ·) (hRest.widen (List.subset_cons_self _ _))

theorem namedArguments_blames
    (depth : Nat) :
    (pairs : List Template.Pair) →
      BlamesIn expressionKinds (pairs.map .pair)
        (namedArguments config depth pairs)
  | [] => by
    rw [namedArguments]
    exact .ok []
  | ⟨key, value, span⟩ :: rest => by
    rw [namedArguments]
    have hFirst := expression_blames depth value
    have hRest := namedArguments_blames depth rest
    refine Fails.bind (.inside List.mem_cons_self hFirst)
      fun x => ?_
    exact .map (Jsx.Property.mk key x :: ·)
      (hRest.widen (List.subset_cons_self _ _))

end

------------------------------------------------------------
-- Opening Tags
------------------------------------------------------------

theorem mustache_blames
    (depth : Nat)
    (m : Template.Mustache) :
    BlamesIn statementKinds m.invocation.parts
      (mustache config depth m) := by
  unfold mustache
  refine .ofExpression ?_
  split
  · exact (expression_blames config depth _).among
      List.mem_cons_self
  · exact helperCall_blames config depth m.invocation

theorem partValue_blames
    (depth : Nat)
    (part : Template.TextPart) :
    BlamesIn statementKinds [.statement part.toStatement]
      (partValue config depth part) := by
  unfold partValue
  refine (Fails.enter config depth List.mem_cons_self
    (by decide)).bind fun _ => ?_
  cases part with
  | absent => exact .fail List.mem_cons_self (by decide)
  | text run => exact .ok _
  | mustache m =>
      exact .inside List.mem_cons_self
        (mustache_blames config (depth + 1) m)

theorem sumFrom_blames
    (depth : Nat)
    (sum : Jsx.Expr)
    (parts : List Template.TextPart) :
    BlamesIn statementKinds
      (parts.map fun part => .statement part.toStatement)
      (sumFrom config depth sum parts) := by
  induction parts generalizing sum with
  | nil => exact .ok sum
  | cons part rest ih =>
      have hPart := partValue_blames config depth part
      refine (hPart.among List.mem_cons_self).bind fun next => ?_
      exact (ih (.binary .add sum next)).widen
        (List.subset_cons_self _ _)

theorem concat_blames
    (depth : Nat)
    (parts : List Template.TextPart) :
    BlamesIn statementKinds
      (parts.map fun part => .statement part.toStatement)
      (concat config depth parts) := by
  cases parts with
  | nil => exact .ok _
  | cons part rest =>
      have hPart := partValue_blames config depth part
      refine (hPart.among List.mem_cons_self).bind fun first => ?_
      exact (sumFrom_blames config depth first rest).widen
        (List.subset_cons_self _ _)

theorem attributeOf_blames
    (depth : Nat)
    (a : Template.Attribute) :
    BlamesIn statementKinds a.value.nodes
      (attributeOf config depth a) := by
  unfold attributeOf
  split
  · exact .ok _
  · cases a.value with
    | absent => exact .ok _
    | text run =>
        dsimp only
        split
        · exact .ok _
        · exact .ok _
    | mustache m =>
        refine (Fails.enter config depth List.mem_cons_self
          (by decide)).bind fun _ => ?_
        exact .map _ (.inside List.mem_cons_self
          (mustache_blames config (depth + 1) m))
    | concat c =>
        exact .map _ (.inside List.mem_cons_self
          (concat_blames config depth c.parts))

theorem modifier_blames
    (depth : Nat)
    (m : Template.Modifier) :
    BlamesIn statementKinds [.statement (.modifier m)]
      (modifier config depth m) := by
  unfold modifier
  split
  · exact .failShowing List.mem_cons_self (by decide)
  · rename_i event handler hEvent
    rcases eventHandler?_eq_some hEvent with
      ⟨p, span, hash, hInvocation, _⟩
    have hHandler :
        Template.Node.expr handler ∈ m.invocation.parts := by
      rw [hInvocation]
      simp [Template.Invocation.parts]
    refine .map _ (.inside List.mem_cons_self ?_)
    exact .ofExpression
      ((expression_blames config depth handler).among hHandler)

------------------------------------------------------------
-- The Standard Rules
------------------------------------------------------------

/-
  An element fails in one of its attributes or modifiers, or
  where its children fail.
-/
theorem standardElement_blames
    (depth : Nat)
    (el : Template.Element)
    {children : Unit → Outcome (List Jsx.Child)}
    {body : Unit → Outcome Jsx.Expr}
    (hChildren :
      BlamesIn statementKinds (el.children.map .statement)
        (children ()))
    (hBody :
      BlamesIn statementKinds (el.children.map .statement)
        (body ())) :
    BlamesIn statementKinds el.parts
      (standardElement config depth el children body) := by
  have hBelow : el.children.map .statement ⊆ el.parts :=
    fun _ hMember => List.mem_append_right _ hMember
  refine Fails.bind (.mapM fun a hMember => ?_)
    fun attributes => ?_
  · have hNode : Template.Node.attr a ∈ el.parts := by
      simp [Template.Element.parts, hMember]
    exact .inside hNode (attributeOf_blames config depth a)
  refine Fails.bind (.mapM fun m hMember => ?_)
    fun events => .map _ ?_
  · have hNode :
        Template.Node.statement (.modifier m) ∈ el.parts := by
      simp [Template.Element.parts, hMember]
    exact (modifier_blames config depth m).among hNode
  · unfold elementChildren
    split
    · exact hChildren.widen hBelow
    · exact .map _ (hBody.widen hBelow)

section Blocks

variable {b : Template.BlockStatement}

/- The arguments and the bodies of a block are below it. -/
theorem Fails.ofArguments
    {α : Type}
    {x : Outcome α}
    (h : BlamesIn statementKinds b.invocation.parts x) :
    BlamesIn statementKinds [.statement (.block b)] x := by
  refine .inside List.mem_cons_self (h.widen fun n hMember => ?_)
  exact List.mem_append_left _ (List.mem_append_left _ hMember)

theorem Fails.ofProgram
    {α : Type}
    {x : Outcome α}
    (h : BlamesIn statementKinds b.program.nodes x) :
    BlamesIn statementKinds [.statement (.block b)] x := by
  refine .inside List.mem_cons_self (h.widen fun n hMember => ?_)
  exact List.mem_append_left _ (List.mem_append_right _ hMember)

theorem Fails.ofInverse
    {α : Type}
    {x : Outcome α}
    (h : BlamesIn statementKinds b.inverse.nodes x) :
    BlamesIn statementKinds [.statement (.block b)] x := by
  refine .inside List.mem_cons_self (h.widen fun n hMember => ?_)
  exact List.mem_append_right _ hMember

/- A positional argument is among the parts of a block. -/
theorem param_blames
    {param : Template.Expr}
    (depth : Nat)
    (hParam : param ∈ b.invocation.params) :
    BlamesIn statementKinds [.statement (.block b)]
      (expression config depth param) := by
  refine .ofArguments (.ofExpression
    ((expression_blames config depth param).among ?_))
  exact List.mem_cons_of_mem _
    (List.mem_append_left _ (List.mem_map_of_mem hParam))

theorem params_blame
    (depth : Nat) :
    BlamesIn statementKinds [.statement (.block b)]
      (expressions config depth b.invocation.params) :=
  .ofArguments
    (.ofParams (.ofExpression (expressions_blames config depth _)))

/- A block whose arguments do not fit is blamed itself. -/
theorem malformed_blames :
    BlamesIn statementKinds [.statement (.block b)]
      (malformed b : Outcome Jsx.Expr) :=
  .failShowing List.mem_cons_self (by decide)

variable {program inverse : Unit → Outcome Jsx.Expr}
variable
  (hProgram : BlamesIn statementKinds b.program.nodes (program ()))
  (hInverse : BlamesIn statementKinds b.inverse.nodes (inverse ()))

include hProgram

theorem letBlock_blames
    (depth : Nat) :
    BlamesIn statementKinds [.statement (.block b)]
      (letBlock config depth b program) := by
  unfold letBlock
  split
  · exact malformed_blames
  · exact (params_blame config depth).bind fun _ =>
      .map _ (.ofProgram hProgram)

include hInverse

theorem conditionalBlock_blames
    (depth : Nat)
    (negate : Bool) :
    BlamesIn statementKinds [.statement (.block b)]
      (conditionalBlock config depth negate b program
        inverse) := by
  unfold conditionalBlock
  split
  · rename_i param hParams
    have hParam : param ∈ b.invocation.params := by
      rw [hParams]
      exact List.mem_cons_self
    refine (param_blames config depth hParam).bind fun test => ?_
    refine (Fails.ofProgram hProgram).bind fun consequent => ?_
    refine Fails.bind ?_ fun alternate => ?_
    · unfold inverseOrNull
      split
      · exact .ofInverse hInverse
      · exact .ok _
    · cases negate with
      | true => exact .ok _
      | false => exact .ok _
  · exact malformed_blames

theorem eachBlock_blames
    (depth : Nat) :
    BlamesIn statementKinds [.statement (.block b)]
      (eachBlock config depth b program inverse) := by
  unfold eachBlock
  split
  · rename_i param hParams
    have hParam : param ∈ b.invocation.params := by
      rw [hParams]
      exact List.mem_cons_self
    refine (param_blames config depth hParam).bind fun list => ?_
    refine (Fails.ofProgram hProgram).bind fun body => ?_
    dsimp only
    split
    · exact .map _ (.ofInverse hInverse)
    · exact .ok _
  · exact malformed_blames

theorem customBlock_blames
    (depth : Nat) :
    BlamesIn statementKinds [.statement (.block b)]
      (customBlock config depth b program inverse) := by
  have hNamed :
      BlamesIn statementKinds b.invocation.parts
        (namedArguments config depth b.invocation.hash.pairs) :=
    .ofPairs (.ofExpression (namedArguments_blames config depth _))
  unfold customBlock
  refine (params_blame config depth).bind fun positional => ?_
  refine (Fails.ofArguments hNamed).bind fun named => ?_
  refine Fails.bind ?_ fun first => .map _ ?_
  · unfold bodyFunction
    split
    · exact .map _ (.ofProgram hProgram)
    · exact .ok _
  · unfold bodyFunction
    split
    · exact .map _ (.ofInverse hInverse)
    · exact .ok _

/-
  A block fails in its arguments or its bodies, or it is
  malformed itself.
-/
theorem standardBlock_blames
    (depth : Nat) :
    BlamesIn statementKinds [.statement (.block b)]
      (standardBlock config depth b program inverse) := by
  unfold standardBlock
  cases blockForm b with
  | ifBlock =>
      exact conditionalBlock_blames config hProgram hInverse depth
        false
  | unlessBlock =>
      exact conditionalBlock_blames config hProgram hInverse depth
        true
  | eachBlock =>
      exact eachBlock_blames config hProgram hInverse depth
  | letBlock => exact letBlock_blames config hProgram depth
  | custom =>
      exact customBlock_blames config hProgram hInverse depth

end Blocks

------------------------------------------------------------
-- Statements
------------------------------------------------------------

mutual

theorem value_blames
    (depth : Nat)
    (s : Template.Statement) :
    BlamesIn statementKinds [.statement s]
      (value (.standard config) depth s) := by
  have hSelf :
      Template.Node.statement s ∈ [Template.Node.statement s] :=
    List.mem_cons_self
  cases s with
  | element el =>
      rw [value]
      exact .map _ (element_blames depth el)
  | text run =>
      rw [value]
      exact .ok _
  | mustache m =>
      rw [value]
      exact .inside hSelf (mustache_blames config depth m)
  | block b =>
      rw [value]
      exact block_blames depth b
  | comment c
  | mustacheComment c
  | modifier m
  | concat c
  | absent =>
      rw [value]
      exact .fail hSelf (by decide)

theorem markupChildren_blames
    (depth : Nat)
    (s : Template.Statement) :
    BlamesIn statementKinds [.statement s]
      (markupChildren (.standard config) depth s) := by
  have hSelf :
      Template.Node.statement s ∈ [Template.Node.statement s] :=
    List.mem_cons_self
  cases s with
  | element el =>
      rw [markupChildren]
      exact .map _ (element_blames depth el)
  | text run =>
      rw [markupChildren]
      exact .ok _
  | mustache m =>
      rw [markupChildren]
      exact .map _ (.inside hSelf (mustache_blames config depth m))
  | block b =>
      rw [markupChildren]
      exact .map _ (block_blames depth b)
  | comment c
  | mustacheComment c =>
      rw [markupChildren]
      exact .ok _
  | modifier m
  | concat c
  | absent =>
      rw [markupChildren]
      exact .fail hSelf (by decide)

theorem element_blames
    (depth : Nat) :
    (el : Template.Element) →
      BlamesIn statementKinds [.statement (.element el)]
        (element (.standard config) depth el)
  | ⟨tag, selfClosing, params, attributes, modifiers, comments,
      body, span⟩ => by
    rw [element]
    have hChildren := children_blames depth body
    have hBody := root_blames depth body
    exact .inside List.mem_cons_self
      (standardElement_blames config depth
        ⟨tag, selfClosing, params, attributes, modifiers,
          comments, body, span⟩ hChildren hBody)

theorem block_blames
    (depth : Nat) :
    (b : Template.BlockStatement) →
      BlamesIn statementKinds [.statement (.block b)]
        (block (.standard config) depth b)
  | ⟨invocation, program, inverse, span⟩ => by
    rw [block]
    have hProgram := branch_blames depth program
    have hInverse := branch_blames depth inverse
    exact standardBlock_blames config
      (b := ⟨invocation, program, inverse, span⟩) hProgram hInverse
      depth

theorem branch_blames
    (depth : Nat)
    (b : Template.Block) :
    BlamesIn statementKinds b.nodes
      (branch (.standard config) depth b) := by
  cases b with
  | absent =>
      rw [branch]
      exact .ok _
  | present body params chained span =>
      rw [branch]
      exact .inside List.mem_cons_self (root_blames depth body)

theorem children_blames
    (depth : Nat) :
    (body : List Template.Statement) →
      BlamesIn statementKinds (body.map .statement)
        (children (.standard config) depth body)
  | [] => by
    rw [children]
    exact .ok []
  | s :: rest => by
    rw [children]
    have hFirst := markupChildren_blames (depth + 1) s
    have hRest := children_blames depth rest
    refine (Fails.enter _ depth List.mem_cons_self
      (by decide)).bind fun _ => ?_
    refine (hFirst.among List.mem_cons_self).bind fun kids => ?_
    exact .map (kids ++ ·) (hRest.widen (List.subset_cons_self _ _))

theorem root_blames
    (depth : Nat) :
    (body : List Template.Statement) →
      BlamesIn statementKinds (body.map .statement)
        (root (.standard config) depth body)
  | [] => by
    rw [root]
    exact .ok _
  | [s] => by
    rw [root]
    refine (Fails.enter _ depth List.mem_cons_self
      (by decide)).bind fun _ => ?_
    exact value_blames (depth + 1) s
  | s :: next :: rest => by
    rw [root]
    have hFirst := markupChildren_blames (depth + 1) s
    have hRest := children_blames depth (next :: rest)
    refine (Fails.enter _ depth List.mem_cons_self
      (by decide)).bind fun _ => ?_
    refine (hFirst.among List.mem_cons_self).bind fun kids => ?_
    refine (hRest.widen (List.subset_cons_self _ _)).bind
      fun others => ?_
    exact .ok _

end

end Expressions

------------------------------------------------------------
-- Whole Templates
------------------------------------------------------------

/- What a failure says of a node that was left out. -/
theorem Failure.PointsAt.absent
    {f : Failure}
    {n : Template.Node}
    (hPoints : f.PointsAt n)
    (hAbsent : n.IsAbsent) :
    f.node = "<nil>" ∧ f.snapshot = "" ∧ f.span = none := by
  rcases hPoints with ⟨hKind, hSpan, hSnapshot⟩
  unfold Template.Node.IsAbsent at hAbsent
  split at hAbsent
  · exact ⟨hKind, or_self_iff.mp hSnapshot, hSpan⟩
  · exact ⟨hKind, or_self_iff.mp hSnapshot, hSpan⟩
  · exact hAbsent.elim

/-
  Failures point into the template. If a template has no
  tree, there is a failure that names a node of it by kind
  and span and shows that node or nothing. It may be one that
  was left out, which has no span and is not shown. That
  something is no path is never the reason.
-/
theorem resolve_blames
    (config : Config)
    (t : Template)
    (e : Error)
    (hError :
      (Setup.standard config).resolve (some t) = .error e) :
    ∃ f n, e = .failure f ∧ f.kind ≠ .notAPath ∧ t.Contains n ∧
      (¬ n.IsAbsent ∧ f.node = n.kind ∧ f.span = n.span ∧
          (f.snapshot = "" ∨ f.snapshot = n.source) ∨
        n.IsAbsent ∧ f.node = "<nil>" ∧ f.snapshot = "" ∧
          f.span = none) := by
  rcases root_blames config 0 t.body e hError with
    ⟨f, hFailure, hKind, n, hOccurs, hPoints⟩
  have hPath : f.kind ≠ .notAPath :=
    ne_of_mem_of_not_mem hKind (by decide)
  refine ⟨f, n, hFailure, hPath, hOccurs, ?_⟩
  by_cases hAbsent : n.IsAbsent
  · exact Or.inr ⟨hAbsent, hPoints.absent hAbsent⟩
  · exact Or.inl
      ⟨hAbsent, hPoints.kind, hPoints.span, hPoints.snapshot⟩

/-
  A path without names, as a named argument inside a call
  inside an interpolated text of an element inside a loop.
-/
def nameless : Template :=
  ⟨[.block
      ⟨⟨.path ⟨"each", "each", [], none⟩,
          [.path ⟨"xs", "xs", [], none⟩], .empty⟩,
        .present
          [.element
            ⟨"p", false, [],
              [⟨"title",
                .concat
                  ⟨[.text ⟨"a ", none⟩,
                    .mustache
                      ⟨⟨.path ⟨"f", "f", [], none⟩,
                          [.call
                            ⟨.path ⟨"g", "g", [], none⟩, [],
                              ⟨[⟨"k",
                                .path ⟨"", "", [],
                                  some ⟨none, none⟩⟩,
                                none⟩], none⟩⟩ none],
                          .empty⟩, false, none⟩], none⟩,
                none⟩], [], [], [], none⟩]
          ["x"] false none,
        .absent, none⟩],
    [], none⟩

/- The failure is found at the path, with the path's span. -/
theorem resolve_blames_nameless :
    ∃ (f : Failure) (n : Template.Node),
      (Setup.standard Config.default).resolve (some nameless) =
        .error (.failure f) ∧
      f.kind = .emptyPathSegments ∧ f.span = some ⟨none, none⟩ ∧
      nameless.Contains n ∧ f.node = n.kind ∧ f.span = n.span := by
  have hError :
      ∃ f,
        (Setup.standard Config.default).resolve (some nameless) =
          .error (.failure f) ∧
        f.kind = .emptyPathSegments ∧
        f.span = some ⟨none, none⟩ :=
    ⟨_, rfl, rfl, rfl⟩
  rcases hError with ⟨f, hError, hKind, hSpan⟩
  rcases resolve_blames Config.default nameless _ hError with
    ⟨f', n, hFailure, _, hContains, hFound⟩
  cases hFailure
  refine ⟨f, n, hError, hKind, hSpan, hContains, ?_⟩
  rcases hFound with
    ⟨_, hNode, hSame, _⟩ | ⟨_, _, _, hNone⟩
  · exact ⟨hNode, hSame⟩
  · rw [hSpan] at hNone
    cases hNone

end Resolve

end TemplateJsx
