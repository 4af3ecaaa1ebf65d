import TemplateJsx.Resolve.Statement

/-
  What only diagnostics and other tools read of a template:
  the spans, the spellings of paths, the flags for raw markup
  and for chained blocks, the comments of opening tags, the
  named arguments of a mustache without positional ones and
  the names that the template binds.

  Erasing all this changes no tree, and no failure beyond its
  span and its snapshot. One spelling counts and is kept: a
  modifier is recognized as the event modifier by the way
  its path was written.

  Key definitions include:
    * `Template.Expr.erase`
    * `Template.Mustache.erase`
    * `Template.Modifier.erase`
    * `Template.Statement.erase`
    * `Template.erase`
    * `Resolve.Alike`

  Main declarations:
    * `Resolve.expression_erase`
    * `Resolve.eventHandler?_erase`
    * `Resolve.standardElement_erase`
    * `Resolve.standardBlock_erase`
    * `Resolve.root_erase`
    * `Resolve.resolve_blind`
-/

------------------------------------------------------------
-- Erasing Expressions
------------------------------------------------------------

namespace TemplateJsx

namespace Template

/- The path by its names alone. -/
def Path.erase (p : Path) : Path :=
  ⟨"", p.head, p.tail, none⟩

mutual

/- The expression without spans and spellings. -/
@[simp]
def Expr.erase : Expr → Expr
  | .absent => .absent
  | .boolean value _ => .boolean value none
  | .null _ => .null none
  | .undefined _ => .undefined none
  | .number value _ => .number value none
  | .string value _ => .string value none
  | .path p => .path p.erase
  | .call i _ => .call i.erase none

/- An invocation, with all its parts erased. -/
@[simp]
def Invocation.erase : Invocation → Invocation
  | ⟨callee, params, ⟨pairs, _⟩⟩ =>
      ⟨callee.erase, eraseExprs params, ⟨erasePairs pairs, none⟩⟩

/- Expressions, each erased. -/
@[simp]
def eraseExprs : List Expr → List Expr
  | [] => []
  | e :: rest => e.erase :: eraseExprs rest

/- Named arguments, each erased. -/
@[simp]
def erasePairs : List Pair → List Pair
  | [] => []
  | ⟨key, value, _⟩ :: rest =>
      ⟨key, value.erase, none⟩ :: erasePairs rest

end

theorem Invocation.callee_erase (i : Invocation) :
    i.erase.callee = i.callee.erase := by
  rcases i with ⟨target, params, ⟨pairs, span⟩⟩
  rfl

theorem Expr.kind_erase (e : Expr) :
    e.erase.kind = e.kind := by
  cases e <;> rfl

------------------------------------------------------------
-- Erasing Opening Tags
------------------------------------------------------------

/- Raw text without its span. -/
def TextRun.erase (run : TextRun) : TextRun :=
  ⟨run.chars, none⟩

/-
  A mustache without positional arguments is its callee; its
  named arguments are erased too.
-/
def Mustache.erase (m : Mustache) : Mustache :=
  match m.invocation.params with
  | [] => ⟨⟨m.invocation.callee.erase, [], .empty⟩, false, none⟩
  | _ => ⟨m.invocation.erase, false, none⟩

/- What a modifier calls. The spelling of a path is kept. -/
def Expr.eraseSpans : Expr → Expr
  | .path p => .path ⟨p.spelling, p.head, p.tail, none⟩
  | e => e.erase

/- A modifier, with the way its path was written. -/
def Modifier.erase (m : Modifier) : Modifier :=
  ⟨⟨m.invocation.callee.eraseSpans, m.invocation.erase.params,
    m.invocation.erase.hash⟩, none⟩

/- A comment without its span. -/
def Comment.erase (c : Comment) : Comment :=
  ⟨c.value, none⟩

/- A part of an interpolated text, erased. -/
def TextPart.erase : TextPart → TextPart
  | .absent => .absent
  | .text run => .text run.erase
  | .mustache m => .mustache m.erase

/- An interpolated text, with each part erased. -/
def Concat.erase (c : Concat) : Concat :=
  ⟨c.parts.map TextPart.erase, none⟩

/- The value of an attribute, erased. -/
def AttributeValue.erase : AttributeValue → AttributeValue
  | .absent => .absent
  | .text run => .text run.erase
  | .mustache m => .mustache m.erase
  | .concat c => .concat c.erase

/- An attribute, with its value erased. -/
def Attribute.erase (a : Attribute) : Attribute :=
  ⟨a.name, a.value.erase, none⟩

------------------------------------------------------------
-- Erasing Statements
------------------------------------------------------------

mutual

/- The statement without what only diagnostics read. -/
@[simp]
def Statement.erase : Statement → Statement
  | .absent => .absent
  | .element e => .element e.erase
  | .text run => .text run.erase
  | .mustache m => .mustache m.erase
  | .block b => .block b.erase
  | .modifier m => .modifier m.erase
  | .comment c => .comment c.erase
  | .mustacheComment c => .mustacheComment c.erase
  | .concat c => .concat c.erase

/- An element without the comments of its opening tag. -/
@[simp]
def Element.erase : Element → Element
  | ⟨tag, selfClosing, params, attributes, modifiers, _, body, _⟩ =>
      ⟨tag, selfClosing, params, attributes.map Attribute.erase,
        modifiers.map Modifier.erase, [], eraseStatements body,
        none⟩

/- A block statement, with both bodies erased. -/
@[simp]
def BlockStatement.erase : BlockStatement → BlockStatement
  | ⟨invocation, program, inverse, _⟩ =>
      ⟨invocation.erase, program.erase, inverse.erase, none⟩

/- A body that does not tell whether it was chained. -/
@[simp]
def Block.erase : Block → Block
  | .absent => .absent
  | .present body params _ _ =>
      .present (eraseStatements body) params false none

/- Statements, each erased. -/
@[simp]
def eraseStatements : List Statement → List Statement
  | [] => []
  | s :: rest => s.erase :: eraseStatements rest

end

end Template

/- The template that binds no names, with its body erased. -/
def Template.erase (t : Template) : Template :=
  ⟨Template.eraseStatements t.body, [], none⟩

------------------------------------------------------------
-- Alike Outcomes
------------------------------------------------------------

namespace Resolve

/-
  Outcomes with the same tree, or failures of the same kind
  at nodes of the same kind.
-/
inductive Alike {α : Type} : Outcome α → Outcome α → Prop where
  | tree (a : α) : Alike (.ok a) (.ok a)
  | failure
      {f f' : Failure}
      (hKind : f.kind = f'.kind)
      (hNode : f.node = f'.node) :
      Alike (.error (.failure f)) (.error (.failure f'))

namespace Alike

variable {α β : Type}

theorem symm
    {x y : Outcome α}
    (h : Alike x y) :
    Alike y x := by
  cases h with
  | tree a => exact .tree a
  | failure hKind hNode => exact .failure hKind.symm hNode.symm

theorem trans
    {x y z : Outcome α}
    (hFirst : Alike x y)
    (hSecond : Alike y z) :
    Alike x z := by
  cases hFirst with
  | tree a => exact hSecond
  | failure hKind hNode =>
      cases hSecond with
      | failure hKind' hNode' =>
          exact .failure (hKind.trans hKind') (hNode.trans hNode')

theorem bind
    {x y : Outcome α}
    {f g : α → Outcome β}
    (h : Alike x y)
    (hNext : ∀ a, Alike (f a) (g a)) :
    Alike (x >>= f) (y >>= g) := by
  cases h with
  | tree a => exact hNext a
  | failure hKind hNode => exact .failure hKind hNode

theorem map
    {x y : Outcome α}
    (g : α → β)
    (h : Alike x y) :
    Alike (x >>= fun a => .ok (g a)) (y >>= fun a => .ok (g a)) :=
  h.bind fun a => .tree (g a)

/- Step by step along a list and the list of erased items. -/
theorem mapM
    {erase : α → α}
    {f : α → Outcome β}
    (hEach : ∀ a, Alike (f a) (f (erase a)))
    (as : List α) :
    Alike (as.mapM f) ((as.map erase).mapM f) := by
  induction as with
  | nil => exact .tree []
  | cons a rest ih =>
      rw [List.map_cons, List.mapM_cons, List.mapM_cons]
      exact (hEach a).bind fun b => ih.map (b :: ·)

theorem fail
    (kind : ErrorKind)
    {node node' : Template.Node}
    (h : node.kind = node'.kind) :
    Alike (Resolve.fail kind node : Outcome α)
      (Resolve.fail kind node') :=
  .failure rfl h

theorem failShowing
    (kind : ErrorKind)
    {node node' : Template.Node}
    (h : node.kind = node'.kind) :
    Alike (Resolve.failShowing kind node : Outcome α)
      (Resolve.failShowing kind node') :=
  .failure rfl h

/- Entering a node looks at the depth alone. -/
theorem enter
    (config : Config)
    (depth : Nat)
    {node node' : Template.Node}
    (h : node.kind = node'.kind) :
    Alike (Resolve.enter config depth node)
      (Resolve.enter config depth node') := by
  unfold Resolve.enter
  split
  · exact .fail _ h
  · exact .tree ()

end Alike

------------------------------------------------------------
-- Expressions
------------------------------------------------------------

/- A member path is built from the names alone. -/
theorem path_erase (p : Template.Path) :
    path p.erase = path p :=
  rfl

theorem callee_erase (e : Template.Expr) :
    callee e.erase = callee e := by
  cases e <;> rfl

section Expressions

variable (config : Config)

mutual

/-
  Resolving an expression reads none of what is erased,
  except to report a failure.
-/
theorem expression_erase
    (depth : Nat)
    (e : Template.Expr) :
    Alike (expression config depth e)
      (expression config depth e.erase) := by
  have hEnter :
      Alike (enter config depth (.expr e))
        (enter config depth (.expr e.erase)) :=
    .enter config depth e.kind_erase.symm
  cases e with
  | call i span =>
      rw [Template.Expr.erase, expression, expression]
      exact hEnter.bind fun _ => helperCall_erase (depth + 1) i
  | path p =>
      rw [Template.Expr.erase, expression, expression]
      refine hEnter.bind fun _ => ?_
      rw [path_erase]
      cases path p with
      | ok members => exact .tree members
      | error kind => exact .failShowing kind rfl
  | absent =>
      rw [Template.Expr.erase, expression]
      exact hEnter.bind fun _ => .failShowing _ rfl
  | boolean value span
  | null span
  | number value span
  | string value span
  | undefined span =>
      rw [Template.Expr.erase, expression, expression]
      exact hEnter.bind fun _ => .tree _

theorem helperCall_erase
    (depth : Nat) :
    (i : Template.Invocation) →
      Alike (helperCall config depth i)
        (helperCall config depth i.erase)
  | ⟨target, params, ⟨pairs, span⟩⟩ => by
    rw [Template.Invocation.erase, helperCall, helperCall,
      callee_erase]
    exact (expressions_erase depth params).bind fun _ =>
      (namedArguments_erase depth pairs).map _

theorem expressions_erase
    (depth : Nat) :
    (es : List Template.Expr) →
      Alike (expressions config depth es)
        (expressions config depth (Template.eraseExprs es))
  | [] => by
    rw [Template.eraseExprs, expressions]
    exact .tree []
  | e :: rest => by
    rw [Template.eraseExprs, expressions, expressions]
    exact (expression_erase depth e).bind fun first =>
      (expressions_erase depth rest).map (first :: ·)

theorem namedArguments_erase
    (depth : Nat) :
    (pairs : List Template.Pair) →
      Alike (namedArguments config depth pairs)
        (namedArguments config depth (Template.erasePairs pairs))
  | [] => by
    rw [Template.erasePairs, namedArguments]
    exact .tree []
  | ⟨key, value, span⟩ :: rest => by
    rw [Template.erasePairs, namedArguments, namedArguments]
    exact (expression_erase depth value).bind fun first =>
      (namedArguments_erase depth rest).map
        (Jsx.Property.mk key first :: ·)

end

------------------------------------------------------------
-- Opening Tags
------------------------------------------------------------

/-
  Named arguments matter only beside positional ones, and
  these are kept together.
-/
theorem mustache_erase
    (depth : Nat)
    (m : Template.Mustache) :
    Alike (mustache config depth m)
      (mustache config depth m.erase) := by
  rcases m with ⟨⟨target, params, ⟨pairs, named⟩⟩, trusting, span⟩
  cases params with
  | nil => exact expression_erase config depth target
  | cons param rest =>
      exact helperCall_erase config depth
        ⟨target, param :: rest, ⟨pairs, named⟩⟩

theorem partValue_erase
    (depth : Nat)
    (part : Template.TextPart) :
    Alike (partValue config depth part)
      (partValue config depth part.erase) := by
  have hEnter :
      Alike (enter config depth (.statement part.toStatement))
        (enter config depth
          (.statement part.erase.toStatement)) := by
    cases part <;> exact .enter config depth rfl
  refine hEnter.bind fun _ => ?_
  cases part with
  | absent => exact .fail _ rfl
  | text run => exact .tree _
  | mustache m => exact mustache_erase config (depth + 1) m

theorem sumFrom_erase
    (depth : Nat)
    (sum : Jsx.Expr)
    (parts : List Template.TextPart) :
    Alike (sumFrom config depth sum parts)
      (sumFrom config depth sum
        (parts.map Template.TextPart.erase)) := by
  induction parts generalizing sum with
  | nil => exact .tree sum
  | cons part rest ih =>
      exact (partValue_erase config depth part).bind fun next =>
        ih (.binary .add sum next)

theorem concat_erase
    (depth : Nat)
    (parts : List Template.TextPart) :
    Alike (concat config depth parts)
      (concat config depth
        (parts.map Template.TextPart.erase)) := by
  cases parts with
  | nil => exact .tree _
  | cons part rest =>
      exact (partValue_erase config depth part).bind fun first =>
        sumFrom_erase config depth first rest

theorem attributeOf_erase
    (depth : Nat)
    (a : Template.Attribute) :
    Alike (attributeOf config depth a)
      (attributeOf config depth a.erase) := by
  rcases a with ⟨name, value, span⟩
  unfold attributeOf Template.Attribute.erase
  split
  · exact .tree _
  · cases value with
    | absent => exact .tree _
    | text run =>
        dsimp only [Template.AttributeValue.erase,
          Template.TextRun.erase]
        split <;> exact .tree _
    | mustache m =>
        have hEnter :
            Alike (enter config depth (.statement (.mustache m)))
              (enter config depth
                (.statement (.mustache m.erase))) :=
          .enter config depth rfl
        exact hEnter.bind fun _ =>
          (mustache_erase config (depth + 1) m).map _
    | concat c => exact (concat_erase config depth c.parts).map _

/-
  The event of a modifier stays and its handler is erased:
  the spelling, which decides, is kept.
-/
theorem eventHandler?_erase
    (m : Template.Modifier) :
    eventHandler? config m.erase.invocation =
      (eventHandler? config m.invocation).map
        fun found => (found.1, found.2.erase) := by
  rcases m with ⟨⟨target, params, ⟨pairs, named⟩⟩, span⟩
  cases target with
  | path p =>
      rcases params with _ | ⟨event, _ | ⟨handler, _ | ⟨next, rest⟩⟩⟩
      · rfl
      · cases event <;> rfl
      · cases event with
        | string event source =>
            change (if p.spelling = config.eventModifier ∧ event ≠ ""
              then some (event, handler.erase) else none) =
                (if p.spelling = config.eventModifier ∧ event ≠ ""
                  then some (event, handler) else none).map _
            split <;> rfl
        | _ => rfl
      · cases event <;> rfl
  | _ => rfl

/- A modifier that is refused is refused as the same node. -/
theorem modifier_erase
    (depth : Nat)
    (m : Template.Modifier) :
    Alike (modifier config depth m)
      (modifier config depth m.erase) := by
  unfold modifier
  rw [eventHandler?_erase]
  cases eventHandler? config m.invocation with
  | none => exact .failShowing _ rfl
  | some found =>
      exact (expression_erase config depth found.2).map _

------------------------------------------------------------
-- The Standard Rules
------------------------------------------------------------

/-
  The rule for elements reads neither the comments of the
  tag nor any span.
-/
theorem standardElement_erase
    (depth : Nat)
    (el : Template.Element)
    {children children' : Unit → Outcome (List Jsx.Child)}
    {body body' : Unit → Outcome Jsx.Expr}
    (hChildren : Alike (children ()) (children' ()))
    (hBody : Alike (body ()) (body' ())) :
    Alike (standardElement config depth el children body)
      (standardElement config depth el.erase children' body') := by
  rcases el with ⟨tag, selfClosing, params, attributes, modifiers,
    comments, statements, span⟩
  rw [Template.Element.erase]
  refine (Alike.mapM (attributeOf_erase config depth) _).bind
    fun given => ?_
  refine (Alike.mapM (modifier_erase config depth) _).bind
    fun events => Alike.map _ ?_
  cases params with
  | nil => exact hChildren
  | cons param rest => exact hBody.map _

theorem blockParams_erase (b : Template.Block) :
    b.erase.blockParams = b.blockParams := by
  cases b <;> rfl

/- The form of a block is settled by the names of its path. -/
theorem blockForm_erase (b : Template.BlockStatement) :
    blockForm b.erase = blockForm b := by
  rcases b with
    ⟨⟨target, params, ⟨pairs, named⟩⟩, program, inverse, span⟩
  cases target with
  | path p =>
      rcases p with ⟨spelling, head, tail, source⟩
      cases tail <;> rfl
  | _ => rfl

section Blocks

variable (depth : Nat)
variable {program program' : Unit → Outcome Jsx.Expr}
variable {inverse inverse' : Unit → Outcome Jsx.Expr}
variable
  (hProgram : Alike (program ()) (program' ()))
  (hInverse : Alike (inverse ()) (inverse' ()))

theorem inverseOrNull_erase
    (b : Template.BlockStatement)
    (h : Alike (inverse ()) (inverse' ())) :
    Alike (inverseOrNull b inverse)
      (inverseOrNull b.erase inverse') := by
  rcases b with ⟨invocation, program, alternate, span⟩
  cases alternate with
  | absent => exact .tree _
  | present body params chained source => exact h

theorem bodyFunction_erase
    (block : Template.Block)
    (h : Alike (program ()) (program' ())) :
    Alike (bodyFunction block program)
      (bodyFunction block.erase program') := by
  cases block with
  | absent => exact .tree _
  | present body params chained source => exact h.map _

include hProgram

theorem letBlock_erase (b : Template.BlockStatement) :
    Alike (letBlock config depth b program)
      (letBlock config depth b.erase program') := by
  rcases b with
    ⟨⟨target, params, ⟨pairs, named⟩⟩, body, alternate, span⟩
  cases params with
  | nil => exact .failShowing _ rfl
  | cons param rest =>
      cases alternate with
      | present statements names chained source =>
          exact .failShowing _ rfl
      | absent =>
          refine (expressions_erase config depth
            (param :: rest)).bind fun arguments => ?_
          rw [Template.BlockStatement.erase, blockParams_erase]
          exact hProgram.map _

include hInverse

theorem conditionalBlock_erase
    (negate : Bool)
    (b : Template.BlockStatement) :
    Alike (conditionalBlock config depth negate b program inverse)
      (conditionalBlock config depth negate b.erase
        program' inverse') := by
  rcases b with
    ⟨⟨target, params, ⟨pairs, named⟩⟩, body, alternate, span⟩
  rcases params with _ | ⟨param, _ | ⟨next, rest⟩⟩
  · exact .failShowing _ rfl
  · refine (expression_erase config depth param).bind
      fun test => ?_
    refine hProgram.bind fun consequent => ?_
    refine (inverseOrNull_erase _ hInverse).bind fun other => ?_
    cases negate <;> exact .tree _
  · exact .failShowing _ rfl

theorem eachBlock_erase (b : Template.BlockStatement) :
    Alike (eachBlock config depth b program inverse)
      (eachBlock config depth b.erase program' inverse') := by
  rcases b with
    ⟨⟨target, params, ⟨pairs, named⟩⟩, body, alternate, span⟩
  rcases params with _ | ⟨param, _ | ⟨next, rest⟩⟩
  · exact .failShowing _ rfl
  · refine (expression_erase config depth param).bind
      fun list => ?_
    refine hProgram.bind fun result => ?_
    rw [Template.BlockStatement.erase, blockParams_erase]
    cases alternate with
    | absent => exact .tree _
    | present statements names chained source =>
        exact hInverse.map _
  · exact .failShowing _ rfl

theorem customBlock_erase (b : Template.BlockStatement) :
    Alike (customBlock config depth b program inverse)
      (customBlock config depth b.erase program' inverse') := by
  rcases b with
    ⟨⟨target, params, ⟨pairs, named⟩⟩, body, alternate, span⟩
  rw [Template.BlockStatement.erase]
  unfold customBlock
  rw [Template.Invocation.callee_erase, callee_erase]
  refine (expressions_erase config depth params).bind
    fun positional => ?_
  refine (namedArguments_erase config depth pairs).bind
    fun arguments => ?_
  exact (bodyFunction_erase body hProgram).bind fun first =>
    (bodyFunction_erase alternate hInverse).map _

/-
  The rule for blocks does not read whether a body was
  chained, nor any span.
-/
theorem standardBlock_erase (b : Template.BlockStatement) :
    Alike (standardBlock config depth b program inverse)
      (standardBlock config depth b.erase program' inverse') := by
  unfold standardBlock
  rw [blockForm_erase]
  cases blockForm b with
  | ifBlock =>
      exact conditionalBlock_erase config depth hProgram hInverse
        false b
  | unlessBlock =>
      exact conditionalBlock_erase config depth hProgram hInverse
        true b
  | eachBlock =>
      exact eachBlock_erase config depth hProgram hInverse b
  | letBlock => exact letBlock_erase config depth hProgram b
  | custom =>
      exact customBlock_erase config depth hProgram hInverse b

end Blocks

------------------------------------------------------------
-- Statements
------------------------------------------------------------

/- A node that lies too deep does so when it is erased. -/
theorem enter_erase
    (depth : Nat)
    (s : Template.Statement) :
    Alike (enter config depth (.statement s))
      (enter config depth (.statement s.erase)) := by
  cases s <;> exact .enter config depth rfl

mutual

theorem value_erase
    (depth : Nat)
    (s : Template.Statement) :
    Alike (value (.standard config) depth s)
      (value (.standard config) depth s.erase) := by
  cases s with
  | element el =>
      rw [Template.Statement.erase, value, value]
      exact (element_erase depth el).map _
  | mustache m =>
      rw [Template.Statement.erase, value, value]
      exact mustache_erase config depth m
  | block b =>
      rw [Template.Statement.erase, value, value]
      exact block_erase depth b
  | text run =>
      rw [Template.Statement.erase, value, value]
      exact .tree _
  | absent =>
      rw [Template.Statement.erase, value]
      exact .fail _ rfl
  | modifier m
  | comment c
  | mustacheComment c
  | concat c =>
      rw [Template.Statement.erase, value, value]
      exact .fail _ rfl

theorem markupChildren_erase
    (depth : Nat)
    (s : Template.Statement) :
    Alike (markupChildren (.standard config) depth s)
      (markupChildren (.standard config) depth s.erase) := by
  cases s with
  | element el =>
      rw [Template.Statement.erase, markupChildren, markupChildren]
      exact (element_erase depth el).map _
  | mustache m =>
      rw [Template.Statement.erase, markupChildren, markupChildren]
      exact (mustache_erase config depth m).map _
  | block b =>
      rw [Template.Statement.erase, markupChildren, markupChildren]
      exact (block_erase depth b).map _
  | text run
  | comment c
  | mustacheComment c =>
      rw [Template.Statement.erase, markupChildren, markupChildren]
      exact .tree _
  | absent =>
      rw [Template.Statement.erase, markupChildren]
      exact .fail _ rfl
  | modifier m
  | concat c =>
      rw [Template.Statement.erase, markupChildren, markupChildren]
      exact .fail _ rfl

theorem element_erase
    (depth : Nat) :
    (el : Template.Element) →
      Alike (element (.standard config) depth el)
        (element (.standard config) depth el.erase)
  | ⟨tag, selfClosing, params, attributes, modifiers, comments,
      body, span⟩ => by
    rw [Template.Element.erase, element, element]
    exact standardElement_erase config depth
      ⟨tag, selfClosing, params, attributes, modifiers, comments,
        body, span⟩
      (children_erase depth body) (root_erase depth body)

theorem block_erase
    (depth : Nat) :
    (b : Template.BlockStatement) →
      Alike (block (.standard config) depth b)
        (block (.standard config) depth b.erase)
  | ⟨invocation, program, inverse, span⟩ => by
    rw [Template.BlockStatement.erase, block, block]
    exact standardBlock_erase config depth
      (branch_erase depth program) (branch_erase depth inverse)
      ⟨invocation, program, inverse, span⟩

theorem branch_erase
    (depth : Nat)
    (b : Template.Block) :
    Alike (branch (.standard config) depth b)
      (branch (.standard config) depth b.erase) := by
  cases b with
  | absent =>
      rw [Template.Block.erase, branch]
      exact .tree _
  | present body params chained span =>
      rw [Template.Block.erase, branch, branch]
      exact root_erase depth body

theorem children_erase
    (depth : Nat) :
    (body : List Template.Statement) →
      Alike (children (.standard config) depth body)
        (children (.standard config) depth
          (Template.eraseStatements body))
  | [] => by
    rw [Template.eraseStatements, children]
    exact .tree []
  | s :: rest => by
    rw [Template.eraseStatements, children, children]
    refine (enter_erase config depth s).bind fun _ => ?_
    exact (markupChildren_erase (depth + 1) s).bind fun first =>
      (children_erase depth rest).map (first ++ ·)

theorem root_erase
    (depth : Nat) :
    (body : List Template.Statement) →
      Alike (root (.standard config) depth body)
        (root (.standard config) depth
          (Template.eraseStatements body))
  | [] => by
    rw [Template.eraseStatements, root]
    exact .tree _
  | [s] => by
    rw [Template.eraseStatements, Template.eraseStatements, root,
      root]
    exact (enter_erase config depth s).bind fun _ =>
      value_erase (depth + 1) s
  | s :: next :: rest => by
    have hOthers := children_erase depth (next :: rest)
    rw [Template.eraseStatements] at hOthers
    rw [Template.eraseStatements, Template.eraseStatements, root,
      root]
    refine (enter_erase config depth s).bind fun _ => ?_
    refine (markupChildren_erase (depth + 1) s).bind
      fun first => ?_
    exact hOthers.map _

end

end Expressions

/-
  Resolving is blind to what only diagnostics read. Templates
  that are equal without it give the same tree, or failures
  of the same kind at nodes of the same kind.
-/
theorem resolve_blind
    (config : Config)
    (t t' : Template)
    (h : t.erase = t'.erase) :
    Alike ((Setup.standard config).resolve (some t))
      ((Setup.standard config).resolve (some t')) := by
  have hBody :
      Template.eraseStatements t.body =
        Template.eraseStatements t'.body :=
    congrArg Template.body h
  have hFirst := root_erase config 0 t.body
  rw [hBody] at hFirst
  exact hFirst.trans (root_erase config 0 t'.body).symm

/-
  The templates differ in every erased field, and both are
  refused: the modifier is no event modifier.
-/
theorem resolve_blind_modifier :
    ∃ (t t' : Template) (f f' : Failure),
      t.erase = t'.erase ∧
      (Setup.standard Config.default).resolve (some t) =
        .error (.failure f) ∧
      (Setup.standard Config.default).resolve (some t') =
        .error (.failure f') ∧
      f ≠ f' ∧
      Alike (.error (.failure f) : Outcome Jsx.Expr)
        (.error (.failure f')) := by
  let build : Bool → String → Option Span → Template :=
    fun flag note span =>
      ⟨[.element
          ⟨"p", false, [], [],
            [⟨⟨.path ⟨"focus", "focus", [], span⟩,
              [.path ⟨note, "x", [], span⟩], .empty⟩, span⟩],
            [⟨note, span⟩],
            [.mustache
              ⟨⟨.path ⟨note, "y", [], span⟩, [],
                ⟨[⟨note, .null span, span⟩], span⟩⟩, flag, span⟩,
             .block
              ⟨⟨.path ⟨note, "f", [], span⟩, [], .empty⟩,
                .present [] ["z"] flag span, .absent, span⟩],
            span⟩],
        [note], span⟩
  let first := build true "x" none
  let second := build false "this.x" (some ⟨none, none⟩)
  have hErased : first.erase = second.erase := rfl
  have hAlike := resolve_blind Config.default first second hErased
  refine ⟨first, second, _, _, hErased, rfl, rfl, ?_, hAlike⟩
  decide

end Resolve

end TemplateJsx
