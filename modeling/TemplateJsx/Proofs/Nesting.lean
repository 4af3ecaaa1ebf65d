import TemplateJsx.Resolve.Statement

/-
  The nesting of templates, and the proof that the bound on
  the nesting counts it exactly: a template that is resolved
  without a bound is resolved to the same tree under every
  bound that its levels respect, and refused under every
  smaller one.

  Key definitions include:
    * `Template.Expr.levels`
    * `Template.Statement.levels`
    * `Template.levels`
    * `Resolve.Exceeds`
    * `Resolve.Cut`

  Main declarations:
    * `Resolve.Cut.bind`
    * `Resolve.Cut.enter`
    * `Resolve.expression_cut`
    * `Resolve.standardElement_cut`
    * `Resolve.standardBlock_cut`
    * `Resolve.root_cut`
    * `Resolve.resolve_limited`
-/

------------------------------------------------------------
-- Levels of Expressions
------------------------------------------------------------

namespace TemplateJsx

namespace Template

/- The greatest of the levels of a list's members. -/
def deepest
    {α : Type}
    (levels : α → Nat) : List α → Nat
  | [] => 0
  | a :: rest => max (levels a) (deepest levels rest)

mutual

/-
  An invocation lies one level above its arguments. What it
  calls adds no level.
-/
def Expr.levels : Expr → Nat
  | .call i _ => i.argumentLevels + 1
  | _ => 1

/- The levels of positional and named arguments. -/
def Invocation.argumentLevels : Invocation → Nat
  | ⟨_, params, ⟨pairs, _⟩⟩ =>
      max (exprLevels params) (pairLevels pairs)

/- The levels of a list of expressions. -/
def exprLevels : List Expr → Nat
  | [] => 0
  | e :: rest => max e.levels (exprLevels rest)

/- The levels of the values of named arguments. -/
def pairLevels : List Pair → Nat
  | [] => 0
  | ⟨_, value, _⟩ :: rest =>
      max value.levels (pairLevels rest)

end

------------------------------------------------------------
-- Levels of Statements
------------------------------------------------------------

/-
  What stands in braces lies one level above its arguments,
  or above its callee if it has no positional ones.
-/
def Mustache.levels (m : Mustache) : Nat :=
  match m.invocation.params with
  | [] => m.invocation.callee.levels + 1
  | _ => m.invocation.argumentLevels + 1

/- The levels of a part of an interpolated text. -/
def TextPart.levels : TextPart → Nat
  | .mustache m => m.levels
  | _ => 1

/-
  The levels of an attribute's value. Texts add no level,
  and interpolation adds none to its parts.
-/
def AttributeValue.levels : AttributeValue → Nat
  | .absent => 0
  | .text _ => 0
  | .mustache m => m.levels
  | .concat c => deepest TextPart.levels c.parts

/-
  The levels of an attribute. The attribute that passes on
  the caller's attributes has no use for its value.
-/
def Attribute.levels (a : Attribute) : Nat :=
  if a.name = Resolve.splattributes then 0 else a.value.levels

/- The levels of the handler of an event. -/
def Modifier.levels (m : Modifier) : Nat :=
  match m.invocation.params with
  | [_, handler] => handler.levels
  | _ => 0

/-
  The levels of the arguments of a block. Named arguments
  count only where they are passed on.
-/
def BlockStatement.argumentLevels (b : BlockStatement) : Nat :=
  match Resolve.blockForm b with
  | .custom => b.invocation.argumentLevels
  | _ => exprLevels b.invocation.params

mutual

/- The levels of a statement, its own among them. -/
def Statement.levels : Statement → Nat
  | .element e => e.levels
  | .mustache m => m.levels
  | .block b => b.levels
  | _ => 1

/- An element lies one level above all that stands in it. -/
def Element.levels : Element → Nat
  | ⟨_, _, _, attributes, modifiers, _, children, _⟩ =>
      max
        (max (deepest Attribute.levels attributes)
          (deepest Modifier.levels modifiers))
        (statementLevels children) + 1

/- A block lies one level above arguments and bodies. -/
def BlockStatement.levels : BlockStatement → Nat
  | ⟨invocation, program, inverse, span⟩ =>
      max
        (BlockStatement.argumentLevels
          ⟨invocation, program, inverse, span⟩)
        (max program.levels inverse.levels) + 1

/- The levels of a body. -/
def Block.levels : Block → Nat
  | .absent => 0
  | .present body _ _ _ => statementLevels body

/- The levels of a list of statements. -/
def statementLevels : List Statement → Nat
  | [] => 0
  | s :: rest => max s.levels (statementLevels rest)

end

end Template

/- The levels of a template. -/
def Template.levels (t : Template) : Nat :=
  Template.statementLevels t.body

------------------------------------------------------------
-- Outcomes under a Bound
------------------------------------------------------------

namespace Resolve

/- The outcome is a refusal because of the bound. -/
def Exceeds
    {α : Type}
    (outcome : Outcome α) : Prop :=
  ∃ f : Failure,
    outcome = .error (.failure f) ∧
      f.kind = .maxDepthExceeded

/-
  How a bound cuts an outcome for something that has
  `levels` levels and stands `depth` levels deep: what is
  found without a bound is found if all levels respect the
  bound, and refused otherwise.
-/
def Cut
    {α : Type}
    (bound depth levels : Nat)
    (free bounded : Outcome α) : Prop :=
  depth ≤ bound → ∀ a, free = .ok a →
    (depth + levels ≤ bound → bounded = .ok a) ∧
      (bound < depth + levels → Exceeds bounded)

namespace Cut

variable {α β : Type}
variable {bound depth : Nat}

/- What has no levels is not cut. -/
theorem ok (a : α) :
    Cut bound depth 0 (.ok a) (.ok a) := by
  intro hDepth b hOk
  refine ⟨fun _ => hOk, fun hOver => ?_⟩
  omega

/- Nothing is asked of what is refused in any case. -/
theorem error
    {levels : Nat}
    {e : Error}
    {bounded : Outcome α} :
    Cut bound depth levels (.error e) bounded := by
  intro _ a hOk
  cases hOk

/- Steps one after the other are cut by the deeper one. -/
theorem bind
    {first second : Nat}
    {free bounded : Outcome α}
    {freeNext boundedNext : α → Outcome β}
    (hFirst : Cut bound depth first free bounded)
    (hSecond : ∀ a,
      Cut bound depth second (freeNext a) (boundedNext a)) :
    Cut bound depth (max first second)
      (free >>= freeNext) (bounded >>= boundedNext) := by
  intro hDepth b hOk
  cases hFree : free with
  | error e =>
      rw [hFree] at hOk
      cases hOk
  | ok a =>
      rw [hFree] at hOk
      rcases hFirst hDepth a hFree with ⟨hKeep, hRefuse⟩
      rcases hSecond a hDepth b hOk with
        ⟨hKeepNext, hRefuseNext⟩
      refine ⟨fun hWithin => ?_, fun hOver => ?_⟩
      · rw [hKeep (by omega)]
        exact hKeepNext (by omega)
      · by_cases hHere : depth + first ≤ bound
        · rw [hKeep hHere]
          exact hRefuseNext (by omega)
        · rcases hRefuse (by omega) with ⟨f, hError, hKind⟩
          rw [hError]
          exact ⟨f, rfl, hKind⟩

/- A step that adds nothing to cut. -/
theorem map
    {levels : Nat}
    {free bounded : Outcome α}
    (g : α → β)
    (h : Cut bound depth levels free bounded) :
    Cut bound depth levels
      (free >>= fun a => .ok (g a))
      (bounded >>= fun a => .ok (g a)) := by
  have hMax :
      Cut bound depth (max levels 0)
        (free >>= fun a => .ok (g a))
        (bounded >>= fun a => .ok (g a)) :=
    h.bind fun a => ok (g a)
  rwa [Nat.max_zero] at hMax

/- Lists are cut by their deepest member. -/
theorem mapM
    {levels : α → Nat}
    {free bounded : α → Outcome β}
    (h : ∀ a, Cut bound depth (levels a) (free a) (bounded a))
    (as : List α) :
    Cut bound depth (Template.deepest levels as)
      (as.mapM free) (as.mapM bounded) := by
  induction as with
  | nil => exact ok []
  | cons a rest ih =>
      rw [List.mapM_cons, List.mapM_cons]
      exact (h a).bind fun b => ih.map (b :: ·)

end Cut

end Resolve

/- The configuration with the given bound; zero is none. -/
def Config.bounded
    (config : Config)
    (bound : Nat) : Config :=
  { config with maxDepth := bound }

namespace Resolve

variable {α : Type}
variable {bound : Nat}

/- A node is refused if the levels around it use up the bound. -/
theorem enter_bounded
    (config : Config)
    (depth : Nat)
    (node : Template.Node) :
    enter (config.bounded bound) depth node =
      if 0 < bound ∧ bound ≤ depth then
        fail .maxDepthExceeded node
      else
        .ok () := by
  simp only [enter, Config.bounded, Int.natCast_pos,
    Int.ofNat_le]

/-
  Entering a node uses up one level. This is the only place
  where the bound is looked at.
-/
theorem Cut.enter
    {depth levels : Nat}
    {free bounded : Outcome α}
    (config : Config)
    (node : Template.Node)
    (hBound : 0 < bound)
    (h : Cut bound (depth + 1) levels free bounded) :
    Cut bound depth (levels + 1)
      (enter (config.bounded 0) depth node >>= fun _ => free)
      (enter (config.bounded bound) depth node
        >>= fun _ => bounded) := by
  intro hDepth a hOk
  rw [enter_bounded, if_neg (by omega)] at hOk
  rw [enter_bounded]
  by_cases hFull : bound ≤ depth
  · rw [if_pos ⟨hBound, hFull⟩]
    refine ⟨fun hWithin => ?_, fun _ => ?_⟩
    · omega
    · exact ⟨_, rfl, rfl⟩
  · rw [if_neg (fun hBoth => hFull hBoth.2)]
    rcases h (by omega) a hOk with ⟨hKeep, hRefuse⟩
    refine ⟨fun hWithin => ?_, fun hOver => ?_⟩
    · exact hKeep (by omega)
    · exact hRefuse (by omega)

------------------------------------------------------------
-- Expressions
------------------------------------------------------------

mutual

/- Expressions are cut by their levels. -/
theorem expression_cut
    (config : Config)
    (hBound : 0 < bound)
    (depth : Nat)
    (e : Template.Expr) :
    Cut bound depth e.levels
      (expression (config.bounded 0) depth e)
      (expression (config.bounded bound) depth e) := by
  cases e with
  | call i span =>
      rw [expression, expression, Template.Expr.levels]
      exact .enter config _ hBound
        (helperCall_cut config hBound (depth + 1) i)
  | path p =>
      rw [expression, expression]
      refine .enter config _ hBound ?_
      cases path p with
      | ok members => exact .ok members
      | error kind => exact .error
  | absent =>
      rw [expression, expression]
      exact .enter config _ hBound .error
  | _ =>
      rw [expression, expression]
      exact .enter config _ hBound (.ok _)

/- Invocations are cut by the levels of their arguments. -/
theorem helperCall_cut
    (config : Config)
    (hBound : 0 < bound)
    (depth : Nat) :
    (i : Template.Invocation) →
      Cut bound depth i.argumentLevels
        (helperCall (config.bounded 0) depth i)
        (helperCall (config.bounded bound) depth i)
  | ⟨target, params, ⟨pairs, span⟩⟩ => by
      rw [helperCall, helperCall,
        Template.Invocation.argumentLevels]
      refine (expressions_cut config hBound depth params).bind
        fun positional => ?_
      exact (namedArguments_cut config hBound depth pairs).map
        fun named => _

/- Lists of expressions are cut by their deepest member. -/
theorem expressions_cut
    (config : Config)
    (hBound : 0 < bound)
    (depth : Nat) :
    (es : List Template.Expr) →
      Cut bound depth (Template.exprLevels es)
        (expressions (config.bounded 0) depth es)
        (expressions (config.bounded bound) depth es)
  | [] => by
      rw [expressions, expressions, Template.exprLevels]
      exact .ok []
  | e :: rest => by
      rw [expressions, expressions, Template.exprLevels]
      refine (expression_cut config hBound depth e).bind
        fun first => ?_
      exact (expressions_cut config hBound depth rest).map
        (first :: ·)

/- Named arguments are cut by their deepest value. -/
theorem namedArguments_cut
    (config : Config)
    (hBound : 0 < bound)
    (depth : Nat) :
    (pairs : List Template.Pair) →
      Cut bound depth (Template.pairLevels pairs)
        (namedArguments (config.bounded 0) depth pairs)
        (namedArguments (config.bounded bound) depth pairs)
  | [] => by
      rw [namedArguments, namedArguments, Template.pairLevels]
      exact .ok []
  | ⟨key, value, span⟩ :: rest => by
      rw [namedArguments, namedArguments, Template.pairLevels]
      refine (expression_cut config hBound depth value).bind
        fun first => ?_
      exact (namedArguments_cut config hBound depth rest).map
        (.mk key first :: ·)

end

------------------------------------------------------------
-- Values in Opening Tags
------------------------------------------------------------

/- What stands in braces is cut by all levels but its own. -/
theorem mustache_cut
    (config : Config)
    (hBound : 0 < bound)
    (depth : Nat)
    (node : Template.Node)
    (m : Template.Mustache) :
    Cut bound depth m.levels
      (enter (config.bounded 0) depth node >>= fun _ =>
        mustache (config.bounded 0) (depth + 1) m)
      (enter (config.bounded bound) depth node >>= fun _ =>
        mustache (config.bounded bound) (depth + 1) m) := by
  unfold mustache Template.Mustache.levels
  cases m.invocation.params with
  | nil =>
      exact .enter config _ hBound
        (expression_cut config hBound (depth + 1) _)
  | cons param rest =>
      exact .enter config _ hBound
        (helperCall_cut config hBound (depth + 1) _)

/- A part of an interpolated text is cut by its levels. -/
theorem partValue_cut
    (config : Config)
    (hBound : 0 < bound)
    (depth : Nat)
    (part : Template.TextPart) :
    Cut bound depth part.levels
      (partValue (config.bounded 0) depth part)
      (partValue (config.bounded bound) depth part) := by
  unfold partValue
  cases part with
  | absent => exact .enter config _ hBound .error
  | text run => exact .enter config _ hBound (.ok _)
  | mustache m => exact mustache_cut config hBound depth _ m

/- The parts that follow are cut by the deepest of them. -/
theorem sumFrom_cut
    (config : Config)
    (hBound : 0 < bound)
    (depth : Nat)
    (sum : Jsx.Expr)
    (parts : List Template.TextPart) :
    Cut bound depth
      (Template.deepest Template.TextPart.levels parts)
      (sumFrom (config.bounded 0) depth sum parts)
      (sumFrom (config.bounded bound) depth sum parts) := by
  induction parts generalizing sum with
  | nil => exact .ok sum
  | cons part rest ih =>
      exact (partValue_cut config hBound depth part).bind
        fun next => ih (.binary .add sum next)

/- An interpolated text is cut by its deepest part. -/
theorem concat_cut
    (config : Config)
    (hBound : 0 < bound)
    (depth : Nat)
    (parts : List Template.TextPart) :
    Cut bound depth
      (Template.deepest Template.TextPart.levels parts)
      (concat (config.bounded 0) depth parts)
      (concat (config.bounded bound) depth parts) := by
  cases parts with
  | nil => exact .ok _
  | cons part rest =>
      exact (partValue_cut config hBound depth part).bind
        fun first => sumFrom_cut config hBound depth first rest

/- Attributes are cut by their levels. -/
theorem attributeOf_cut
    (config : Config)
    (hBound : 0 < bound)
    (depth : Nat)
    (a : Template.Attribute) :
    Cut bound depth a.levels
      (attributeOf (config.bounded 0) depth a)
      (attributeOf (config.bounded bound) depth a) := by
  unfold attributeOf Template.Attribute.levels
  by_cases hSplat : a.name = splattributes
  · rw [if_pos hSplat, if_pos hSplat, if_pos hSplat]
    exact .ok _
  · rw [if_neg hSplat, if_neg hSplat, if_neg hSplat]
    cases a.value with
    | absent => exact .ok _
    | text run =>
        by_cases hEmpty : run.chars = ""
        · simp only [hEmpty, if_pos]
          exact .ok _
        · simp only [hEmpty, if_neg, not_false_eq_true]
          exact .ok _
    | mustache m =>
        have hValue :=
          (mustache_cut config hBound depth
            (.statement (.mustache m)) m).map
            (Jsx.Attribute.container (config.rename a.name))
        rw [bind_assoc, bind_assoc] at hValue
        exact hValue
    | concat c =>
        exact (concat_cut config hBound depth c.parts).map
          (Jsx.Attribute.container (config.rename a.name))

/- The handler and the event belong to two parameters. -/
theorem levels_of_eventHandler
    {config : Config}
    {m : Template.Modifier}
    {event : String}
    {handler : Template.Expr}
    (hEvent :
      eventHandler? config m.invocation =
        some (event, handler)) :
    m.levels = handler.levels := by
  unfold eventHandler? at hEvent
  split at hEvent
  · rename_i hInvocation
    split at hEvent
    · cases hEvent
      unfold Template.Modifier.levels
      rw [hInvocation]
    · cases hEvent
  · cases hEvent

/- Modifiers are cut by the levels of their handlers. -/
theorem modifier_cut
    (config : Config)
    (hBound : 0 < bound)
    (depth : Nat)
    (m : Template.Modifier) :
    Cut bound depth m.levels
      (modifier (config.bounded 0) depth m)
      (modifier (config.bounded bound) depth m) := by
  have hSame :
      eventHandler? (config.bounded bound) m.invocation =
        eventHandler? (config.bounded 0) m.invocation := rfl
  unfold modifier
  rw [hSame]
  cases hEvent :
      eventHandler? (config.bounded 0) m.invocation with
  | none => exact .error
  | some found =>
      rcases found with ⟨event, handler⟩
      rw [levels_of_eventHandler hEvent]
      exact (expression_cut config hBound depth handler).map
        (Jsx.Attribute.container (handlerName event))

------------------------------------------------------------
-- Elements and Blocks
------------------------------------------------------------

/- The children of an element are cut as its statements are. -/
theorem elementChildren_cut
    {depth levels : Nat}
    {freeChildren children : Unit → Outcome (List Jsx.Child)}
    {freeBody body : Unit → Outcome Jsx.Expr}
    (params : List String)
    (hChildren :
      Cut bound depth levels (freeChildren ()) (children ()))
    (hBody : Cut bound depth levels (freeBody ()) (body ())) :
    Cut bound depth levels
      (elementChildren params freeChildren freeBody)
      (elementChildren params children body) := by
  cases params with
  | nil => exact hChildren
  | cons param rest => exact hBody.map fun result => _

/-
  The standard rule for elements adds the levels of
  attributes and handlers to those of the statements.
-/
theorem standardElement_cut
    {depth levels : Nat}
    {freeChildren children : Unit → Outcome (List Jsx.Child)}
    {freeBody body : Unit → Outcome Jsx.Expr}
    (config : Config)
    (hBound : 0 < bound)
    (el : Template.Element)
    (hChildren :
      Cut bound depth levels (freeChildren ()) (children ()))
    (hBody : Cut bound depth levels (freeBody ()) (body ())) :
    Cut bound depth
      (max
        (max
          (Template.deepest Template.Attribute.levels
            el.attributes)
          (Template.deepest Template.Modifier.levels
            el.modifiers))
        levels)
      (standardElement (config.bounded 0) depth el
        freeChildren freeBody)
      (standardElement (config.bounded bound) depth el
        children body) := by
  unfold standardElement
  rw [Nat.max_assoc]
  refine Cut.bind
    (.mapM (attributeOf_cut config hBound depth)
      el.attributes)
    fun attributes => ?_
  refine Cut.bind
    (.mapM (modifier_cut config hBound depth) el.modifiers)
    fun events => ?_
  exact (elementChildren_cut el.blockParams hChildren
    hBody).map fun kids => _

/- A body that is missing has no levels. -/
theorem levels_of_not_isPresent
    {b : Template.Block}
    (hAbsent : ¬ b.IsPresent) :
    b.levels = 0 := by
  cases b with
  | absent => rw [Template.Block.levels]
  | present body params chained span =>
      exact absurd trivial hAbsent

/- The two bodies of a block, each cut by its levels. -/
structure BodiesCut
    (bound depth : Nat)
    (b : Template.BlockStatement)
    (freeProgram freeInverse program inverse :
      Unit → Outcome Jsx.Expr) : Prop where
  program :
    Cut bound depth b.program.levels
      (freeProgram ()) (program ())
  inverse :
    Cut bound depth b.inverse.levels
      (freeInverse ()) (inverse ())

section Blocks

variable {depth : Nat}
variable {b : Template.BlockStatement}
variable {freeProgram freeInverse program inverse :
  Unit → Outcome Jsx.Expr}

theorem inverseOrNull_cut
    (h : BodiesCut bound depth b
      freeProgram freeInverse program inverse) :
    Cut bound depth b.inverse.levels
      (inverseOrNull b freeInverse)
      (inverseOrNull b inverse) := by
  unfold inverseOrNull
  by_cases hPresent : b.inverse.IsPresent
  · rw [if_pos hPresent, if_pos hPresent]
    exact h.inverse
  · rw [if_neg hPresent, if_neg hPresent,
      levels_of_not_isPresent hPresent]
    exact .ok _

theorem bodyFunction_cut
    {body : Template.Block}
    {free bounded : Unit → Outcome Jsx.Expr}
    (h : Cut bound depth body.levels (free ()) (bounded ())) :
    Cut bound depth body.levels
      (bodyFunction body free)
      (bodyFunction body bounded) := by
  unfold bodyFunction
  by_cases hPresent : body.IsPresent
  · rw [if_pos hPresent, if_pos hPresent]
    exact h.map fun result => _
  · rw [if_neg hPresent, if_neg hPresent,
      levels_of_not_isPresent hPresent]
    exact .ok _

/- Positional and named arguments count alike. -/
theorem argumentLevels_eq
    (i : Template.Invocation) :
    i.argumentLevels =
      max (Template.exprLevels i.params)
        (Template.pairLevels i.hash.pairs) := by
  rcases i with ⟨target, params, ⟨pairs, span⟩⟩
  rw [Template.Invocation.argumentLevels]

/- A single argument has the levels of its expression. -/
theorem exprLevels_singleton
    (e : Template.Expr) :
    Template.exprLevels [e] = e.levels := by
  rw [Template.exprLevels, Template.exprLevels,
    Nat.max_zero]

theorem conditionalBlock_cut
    (config : Config)
    (hBound : 0 < bound)
    (negate : Bool)
    (h : BodiesCut bound depth b
      freeProgram freeInverse program inverse) :
    Cut bound depth
      (max (Template.exprLevels b.invocation.params)
        (max b.program.levels b.inverse.levels))
      (conditionalBlock (config.bounded 0) depth negate b
        freeProgram freeInverse)
      (conditionalBlock (config.bounded bound) depth negate b
        program inverse) := by
  unfold conditionalBlock
  match b.invocation.params with
  | [] => exact .error
  | _ :: _ :: _ => exact .error
  | [param] =>
      rw [exprLevels_singleton]
      refine (expression_cut config hBound depth param).bind
        fun test => h.program.bind fun consequent => ?_
      cases negate with
      | true => exact (inverseOrNull_cut h).map fun _ => _
      | false => exact (inverseOrNull_cut h).map fun _ => _

theorem eachBlock_cut
    (config : Config)
    (hBound : 0 < bound)
    (h : BodiesCut bound depth b
      freeProgram freeInverse program inverse) :
    Cut bound depth
      (max (Template.exprLevels b.invocation.params)
        (max b.program.levels b.inverse.levels))
      (eachBlock (config.bounded 0) depth b
        freeProgram freeInverse)
      (eachBlock (config.bounded bound) depth b
        program inverse) := by
  unfold eachBlock
  match b.invocation.params with
  | [] => exact .error
  | _ :: _ :: _ => exact .error
  | [param] =>
      rw [exprLevels_singleton]
      refine (expression_cut config hBound depth param).bind
        fun list => h.program.bind fun body => ?_
      by_cases hPresent : b.inverse.IsPresent
      · simp only [if_pos hPresent]
        exact h.inverse.map fun _ => _
      · simp only [if_neg hPresent]
        rw [levels_of_not_isPresent hPresent]
        exact .ok _

theorem letBlock_cut
    (config : Config)
    (hBound : 0 < bound)
    (h : BodiesCut bound depth b
      freeProgram freeInverse program inverse) :
    Cut bound depth
      (max (Template.exprLevels b.invocation.params)
        (max b.program.levels b.inverse.levels))
      (letBlock (config.bounded 0) depth b freeProgram)
      (letBlock (config.bounded bound) depth b program) := by
  unfold letBlock
  by_cases hMalformed :
      b.invocation.params.isEmpty = true ∨ b.inverse.IsPresent
  · rw [if_pos hMalformed]
    exact .error
  · rw [if_neg hMalformed, if_neg hMalformed,
      levels_of_not_isPresent (fun h => hMalformed (.inr h)),
      Nat.max_zero]
    exact (expressions_cut config hBound depth
      b.invocation.params).bind fun arguments =>
        h.program.map fun _ => _

theorem customBlock_cut
    (config : Config)
    (hBound : 0 < bound)
    (h : BodiesCut bound depth b
      freeProgram freeInverse program inverse) :
    Cut bound depth
      (max b.invocation.argumentLevels
        (max b.program.levels b.inverse.levels))
      (customBlock (config.bounded 0) depth b
        freeProgram freeInverse)
      (customBlock (config.bounded bound) depth b
        program inverse) := by
  unfold customBlock
  rw [argumentLevels_eq, Nat.max_assoc]
  refine (expressions_cut config hBound depth
    b.invocation.params).bind fun positional => ?_
  refine (namedArguments_cut config hBound depth
    b.invocation.hash.pairs).bind fun named => ?_
  refine (bodyFunction_cut h.program).bind fun first => ?_
  exact (bodyFunction_cut h.inverse).map fun _ => _

/-
  The standard rule for blocks adds the levels of the
  arguments to those of the bodies.
-/
theorem standardBlock_cut
    (config : Config)
    (hBound : 0 < bound)
    (h : BodiesCut bound depth b
      freeProgram freeInverse program inverse) :
    Cut bound depth
      (max b.argumentLevels
        (max b.program.levels b.inverse.levels))
      (standardBlock (config.bounded 0) depth b
        freeProgram freeInverse)
      (standardBlock (config.bounded bound) depth b
        program inverse) := by
  unfold standardBlock Template.BlockStatement.argumentLevels
  cases blockForm b with
  | ifBlock => exact conditionalBlock_cut config hBound false h
  | unlessBlock =>
      exact conditionalBlock_cut config hBound true h
  | eachBlock => exact eachBlock_cut config hBound h
  | letBlock => exact letBlock_cut config hBound h
  | custom => exact customBlock_cut config hBound h

end Blocks

------------------------------------------------------------
-- Statements
------------------------------------------------------------

mutual

/- A statement in the place of a value is cut by its levels. -/
theorem statement_cut
    (config : Config)
    (hBound : 0 < bound)
    (depth : Nat)
    (s : Template.Statement) :
    Cut bound depth s.levels
      (statement (.standard (config.bounded 0)) depth s)
      (statement (.standard (config.bounded bound))
        depth s) := by
  unfold statement
  cases s with
  | element e =>
      have hElement :=
        (element_cut config hBound depth (.statement (.element e)) e).map
          Jsx.Expr.markup
      rw [bind_assoc, bind_assoc] at hElement
      simp only [value, Template.Statement.levels]
      exact hElement
  | text run =>
      simp only [value]
      exact .enter config _ hBound (.ok _)
  | mustache m =>
      simp only [value, Template.Statement.levels]
      exact mustache_cut config hBound depth _ m
  | block b =>
      simp only [value, Template.Statement.levels]
      exact block_cut config hBound depth _ b
  | _ =>
      simp only [value]
      exact .enter config _ hBound .error

/- A statement among children is cut by its levels. -/
theorem child_cut
    (config : Config)
    (hBound : 0 < bound)
    (depth : Nat)
    (s : Template.Statement) :
    Cut bound depth s.levels
      (child (.standard (config.bounded 0)) depth s)
      (child (.standard (config.bounded bound)) depth s) := by
  unfold child
  cases s with
  | element e =>
      have hElement :=
        (element_cut config hBound depth (.statement (.element e)) e).map
          fun markup => [Jsx.Child.markup markup]
      rw [bind_assoc, bind_assoc] at hElement
      simp only [markupChildren, Template.Statement.levels]
      exact hElement
  | text run =>
      simp only [markupChildren]
      exact .enter config _ hBound (.ok _)
  | mustache m =>
      have hMustache :=
        (mustache_cut config hBound depth
          (.statement (.mustache m)) m).map
          fun result => [Jsx.Child.container result]
      rw [bind_assoc, bind_assoc] at hMustache
      simp only [markupChildren, Template.Statement.levels]
      exact hMustache
  | block b =>
      have hBlock :=
        (block_cut config hBound depth (.statement (.block b)) b).map
          fun result => [Jsx.Child.container result]
      rw [bind_assoc, bind_assoc] at hBlock
      simp only [markupChildren, Template.Statement.levels]
      exact hBlock
  | comment c =>
      simp only [markupChildren]
      exact .enter config _ hBound (.ok _)
  | mustacheComment c =>
      simp only [markupChildren]
      exact .enter config _ hBound (.ok _)
  | _ =>
      simp only [markupChildren]
      exact .enter config _ hBound .error

/- An element is cut by its levels. -/
theorem element_cut
    (config : Config)
    (hBound : 0 < bound)
    (depth : Nat)
    (node : Template.Node) :
    (e : Template.Element) →
      Cut bound depth e.levels
        (enter (config.bounded 0) depth node >>= fun _ =>
          element (.standard (config.bounded 0))
            (depth + 1) e)
        (enter (config.bounded bound) depth node >>= fun _ =>
          element (.standard (config.bounded bound))
            (depth + 1) e)
  | ⟨tag, selfClosing, params, attributes, modifiers,
      comments, body, span⟩ => by
    rw [element, element, Template.Element.levels]
    exact .enter config _ hBound
      (standardElement_cut config hBound
        ⟨tag, selfClosing, params, attributes, modifiers,
          comments, body, span⟩
        (children_cut config hBound (depth + 1) body)
        (root_cut config hBound (depth + 1) body))

/- A block is cut by its levels. -/
theorem block_cut
    (config : Config)
    (hBound : 0 < bound)
    (depth : Nat)
    (node : Template.Node) :
    (b : Template.BlockStatement) →
      Cut bound depth b.levels
        (enter (config.bounded 0) depth node >>= fun _ =>
          block (.standard (config.bounded 0)) (depth + 1) b)
        (enter (config.bounded bound) depth node >>= fun _ =>
          block (.standard (config.bounded bound))
            (depth + 1) b)
  | ⟨invocation, program, inverse, span⟩ => by
    rw [block, block, Template.BlockStatement.levels]
    exact .enter config _ hBound
      (standardBlock_cut config hBound
        ⟨branch_cut config hBound (depth + 1) program,
          branch_cut config hBound (depth + 1) inverse⟩)

/- The body of a block is cut by its levels. -/
theorem branch_cut
    (config : Config)
    (hBound : 0 < bound)
    (depth : Nat) :
    (b : Template.Block) →
      Cut bound depth b.levels
        (branch (.standard (config.bounded 0)) depth b)
        (branch (.standard (config.bounded bound)) depth b)
  | .absent => by
    rw [branch, branch, Template.Block.levels]
    exact .ok _
  | .present body params chained span => by
    rw [branch, branch, Template.Block.levels]
    exact root_cut config hBound depth body

/- Children are cut by their deepest statement. -/
theorem children_cut
    (config : Config)
    (hBound : 0 < bound)
    (depth : Nat) :
    (body : List Template.Statement) →
      Cut bound depth (Template.statementLevels body)
        (children (.standard (config.bounded 0)) depth body)
        (children (.standard (config.bounded bound))
          depth body)
  | [] => by
    rw [children, children, Template.statementLevels]
    exact .ok []
  | s :: rest => by
    have hAll := (child_cut config hBound depth s).bind fun first =>
      (children_cut config hBound depth rest).map (first ++ ·)
    unfold child at hAll
    rw [bind_assoc, bind_assoc] at hAll
    rw [children, children, Template.statementLevels]
    exact hAll

/- A body as one expression is cut by its deepest statement. -/
theorem root_cut
    (config : Config)
    (hBound : 0 < bound)
    (depth : Nat) :
    (body : List Template.Statement) →
      Cut bound depth (Template.statementLevels body)
        (root (.standard (config.bounded 0)) depth body)
        (root (.standard (config.bounded bound)) depth body)
  | [] => by
    rw [root, root, Template.statementLevels]
    exact .ok _
  | [s] => by
    rw [root, root, Template.statementLevels,
      Template.statementLevels, Nat.max_zero]
    exact statement_cut config hBound depth s
  | s :: next :: rest => by
    have hAll := (child_cut config hBound depth s).bind fun first =>
      (children_cut config hBound depth (next :: rest)).map
        fun others => Jsx.Expr.markup (.fragment (first ++ others))
    unfold child at hAll
    rw [bind_assoc, bind_assoc] at hAll
    rw [root, root, Template.statementLevels]
    exact hAll

end

------------------------------------------------------------
-- Whole Templates
------------------------------------------------------------

/-
  The bound counts the nesting exactly. A template that is
  resolved without a bound is resolved to the same tree if
  its levels respect the bound, and refused because of the
  bound if they do not.
-/
theorem resolve_limited
    (config : Config)
    (bound : Nat)
    (t : Template)
    (e : Jsx.Expr)
    (hBound : 0 < bound)
    (hAccepted :
      (Setup.standard (config.bounded 0)).resolve (some t) =
        .ok e) :
    (t.levels ≤ bound →
      (Setup.standard (config.bounded bound)).resolve
        (some t) = .ok e) ∧
    (bound < t.levels →
      Exceeds
        ((Setup.standard (config.bounded bound)).resolve
          (some t))) := by
  have hCut :=
    root_cut config hBound 0 t.body (Nat.zero_le bound) e
      hAccepted
  rw [Nat.zero_add] at hCut
  exact hCut

/-
  A handler and a nested argument inside an element inside a
  block: five levels, one too many for a bound of four.
-/
theorem resolve_limited_nested :
    ∃ (t : Template) (e : Jsx.Expr),
      t.levels = 5 ∧
      (Setup.standard (Config.default.bounded 5)).resolve
        (some t) = .ok e ∧
      Exceeds
        ((Setup.standard (Config.default.bounded 4)).resolve
          (some t)) := by
  let name (s : String) : Template.Expr :=
    .path ⟨s, s, [], none⟩
  let title : Template.Attribute :=
    ⟨"title",
      .mustache
        ⟨⟨name "f",
          [.call ⟨name "g", [name "x"], .empty⟩ none],
          .empty⟩, false, none⟩,
      none⟩
  let click : Template.Modifier :=
    ⟨⟨name "on", [.string "click" none, name "save"], .empty⟩,
      none⟩
  let t : Template :=
    ⟨[.block
        ⟨⟨name "if", [name "ready"], .empty⟩,
          .present
            [.element
              ⟨"a", false, [], [title], [click], [],
                [.text ⟨"go", none⟩], none⟩]
            [] false none,
          .absent, none⟩],
      [], none⟩
  have hLevels : t.levels = 5 := by decide
  have hAccepted :
      ∃ e, (Setup.standard (Config.default.bounded 0)).resolve
        (some t) = .ok e :=
    ⟨_, rfl⟩
  rcases hAccepted with ⟨e, hTree⟩
  refine ⟨t, e, hLevels, ?_, ?_⟩
  · exact (resolve_limited Config.default 5 t e (by decide)
      hTree).1 (Nat.le_of_eq hLevels)
  · exact (resolve_limited Config.default 4 t e (by decide)
      hTree).2 (by rw [hLevels]; decide)

/-
  The value of the attribute that passes on the caller's
  attributes is never resolved. If it were counted like
  other values, this element would have three levels; it is
  resolved under a bound of one.
-/
theorem splattributes_value_not_counted :
    ∃ (a : Template.Attribute) (e : Jsx.Expr),
      a.value.levels + 1 = 3 ∧
      (Setup.standard (Config.default.bounded 0)).resolve
        (some
          ⟨[.element ⟨"div", false, [], [a], [], [], [], none⟩],
            [], none⟩) = .ok e ∧
      ¬ Exceeds
        ((Setup.standard (Config.default.bounded 1)).resolve
          (some
            ⟨[.element
                ⟨"div", false, [], [a], [], [], [], none⟩],
              [], none⟩)) := by
  refine
    ⟨⟨splattributes,
        .mustache
          ⟨⟨.path ⟨"x", "x", [], none⟩, [], .empty⟩, false,
            none⟩,
        none⟩,
      _, by decide, rfl, ?_⟩
  rintro ⟨f, hError, _⟩
  cases hError

end Resolve

end TemplateJsx
