import TemplateJsx.Proofs.Rendering.Meaning
import TemplateJsx.Proofs.Success

/-
  Which templates are accepted. The rules for valid parts of
  a template are stated as inductive predicates, apart from
  the resolver, and without a bound on the nesting the
  resolver accepts exactly the templates that follow them.

  Whether a later step succeeds never depends on the result
  of an earlier one. Every step of the resolver therefore
  succeeds exactly if its parts do, and the two sides are
  compared by one recursion over the template.

  Key definitions include:
    * `Template.Expr.IsResolvable`
    * `Template.Mustache.IsValid`
    * `Template.Attribute.IsValid`
    * `Template.Modifier.IsValid`
    * `Template.Statement.IsValue`
    * `Template.Statement.IsChild`
    * `Template.IsRoot`
    * `Resolve.Succeeds`

  Main declarations:
    * `Resolve.succeeds_bind_iff`
    * `Resolve.expression_succeeds_iff`
    * `Resolve.standardElement_succeeds_iff`
    * `Resolve.standardBlock_succeeds_iff`
    * `Resolve.root_succeeds_iff`
    * `Resolve.resolve_succeeds_iff`
-/

------------------------------------------------------------
-- Valid Expressions
------------------------------------------------------------

namespace TemplateJsx

namespace Template

/-
  An expression that has a value: a literal, a path with a
  head, or an invocation whose arguments all have one. What
  is invoked is not looked at.
-/
inductive Expr.IsResolvable : Expr → Prop
  | boolean
      (value : Bool)
      (span : Option Span) :
      IsResolvable (.boolean value span)
  | null
      (span : Option Span) :
      IsResolvable (.null span)
  | undefined
      (span : Option Span) :
      IsResolvable (.undefined span)
  | number
      (value : Number)
      (span : Option Span) :
      IsResolvable (.number value span)
  | string
      (value : String)
      (span : Option Span) :
      IsResolvable (.string value span)
  | path
      (p : Path)
      (hHead : p.head ≠ "") :
      IsResolvable (.path p)
  | call
      (i : Invocation)
      (span : Option Span)
      (hParams : ∀ e ∈ i.params, IsResolvable e)
      (hNamed : ∀ pair ∈ i.hash.pairs, IsResolvable pair.value) :
      IsResolvable (.call i span)

/- All positional and named arguments have a value. -/
structure Invocation.ArgumentsResolvable
    (i : Invocation) : Prop where
  params : ∀ e ∈ i.params, e.IsResolvable
  named : ∀ pair ∈ i.hash.pairs, pair.value.IsResolvable

------------------------------------------------------------
-- Valid Parts of Opening Tags
------------------------------------------------------------

/-
  What stands in braces is valid by its callee if it has no
  positional arguments, and by its arguments otherwise.
-/
inductive Mustache.IsValid (m : Mustache) : Prop
  | plain
      (hParams : m.invocation.params = [])
      (hCallee : m.invocation.callee.IsResolvable)
  | applied
      (hParams : m.invocation.params ≠ [])
      (hArguments : m.invocation.ArgumentsResolvable)

/- A part of an interpolated text that has a value. -/
inductive TextPart.IsValid : TextPart → Prop
  | text
      (run : TextRun) :
      IsValid (.text run)
  | mustache
      (m : Mustache)
      (hMustache : m.IsValid) :
      IsValid (.mustache m)

/- A value that an attribute may have. -/
inductive AttributeValue.IsValid : AttributeValue → Prop
  | absent : IsValid .absent
  | text
      (run : TextRun) :
      IsValid (.text run)
  | mustache
      (m : Mustache)
      (hMustache : m.IsValid) :
      IsValid (.mustache m)
  | concat
      (c : Concat)
      (hParts : ∀ part ∈ c.parts, part.IsValid) :
      IsValid (.concat c)

/-
  An attribute is valid by its value, unless it passes on
  the caller's attributes.
-/
def Attribute.IsValid (a : Attribute) : Prop :=
  a.name ≠ "...attributes" → a.value.IsValid

/-
  A modifier that binds a handler to an event: it is written
  as the event modifier, and its two arguments are the name
  of an event and a handler with a value.
-/
inductive Modifier.IsValid
    (eventModifier : String) : Modifier → Prop
  | handler
      (p : Path)
      (event : String)
      (eventSpan : Option Span)
      (handler : Expr)
      (hash : Hash)
      (span : Option Span)
      (hSpelling : p.spelling = eventModifier)
      (hEvent : event ≠ "")
      (hHandler : handler.IsResolvable) :
      IsValid eventModifier
        ⟨⟨.path p, [.string event eventSpan, handler], hash⟩,
          span⟩

------------------------------------------------------------
-- Valid Statements
------------------------------------------------------------

mutual

/- A statement that has a value. Comments have none. -/
inductive Statement.IsValue
    (eventModifier : String) : Statement → Prop
  | text
      (run : TextRun) :
      Statement.IsValue eventModifier (.text run)
  | mustache
      (m : Mustache)
      (hMustache : m.IsValid) :
      Statement.IsValue eventModifier (.mustache m)
  | element
      (e : Element)
      (hElement : Element.IsValid eventModifier e) :
      Statement.IsValue eventModifier (.element e)
  | block
      (b : BlockStatement)
      (hBlock : BlockStatement.IsValid eventModifier b) :
      Statement.IsValue eventModifier (.block b)

/- A statement that may stand beside others. -/
inductive Statement.IsChild
    (eventModifier : String) : Statement → Prop
  | value
      (s : Statement)
      (hValue : Statement.IsValue eventModifier s) :
      Statement.IsChild eventModifier s
  | comment
      (c : Comment) :
      Statement.IsChild eventModifier (.comment c)
  | mustacheComment
      (c : Comment) :
      Statement.IsChild eventModifier (.mustacheComment c)

/-
  Statements that form one expression. A single one needs a
  value, and comments may only stand beside others.
-/
inductive IsRoot
    (eventModifier : String) : List Statement → Prop
  | single
      (s : Statement)
      (hValue : Statement.IsValue eventModifier s) :
      IsRoot eventModifier [s]
  | several
      (body : List Statement)
      (hLength : body.length ≠ 1)
      (hChildren :
        ∀ s ∈ body, Statement.IsChild eventModifier s) :
      IsRoot eventModifier body

/-
  A valid element. If it binds names, its statements form
  one expression.
-/
inductive Element.IsValid
    (eventModifier : String) : Element → Prop
  | plain
      (e : Element)
      (hAttributes : ∀ a ∈ e.attributes, a.IsValid)
      (hModifiers :
        ∀ m ∈ e.modifiers, m.IsValid eventModifier)
      (hParams : e.blockParams = [])
      (hChildren :
        ∀ s ∈ e.children, Statement.IsChild eventModifier s) :
      Element.IsValid eventModifier e
  | binding
      (e : Element)
      (hAttributes : ∀ a ∈ e.attributes, a.IsValid)
      (hModifiers :
        ∀ m ∈ e.modifiers, m.IsValid eventModifier)
      (hParams : e.blockParams ≠ [])
      (hChildren : IsRoot eventModifier e.children) :
      Element.IsValid eventModifier e

/-
  A valid block. The bodies form one expression each, where
  a missing one has no statements. `if`, `unless` and `each`
  take one argument; `let` takes some and has no `else`; any
  other block is an invocation, and the only one whose named
  arguments are looked at.
-/
inductive BlockStatement.IsValid
    (eventModifier : String) : BlockStatement → Prop
  | tested
      (b : BlockStatement)
      (param : Expr)
      (hName :
        b.invocation.keyword ∈ ["if", "unless", "each"])
      (hParams : b.invocation.params = [param])
      (hParam : param.IsResolvable)
      (hProgram : IsRoot eventModifier b.program.body)
      (hInverse : IsRoot eventModifier b.inverse.body) :
      BlockStatement.IsValid eventModifier b
  | binding
      (b : BlockStatement)
      (hName : b.invocation.keyword ∈ ["let", "with"])
      (hSome : b.invocation.params ≠ [])
      (hParams : ∀ e ∈ b.invocation.params, e.IsResolvable)
      (hProgram : IsRoot eventModifier b.program.body)
      (hInverse : ¬ b.inverse.IsPresent) :
      BlockStatement.IsValid eventModifier b
  | custom
      (b : BlockStatement)
      (hName :
        b.invocation.keyword ∉
          ["if", "unless", "each", "let", "with"])
      (hArguments : b.invocation.ArgumentsResolvable)
      (hProgram : IsRoot eventModifier b.program.body)
      (hInverse : IsRoot eventModifier b.inverse.body) :
      BlockStatement.IsValid eventModifier b

end

end Template

------------------------------------------------------------
-- Success of Steps
------------------------------------------------------------

namespace Resolve

variable {α β : Type}

/- The outcome is a result. -/
def Succeeds (outcome : Outcome α) : Prop :=
  ∃ a, outcome = .ok a

theorem succeeds_ok (a : α) :
    Succeeds (Except.ok a : Outcome α) :=
  ⟨a, rfl⟩

theorem not_succeeds_error (e : Error) :
    ¬ Succeeds (Except.error e : Outcome α) := by
  rintro ⟨a, hOk⟩
  cases hOk

/-
  Two steps in a row succeed if both do, provided that the
  success of the second does not depend on what the first
  has found.
-/
theorem succeeds_bind_iff
    {x : Outcome α}
    {f : α → Outcome β}
    {P : Prop}
    (hNext : ∀ a, Succeeds (f a) ↔ P) :
    Succeeds (x >>= f) ↔ Succeeds x ∧ P := by
  cases x with
  | error e =>
      constructor
      · intro hBoth
        exact absurd hBoth (not_succeeds_error e)
      · rintro ⟨hFirst, _⟩
        exact absurd hFirst (not_succeeds_error e)
  | ok a =>
      constructor
      · intro hBoth
        exact ⟨succeeds_ok a, (hNext a).mp hBoth⟩
      · rintro ⟨_, hSecond⟩
        exact (hNext a).mpr hSecond

/- A step that only rebuilds what was found succeeds. -/
theorem succeeds_map_iff
    {x : Outcome α}
    (g : α → β) :
    Succeeds (x >>= fun a => pure (g a)) ↔ Succeeds x := by
  have hNext : ∀ a, Succeeds (pure (g a) : Outcome β) ↔ True :=
    fun a => iff_true_intro (succeeds_ok (g a))
  rw [succeeds_bind_iff hNext, and_true]

/- A step for every member of a list succeeds for each. -/
theorem succeeds_mapM_iff
    {f : α → Outcome β}
    {P : α → Prop}
    (hEach : ∀ a, Succeeds (f a) ↔ P a)
    (as : List α) :
    Succeeds (as.mapM f) ↔ ∀ a ∈ as, P a := by
  induction as with
  | nil => simp [succeeds_ok, pure, Except.pure]
  | cons a rest ih =>
      rw [List.mapM_cons, List.forall_mem_cons, ← hEach, ← ih]
      exact succeeds_bind_iff fun b => succeeds_map_iff (b :: ·)

variable {config : Config}

/- Without a bound every node is entered. -/
theorem enter_bind
    (hUnbounded : config.maxDepth ≤ 0)
    (depth : Nat)
    (node : Template.Node)
    (next : Unit → Outcome α) :
    (enter config depth node >>= next) = next () := by
  unfold enter
  rw [if_neg (by omega)]
  rfl

------------------------------------------------------------
-- Expressions
------------------------------------------------------------

/- A path is resolved exactly if it has a head. -/
theorem expression_path_succeeds_iff
    (hUnbounded : config.maxDepth ≤ 0)
    (depth : Nat)
    (p : Template.Path) :
    Succeeds (expression config depth (.path p)) ↔
      p.head ≠ "" := by
  rw [expression, enter_bind hUnbounded, ne_eq,
    ← segments_eq_nil_iff]
  cases hNames : p.segments with
  | nil =>
      have hRefused : path p = .error .emptyPathSegments := by
        unfold path
        rw [hNames]
        rfl
      rw [hRefused]
      exact iff_of_false (not_succeeds_error _) (by simp)
  | cons head tail =>
      rw [path_of_segments hNames]
      exact iff_of_true (succeeds_ok _) (by simp)

mutual

/- An expression is resolved exactly if it has a value. -/
theorem expression_succeeds_iff
    (hUnbounded : config.maxDepth ≤ 0)
    (depth : Nat)
    (e : Template.Expr) :
    Succeeds (expression config depth e) ↔
      e.IsResolvable := by
  cases e with
  | path p =>
      rw [expression_path_succeeds_iff hUnbounded]
      constructor
      · intro hHead
        exact .path p hHead
      · intro hPath
        cases hPath with
        | path p hHead => exact hHead
  | call i span =>
      rw [expression, enter_bind hUnbounded]
      refine
        (helperCall_succeeds_iff hUnbounded (depth + 1) i).trans
          ?_
      constructor
      · intro hArguments
        exact .call i span hArguments.params hArguments.named
      · intro hCall
        cases hCall with
        | call i span hParams hNamed => exact ⟨hParams, hNamed⟩
  | absent =>
      rw [expression, enter_bind hUnbounded]
      apply iff_of_false (not_succeeds_error _)
      intro hAbsent
      cases hAbsent
  | boolean value span =>
      rw [expression, enter_bind hUnbounded]
      exact iff_of_true (succeeds_ok _) (.boolean value span)
  | null span =>
      rw [expression, enter_bind hUnbounded]
      exact iff_of_true (succeeds_ok _) (.null span)
  | undefined span =>
      rw [expression, enter_bind hUnbounded]
      exact iff_of_true (succeeds_ok _) (.undefined span)
  | number value span =>
      rw [expression, enter_bind hUnbounded]
      exact iff_of_true (succeeds_ok _) (.number value span)
  | string value span =>
      rw [expression, enter_bind hUnbounded]
      exact iff_of_true (succeeds_ok _) (.string value span)

/- An invocation is resolved if all its arguments are. -/
theorem helperCall_succeeds_iff
    (hUnbounded : config.maxDepth ≤ 0)
    (depth : Nat) :
    (i : Template.Invocation) →
      (Succeeds (helperCall config depth i) ↔
        i.ArgumentsResolvable)
  | ⟨target, params, ⟨pairs, span⟩⟩ => by
      have hParams :=
        expressions_succeeds_iff hUnbounded depth params
      have hNamed :=
        namedArguments_succeeds_iff hUnbounded depth pairs
      rw [helperCall, succeeds_bind_iff fun positional =>
        (succeeds_map_iff fun named => _).trans hNamed, hParams]
      constructor
      · rintro ⟨hPositional, hPairs⟩
        exact ⟨hPositional, hPairs⟩
      · intro hArguments
        exact ⟨hArguments.params, hArguments.named⟩

/- Expressions are resolved if each of them is. -/
theorem expressions_succeeds_iff
    (hUnbounded : config.maxDepth ≤ 0)
    (depth : Nat) :
    (es : List Template.Expr) →
      (Succeeds (expressions config depth es) ↔
        ∀ e ∈ es, e.IsResolvable)
  | [] => by
      rw [expressions]
      exact iff_of_true (succeeds_ok _) (by simp)
  | e :: rest => by
      rw [expressions, List.forall_mem_cons,
        ← expression_succeeds_iff hUnbounded depth e,
        ← expressions_succeeds_iff hUnbounded depth rest]
      exact succeeds_bind_iff fun first =>
        succeeds_map_iff fun others => first :: others

/- Named arguments are resolved if each value is. -/
theorem namedArguments_succeeds_iff
    (hUnbounded : config.maxDepth ≤ 0)
    (depth : Nat) :
    (pairs : List Template.Pair) →
      (Succeeds (namedArguments config depth pairs) ↔
        ∀ pair ∈ pairs, pair.value.IsResolvable)
  | [] => by
      rw [namedArguments]
      exact iff_of_true (succeeds_ok _) (by simp)
  | ⟨key, value, span⟩ :: rest => by
      rw [namedArguments, List.forall_mem_cons,
        ← expression_succeeds_iff hUnbounded depth value,
        ← namedArguments_succeeds_iff hUnbounded depth rest]
      exact succeeds_bind_iff fun first =>
        succeeds_map_iff fun others =>
          Jsx.Property.mk key first :: others

end

------------------------------------------------------------
-- Values in Opening Tags
------------------------------------------------------------

/- What stands in braces is resolved exactly if it is valid. -/
theorem mustache_succeeds_iff
    (hUnbounded : config.maxDepth ≤ 0)
    (depth : Nat)
    (m : Template.Mustache) :
    Succeeds (mustache config depth m) ↔ m.IsValid := by
  unfold mustache
  cases hParams : m.invocation.params with
  | nil =>
      refine (expression_succeeds_iff hUnbounded depth _).trans
        ?_
      constructor
      · intro hCallee
        exact .plain hParams hCallee
      · intro hValid
        cases hValid with
        | plain _ hCallee => exact hCallee
        | applied hSome _ => exact absurd hParams hSome
  | cons param rest =>
      refine (helperCall_succeeds_iff hUnbounded depth _).trans
        ?_
      constructor
      · intro hArguments
        exact .applied (by simp [hParams]) hArguments
      · intro hValid
        cases hValid with
        | plain hNone _ => simp [hParams] at hNone
        | applied _ hArguments => exact hArguments

/- A part of an interpolated text is resolved if it is valid. -/
theorem partValue_succeeds_iff
    (hUnbounded : config.maxDepth ≤ 0)
    (depth : Nat)
    (part : Template.TextPart) :
    Succeeds (partValue config depth part) ↔
      part.IsValid := by
  unfold partValue
  rw [enter_bind hUnbounded]
  cases part with
  | absent =>
      apply iff_of_false (not_succeeds_error _)
      intro hAbsent
      cases hAbsent
  | text run => exact iff_of_true (succeeds_ok _) (.text run)
  | mustache m =>
      refine
        (mustache_succeeds_iff hUnbounded (depth + 1) m).trans ?_
      constructor
      · intro hMustache
        exact .mustache m hMustache
      · intro hPart
        cases hPart with
        | mustache m hMustache => exact hMustache

/- The parts that follow are resolved if each is valid. -/
theorem sumFrom_succeeds_iff
    (hUnbounded : config.maxDepth ≤ 0)
    (depth : Nat)
    (sum : Jsx.Expr)
    (parts : List Template.TextPart) :
    Succeeds (sumFrom config depth sum parts) ↔
      ∀ part ∈ parts, part.IsValid := by
  induction parts generalizing sum with
  | nil => exact iff_of_true (succeeds_ok _) (by simp)
  | cons part rest ih =>
      rw [sumFrom, List.forall_mem_cons,
        ← partValue_succeeds_iff hUnbounded depth part]
      exact succeeds_bind_iff fun next => ih _

/- An interpolated text is resolved if its parts are valid. -/
theorem concat_succeeds_iff
    (hUnbounded : config.maxDepth ≤ 0)
    (depth : Nat)
    (parts : List Template.TextPart) :
    Succeeds (concat config depth parts) ↔
      ∀ part ∈ parts, part.IsValid := by
  cases parts with
  | nil => exact iff_of_true (succeeds_ok _) (by simp)
  | cons part rest =>
      rw [concat, List.forall_mem_cons,
        ← partValue_succeeds_iff hUnbounded depth part]
      exact succeeds_bind_iff fun first =>
        sumFrom_succeeds_iff hUnbounded depth first rest

/- An attribute is resolved exactly if it is valid. -/
theorem attributeOf_succeeds_iff
    (hUnbounded : config.maxDepth ≤ 0)
    (depth : Nat)
    (a : Template.Attribute) :
    Succeeds (attributeOf config depth a) ↔ a.IsValid := by
  unfold attributeOf Template.Attribute.IsValid
  by_cases hSplat : a.name = splattributes
  · rw [if_pos hSplat]
    exact iff_of_true (succeeds_ok _) (absurd hSplat)
  · rw [if_neg hSplat]
    have hValue : ∀ P : Prop,
        (a.name ≠ "...attributes" → P) ↔ P :=
      fun P => ⟨fun h => h hSplat, fun h _ => h⟩
    rw [hValue]
    cases a.value with
    | absent => exact iff_of_true (succeeds_ok _) .absent
    | text run =>
        by_cases hEmpty : run.chars = ""
        · simp only [hEmpty, if_pos]
          exact iff_of_true (succeeds_ok _) (.text run)
        · simp only [hEmpty, if_neg, not_false_eq_true]
          exact iff_of_true (succeeds_ok _) (.text run)
    | mustache m =>
        simp only [enter_bind hUnbounded]
        rw [succeeds_map_iff,
          mustache_succeeds_iff hUnbounded (depth + 1) m]
        constructor
        · intro hMustache
          exact .mustache m hMustache
        · intro hMustache
          cases hMustache with
          | mustache m hMustache => exact hMustache
    | concat c =>
        simp only
        rw [succeeds_map_iff,
          concat_succeeds_iff hUnbounded depth c.parts]
        constructor
        · intro hParts
          exact .concat c hParts
        · intro hConcat
          cases hConcat with
          | concat c hParts => exact hParts

/- A modifier is resolved exactly if it binds a handler. -/
theorem modifier_succeeds_iff
    (hUnbounded : config.maxDepth ≤ 0)
    (depth : Nat)
    (m : Template.Modifier) :
    Succeeds (modifier config depth m) ↔
      m.IsValid config.eventModifier := by
  unfold modifier
  constructor
  · intro hModifier
    cases hEvent : eventHandler? config m.invocation with
    | none =>
        rw [hEvent] at hModifier
        exact absurd hModifier (not_succeeds_error _)
    | some found =>
        rcases found with ⟨event, handler⟩
        rw [hEvent] at hModifier
        have hHandler :=
          (expression_succeeds_iff hUnbounded depth handler).mp
            ((succeeds_map_iff _).mp hModifier)
        rcases m with ⟨invocation, span⟩
        rcases eventHandler?_eq_some hEvent with
          ⟨p, eventSpan, hash, hInvocation, hSpelling, hName⟩
        dsimp only at hInvocation
        subst hInvocation
        exact .handler p event eventSpan handler hash span
          hSpelling hName hHandler
  · intro hModifier
    cases hModifier with
    | handler p event eventSpan handler hash span hSpelling
        hEvent hHandler =>
        simp only [eventHandler?, hSpelling, hEvent, ne_eq,
          not_false_eq_true, and_self, if_pos]
        rw [succeeds_map_iff,
          expression_succeeds_iff hUnbounded]
        exact hHandler

------------------------------------------------------------
-- Elements
------------------------------------------------------------

/- The parts of a valid element, whether it binds names. -/
theorem element_isValid_iff
    (eventModifier : String)
    (el : Template.Element) :
    el.IsValid eventModifier ↔
      (∀ a ∈ el.attributes, a.IsValid) ∧
        (∀ m ∈ el.modifiers, m.IsValid eventModifier) ∧
        (if el.blockParams = [] then
          ∀ s ∈ el.children, s.IsChild eventModifier
        else
          Template.IsRoot eventModifier el.children) := by
  constructor
  · intro hElement
    cases hElement with
    | plain _ hAttributes hModifiers hParams hChildren =>
        rw [if_pos hParams]
        exact ⟨hAttributes, hModifiers, hChildren⟩
    | binding _ hAttributes hModifiers hParams hChildren =>
        rw [if_neg hParams]
        exact ⟨hAttributes, hModifiers, hChildren⟩
  · rintro ⟨hAttributes, hModifiers, hChildren⟩
    by_cases hParams : el.blockParams = []
    · rw [if_pos hParams] at hChildren
      exact .plain el hAttributes hModifiers hParams hChildren
    · rw [if_neg hParams] at hChildren
      exact .binding el hAttributes hModifiers hParams hChildren

/-
  An element is resolved exactly if it is valid, provided
  that this holds of the statements in it.
-/
theorem standardElement_succeeds_iff
    (hUnbounded : config.maxDepth ≤ 0)
    (depth : Nat)
    (el : Template.Element)
    {children : Unit → Outcome (List Jsx.Child)}
    {body : Unit → Outcome Jsx.Expr}
    (hChildren :
      Succeeds (children ()) ↔
        ∀ s ∈ el.children, s.IsChild config.eventModifier)
    (hBody :
      Succeeds (body ()) ↔
        Template.IsRoot config.eventModifier el.children) :
    Succeeds
        (standardElement config depth el children body) ↔
      el.IsValid config.eventModifier := by
  have hKids :
      Succeeds (elementChildren el.blockParams children body) ↔
        if el.blockParams = [] then
          ∀ s ∈ el.children, s.IsChild config.eventModifier
        else
          Template.IsRoot config.eventModifier el.children := by
    unfold elementChildren
    cases el.blockParams with
    | nil => exact hChildren
    | cons param rest => exact (succeeds_map_iff _).trans hBody
  rw [element_isValid_iff, ← hKids,
    ← succeeds_mapM_iff
      (attributeOf_succeeds_iff hUnbounded depth) el.attributes,
    ← succeeds_mapM_iff
      (modifier_succeeds_iff hUnbounded depth) el.modifiers]
  exact succeeds_bind_iff fun attributes =>
    succeeds_bind_iff fun events => succeeds_map_iff fun kids => _

------------------------------------------------------------
-- Blocks
------------------------------------------------------------

/- A body that was not written forms an expression. -/
theorem isRoot_of_not_isPresent
    {block : Template.Block}
    (eventModifier : String)
    (hAbsent : ¬ block.IsPresent) :
    Template.IsRoot eventModifier block.body := by
  cases block with
  | absent => exact .several [] (by decide) (by simp)
  | present body params chained span =>
      exact absurd trivial hAbsent

section Blocks

variable {b : Template.BlockStatement}
variable {program inverse : Unit → Outcome Jsx.Expr}
variable {eventModifier : String}

/- A missing `else` is no obstacle. -/
theorem inverseOrNull_succeeds_iff
    (hInverse :
      Succeeds (inverse ()) ↔
        Template.IsRoot eventModifier b.inverse.body) :
    Succeeds (inverseOrNull b inverse) ↔
      Template.IsRoot eventModifier b.inverse.body := by
  unfold inverseOrNull
  by_cases hPresent : b.inverse.IsPresent
  · rw [if_pos hPresent]
    exact hInverse
  · rw [if_neg hPresent]
    exact iff_of_true (succeeds_ok _)
      (isRoot_of_not_isPresent eventModifier hPresent)

/- A body that is passed on may be missing as well. -/
theorem bodyFunction_succeeds_iff
    {block : Template.Block}
    {body : Unit → Outcome Jsx.Expr}
    (hBody :
      Succeeds (body ()) ↔
        Template.IsRoot eventModifier block.body) :
    Succeeds (bodyFunction block body) ↔
      Template.IsRoot eventModifier block.body := by
  unfold bodyFunction
  by_cases hPresent : block.IsPresent
  · rw [if_pos hPresent]
    exact (succeeds_map_iff _).trans hBody
  · rw [if_neg hPresent]
    exact iff_of_true (succeeds_ok _)
      (isRoot_of_not_isPresent eventModifier hPresent)

/-
  What `if`, `unless` and `each` ask for: one argument with a
  value, and bodies that form one expression each.
-/
def TestedBlock
    (eventModifier : String)
    (b : Template.BlockStatement) : Prop :=
  ∃ param, b.invocation.params = [param] ∧
    param.IsResolvable ∧
    Template.IsRoot eventModifier b.program.body ∧
    Template.IsRoot eventModifier b.inverse.body

/- Another number of arguments is refused. -/
theorem not_testedBlock
    (hCount : ∀ param, b.invocation.params ≠ [param]) :
    ¬ TestedBlock eventModifier b := by
  rintro ⟨param, hParams, _⟩
  exact hCount param hParams

/- With one argument the rest is looked at. -/
theorem testedBlock_iff
    {param : Template.Expr}
    (hParams : b.invocation.params = [param]) :
    TestedBlock eventModifier b ↔
      param.IsResolvable ∧
        Template.IsRoot eventModifier b.program.body ∧
        Template.IsRoot eventModifier b.inverse.body := by
  constructor
  · rintro ⟨other, hOther, hRest⟩
    rw [hParams] at hOther
    cases hOther
    exact hRest
  · intro hRest
    exact ⟨param, hParams, hRest⟩

theorem conditionalBlock_succeeds_iff
    (hUnbounded : config.maxDepth ≤ 0)
    (depth : Nat)
    (negate : Bool)
    (hProgram :
      Succeeds (program ()) ↔
        Template.IsRoot eventModifier b.program.body)
    (hInverse :
      Succeeds (inverse ()) ↔
        Template.IsRoot eventModifier b.inverse.body) :
    Succeeds
        (conditionalBlock config depth negate b program
          inverse) ↔
      TestedBlock eventModifier b := by
  unfold conditionalBlock
  split
  · rename_i param hParams
    rw [testedBlock_iff hParams, ← hProgram,
      ← inverseOrNull_succeeds_iff hInverse,
      ← expression_succeeds_iff hUnbounded depth param]
    refine succeeds_bind_iff fun test =>
      succeeds_bind_iff fun consequent => ?_
    cases negate with
    | true => exact succeeds_map_iff fun alternate => _
    | false => exact succeeds_map_iff fun alternate => _
  · rename_i hCount
    exact iff_of_false (not_succeeds_error _)
      (not_testedBlock hCount)

theorem eachBlock_succeeds_iff
    (hUnbounded : config.maxDepth ≤ 0)
    (depth : Nat)
    (hProgram :
      Succeeds (program ()) ↔
        Template.IsRoot eventModifier b.program.body)
    (hInverse :
      Succeeds (inverse ()) ↔
        Template.IsRoot eventModifier b.inverse.body) :
    Succeeds (eachBlock config depth b program inverse) ↔
      TestedBlock eventModifier b := by
  unfold eachBlock
  split
  · rename_i param hParams
    rw [testedBlock_iff hParams, ← hProgram,
      ← expression_succeeds_iff hUnbounded depth param]
    refine succeeds_bind_iff fun list =>
      succeeds_bind_iff fun body => ?_
    by_cases hPresent : b.inverse.IsPresent
    · simp only [if_pos hPresent]
      exact (succeeds_map_iff fun other => _).trans hInverse
    · simp only [if_neg hPresent]
      exact iff_of_true (succeeds_ok _)
        (isRoot_of_not_isPresent eventModifier hPresent)
  · rename_i hCount
    exact iff_of_false (not_succeeds_error _)
      (not_testedBlock hCount)

theorem letBlock_succeeds_iff
    (hUnbounded : config.maxDepth ≤ 0)
    (depth : Nat)
    (hProgram :
      Succeeds (program ()) ↔
        Template.IsRoot eventModifier b.program.body) :
    Succeeds (letBlock config depth b program) ↔
      ¬ (b.invocation.params = [] ∨ b.inverse.IsPresent) ∧
        (∀ e ∈ b.invocation.params, e.IsResolvable) ∧
        Template.IsRoot eventModifier b.program.body := by
  unfold letBlock
  simp only [List.isEmpty_iff]
  by_cases hMalformed :
      b.invocation.params = [] ∨ b.inverse.IsPresent
  · rw [if_pos hMalformed]
    exact iff_of_false (not_succeeds_error _)
      (fun hRest => hRest.1 hMalformed)
  · rw [if_neg hMalformed, iff_true_intro hMalformed,
      true_and, ← hProgram,
      ← expressions_succeeds_iff hUnbounded depth]
    exact succeeds_bind_iff fun arguments =>
      succeeds_map_iff fun body => _

theorem customBlock_succeeds_iff
    (hUnbounded : config.maxDepth ≤ 0)
    (depth : Nat)
    (hProgram :
      Succeeds (program ()) ↔
        Template.IsRoot eventModifier b.program.body)
    (hInverse :
      Succeeds (inverse ()) ↔
        Template.IsRoot eventModifier b.inverse.body) :
    Succeeds (customBlock config depth b program inverse) ↔
      ((∀ e ∈ b.invocation.params, e.IsResolvable) ∧
        ∀ pair ∈ b.invocation.hash.pairs,
          pair.value.IsResolvable) ∧
        Template.IsRoot eventModifier b.program.body ∧
        Template.IsRoot eventModifier b.inverse.body := by
  rw [and_assoc, ← expressions_succeeds_iff hUnbounded depth,
    ← namedArguments_succeeds_iff hUnbounded depth,
    ← bodyFunction_succeeds_iff hProgram,
    ← bodyFunction_succeeds_iff hInverse]
  exact succeeds_bind_iff fun positional =>
    succeeds_bind_iff fun named =>
      succeeds_bind_iff fun first =>
        succeeds_map_iff fun second => _

/- A valid block by one of the three names that test. -/
theorem block_isValid_iff_tested
    (hName :
      b.invocation.keyword ∈ ["if", "unless", "each"]) :
    b.IsValid eventModifier ↔ TestedBlock eventModifier b := by
  constructor
  · intro hBlock
    cases hBlock with
    | tested _ param _ hParams hParam hProgram hInverse =>
        exact ⟨param, hParams, hParam, hProgram, hInverse⟩
    | binding _ hOther => grind
    | custom _ hOther => grind
  · rintro ⟨param, hParams, hParam, hProgram, hInverse⟩
    exact .tested b param hName hParams hParam hProgram
      hInverse

/- A valid block by one of the two names that bind. -/
theorem block_isValid_iff_binding
    (hName : b.invocation.keyword ∈ ["let", "with"]) :
    b.IsValid eventModifier ↔
      ¬ (b.invocation.params = [] ∨ b.inverse.IsPresent) ∧
        (∀ e ∈ b.invocation.params, e.IsResolvable) ∧
        Template.IsRoot eventModifier b.program.body := by
  constructor
  · intro hBlock
    cases hBlock with
    | tested _ _ hOther => grind
    | binding _ _ hSome hParams hProgram hInverse =>
        exact ⟨not_or.mpr ⟨hSome, hInverse⟩, hParams, hProgram⟩
    | custom _ hOther => grind
  · rintro ⟨hFits, hParams, hProgram⟩
    rcases not_or.mp hFits with ⟨hSome, hInverse⟩
    exact .binding b hName hSome hParams hProgram hInverse

/- A valid block by any other name. -/
theorem block_isValid_iff_custom
    (hName :
      b.invocation.keyword ∉
        ["if", "unless", "each", "let", "with"]) :
    b.IsValid eventModifier ↔
      ((∀ e ∈ b.invocation.params, e.IsResolvable) ∧
        ∀ pair ∈ b.invocation.hash.pairs,
          pair.value.IsResolvable) ∧
        Template.IsRoot eventModifier b.program.body ∧
        Template.IsRoot eventModifier b.inverse.body := by
  constructor
  · intro hBlock
    cases hBlock with
    | tested _ _ hOther => grind
    | binding _ hOther => grind
    | custom _ _ hArguments hProgram hInverse =>
        exact ⟨⟨hArguments.params, hArguments.named⟩, hProgram,
          hInverse⟩
  · rintro ⟨⟨hParams, hNamed⟩, hProgram, hInverse⟩
    exact .custom b hName ⟨hParams, hNamed⟩ hProgram hInverse

/-
  A block is resolved exactly if it is valid, provided that
  this holds of its bodies.
-/
theorem standardBlock_succeeds_iff
    (hUnbounded : config.maxDepth ≤ 0)
    (depth : Nat)
    (hProgram :
      Succeeds (program ()) ↔
        Template.IsRoot eventModifier b.program.body)
    (hInverse :
      Succeeds (inverse ()) ↔
        Template.IsRoot eventModifier b.inverse.body) :
    Succeeds (standardBlock config depth b program inverse) ↔
      b.IsValid eventModifier := by
  apply standardBlock_cases
    (motive := fun o => Succeeds o ↔ b.IsValid eventModifier)
  · intro negate hName
    rw [block_isValid_iff_tested
      (List.mem_append_left ["each"] hName)]
    exact conditionalBlock_succeeds_iff hUnbounded depth negate
      hProgram hInverse
  · intro hName
    rw [block_isValid_iff_tested (by simp [hName])]
    exact eachBlock_succeeds_iff hUnbounded depth hProgram
      hInverse
  · intro hName
    rw [block_isValid_iff_binding hName]
    exact letBlock_succeeds_iff hUnbounded depth hProgram
  · intro hName
    rw [block_isValid_iff_custom hName]
    exact customBlock_succeeds_iff hUnbounded depth hProgram
      hInverse

end Blocks

------------------------------------------------------------
-- Statements
------------------------------------------------------------

theorem Setup.standard_config (config : Config) :
    (Setup.standard config).config = config := rfl

/- Apart from comments, children are what has a value. -/
theorem isChild_iff
    {eventModifier : String}
    {s : Template.Statement}
    (hComment : ∀ c, s ≠ .comment c)
    (hMustacheComment : ∀ c, s ≠ .mustacheComment c) :
    s.IsChild eventModifier ↔ s.IsValue eventModifier := by
  constructor
  · intro hChild
    cases hChild with
    | value _ hValue => exact hValue
    | comment c => exact absurd rfl (hComment c)
    | mustacheComment c => exact absurd rfl (hMustacheComment c)
  · intro hValue
    exact .value s hValue

/-
  A statement may stand beside others exactly if it is valid
  there, provided that this holds of its value.
-/
theorem markupChildren_succeeds_iff
    {depth : Nat}
    {s : Template.Statement}
    {eventModifier : String}
    (hValue :
      Succeeds (value (Setup.standard config) depth s) ↔
        s.IsValue eventModifier) :
    Succeeds (markupChildren (Setup.standard config) depth s) ↔
      s.IsChild eventModifier := by
  cases s with
  | comment c =>
      rw [markupChildren]
      exact iff_of_true (succeeds_ok _) (.comment c)
  | mustacheComment c =>
      rw [markupChildren]
      exact iff_of_true (succeeds_ok _) (.mustacheComment c)
  | element e =>
      rw [isChild_iff (by simp) (by simp), ← hValue,
        markupChildren, value, succeeds_map_iff,
        succeeds_map_iff]
  | block b =>
      rw [isChild_iff (by simp) (by simp), ← hValue,
        markupChildren, value, succeeds_map_iff]
  | mustache m =>
      rw [isChild_iff (by simp) (by simp), ← hValue,
        markupChildren, value, succeeds_map_iff]
  | text run =>
      rw [isChild_iff (by simp) (by simp), ← hValue,
        markupChildren, value]
      exact iff_of_true (succeeds_ok _) (succeeds_ok _)
  | _ =>
      rw [isChild_iff (by simp) (by simp), ← hValue,
        markupChildren, value]
      exact iff_of_false (not_succeeds_error _)
        (not_succeeds_error _)

/- Statements of another number than one are children. -/
theorem isRoot_iff
    {eventModifier : String}
    {body : List Template.Statement}
    (hLength : body.length ≠ 1) :
    Template.IsRoot eventModifier body ↔
      ∀ s ∈ body, s.IsChild eventModifier := by
  constructor
  · intro hRoot
    cases hRoot with
    | single s _ => exact absurd rfl hLength
    | several _ _ hChildren => exact hChildren
  · intro hChildren
    exact .several body hLength hChildren

mutual

/- A statement has a value exactly if it is valid as one. -/
theorem value_succeeds_iff
    (hUnbounded : config.maxDepth ≤ 0)
    (depth : Nat)
    (s : Template.Statement) :
    Succeeds (value (Setup.standard config) depth s) ↔
      s.IsValue config.eventModifier := by
  cases s with
  | element e =>
      rw [value, succeeds_map_iff,
        element_succeeds_iff hUnbounded depth e]
      constructor
      · intro hElement
        exact .element e hElement
      · intro hValue
        cases hValue with
        | element _ hElement => exact hElement
  | text run =>
      rw [value]
      exact iff_of_true (succeeds_ok _) (.text run)
  | mustache m =>
      rw [value]
      refine (mustache_succeeds_iff hUnbounded depth m).trans ?_
      constructor
      · intro hMustache
        exact .mustache m hMustache
      · intro hValue
        cases hValue with
        | mustache _ hMustache => exact hMustache
  | block b =>
      rw [value, block_succeeds_iff hUnbounded depth b]
      constructor
      · intro hBlock
        exact .block b hBlock
      · intro hValue
        cases hValue with
        | block _ hBlock => exact hBlock
  | _ =>
      rw [value]
      apply iff_of_false (not_succeeds_error _)
      intro hValue
      cases hValue

/- An element is resolved exactly if it is valid. -/
theorem element_succeeds_iff
    (hUnbounded : config.maxDepth ≤ 0)
    (depth : Nat) :
    (e : Template.Element) →
      (Succeeds (element (Setup.standard config) depth e) ↔
        e.IsValid config.eventModifier)
  | ⟨tag, selfClosing, params, attributes, modifiers,
      comments, body, span⟩ => by
    rw [element]
    exact standardElement_succeeds_iff hUnbounded depth _
      (children_succeeds_iff hUnbounded depth body)
      (root_succeeds_iff hUnbounded depth body)

/- A block is resolved exactly if it is valid. -/
theorem block_succeeds_iff
    (hUnbounded : config.maxDepth ≤ 0)
    (depth : Nat) :
    (b : Template.BlockStatement) →
      (Succeeds (block (Setup.standard config) depth b) ↔
        b.IsValid config.eventModifier)
  | ⟨invocation, program, inverse, span⟩ => by
    rw [block]
    exact standardBlock_succeeds_iff hUnbounded depth
      (branch_succeeds_iff hUnbounded depth program)
      (branch_succeeds_iff hUnbounded depth inverse)

/- A body is resolved if it forms one expression. -/
theorem branch_succeeds_iff
    (hUnbounded : config.maxDepth ≤ 0)
    (depth : Nat) :
    (b : Template.Block) →
      (Succeeds (branch (Setup.standard config) depth b) ↔
        Template.IsRoot config.eventModifier b.body)
  | .absent => by
    rw [branch]
    exact iff_of_true (succeeds_ok _)
      (isRoot_of_not_isPresent _ id)
  | .present body params chained span => by
    rw [branch]
    exact root_succeeds_iff hUnbounded depth body

/- Statements become children if each of them may be one. -/
theorem children_succeeds_iff
    (hUnbounded : config.maxDepth ≤ 0)
    (depth : Nat) :
    (body : List Template.Statement) →
      (Succeeds (children (Setup.standard config) depth body) ↔
        ∀ s ∈ body, s.IsChild config.eventModifier)
  | [] => by
    rw [children]
    exact iff_of_true (succeeds_ok _) (by simp)
  | s :: rest => by
    rw [children, Setup.standard_config,
      enter_bind hUnbounded, List.forall_mem_cons,
      ← markupChildren_succeeds_iff
        (value_succeeds_iff hUnbounded (depth + 1) s),
      ← children_succeeds_iff hUnbounded depth rest]
    exact succeeds_bind_iff fun first =>
      succeeds_map_iff fun others => first ++ others

/- Statements are resolved if they form one expression. -/
theorem root_succeeds_iff
    (hUnbounded : config.maxDepth ≤ 0)
    (depth : Nat) :
    (body : List Template.Statement) →
      (Succeeds (root (Setup.standard config) depth body) ↔
        Template.IsRoot config.eventModifier body)
  | [] => by
    rw [root]
    exact iff_of_true (succeeds_ok _)
      (.several [] (by decide) (by simp))
  | [s] => by
    rw [root, Setup.standard_config, enter_bind hUnbounded,
      value_succeeds_iff hUnbounded (depth + 1) s]
    constructor
    · intro hValue
      exact .single s hValue
    · intro hRoot
      cases hRoot with
      | single _ hValue => exact hValue
      | several _ hLength _ => exact absurd rfl hLength
  | s :: next :: rest => by
    rw [root, Setup.standard_config, enter_bind hUnbounded,
      isRoot_iff (by simp), List.forall_mem_cons,
      ← markupChildren_succeeds_iff
        (value_succeeds_iff hUnbounded (depth + 1) s),
      ← children_succeeds_iff hUnbounded depth (next :: rest)]
    exact succeeds_bind_iff fun first =>
      succeeds_map_iff fun others =>
        Jsx.Expr.markup (.fragment (first ++ others))

end

------------------------------------------------------------
-- Whole Templates
------------------------------------------------------------

/-
  Without a bound on the nesting, a template is resolved
  exactly if its statements are valid and form one
  expression.
-/
theorem resolve_succeeds_iff
    (config : Config)
    (t : Template)
    (hUnbounded : config.maxDepth ≤ 0) :
    Succeeds ((Setup.standard config).resolve (some t)) ↔
      Template.IsRoot config.eventModifier t.body :=
  root_succeeds_iff hUnbounded 0 t.body

/- An element that binds names and holds only a comment. -/
def commented (params : List String) : Template :=
  ⟨[.element
      ⟨"p", false, params, [], [], [], [.comment ⟨"c", none⟩],
        none⟩],
    [], none⟩

/-
  A comment may be the only child of an element, but not the
  only statement of the function that an element with names
  becomes.
-/
theorem resolve_succeeds_iff_commented :
    let config : Config := { Config.default with maxDepth := 0 }
    config.maxDepth ≤ 0 ∧
      Succeeds
        ((Setup.standard config).resolve
          (some (commented []))) ∧
      ¬ Succeeds
        ((Setup.standard config).resolve
          (some (commented ["x"]))) := by
  intro config
  have hUnbounded : config.maxDepth ≤ 0 := Int.le_refl 0
  refine ⟨hUnbounded, ?_, ?_⟩
  · rw [resolve_succeeds_iff config _ hUnbounded]
    have hComment : ∀ s ∈ [Template.Statement.comment ⟨"c", none⟩],
        s.IsChild config.eventModifier := by
      intro s hMember
      rw [List.mem_singleton.mp hMember]
      exact .comment ⟨"c", none⟩
    exact .single _
      (.element _ (.plain _ (by simp) (by simp) rfl hComment))
  · rw [resolve_succeeds_iff config _ hUnbounded]
    intro hRoot
    cases hRoot with
    | several _ hLength _ => exact absurd rfl hLength
    | single _ hValue =>
        cases hValue with
        | element _ hElement =>
            cases hElement with
            | plain _ _ _ hParams _ => cases hParams
            | binding _ _ _ _ hChildren =>
                cases hChildren with
                | several _ hLength _ => exact absurd rfl hLength
                | single _ hComment => cases hComment

end Resolve

end TemplateJsx
