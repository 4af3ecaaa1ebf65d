import TemplateJsx.Resolve.Statement

/-
  What a successful resolution is made of. Each statement
  takes the success of a step apart into the successes of
  the steps below it and the tree that is built from their
  results.

  Main declarations:
    * `Resolve.bind_eq_ok`
    * `Resolve.mapM_eq_ok_cons`
    * `Resolve.path_of_segments`
    * `Resolve.expression_path_eq_ok_iff`
    * `Resolve.helperCall_eq_ok`
    * `Resolve.attributeOf_eq_ok`
    * `Resolve.modifier_eq_ok`
    * `Resolve.standardElement_eq_ok`
    * `Resolve.conditionalBlock_eq_ok`
    * `Resolve.eachBlock_eq_ok`
    * `Resolve.letBlock_eq_ok`
    * `Resolve.customBlock_eq_ok`
    * `Resolve.markupChildren_eq_ok`
    * `Resolve.children_cons_eq_ok`
    * `Resolve.root_eq_ok`
-/

------------------------------------------------------------
-- Sequences of Steps
------------------------------------------------------------

namespace TemplateJsx

namespace Resolve

variable
  {α β : Type}

/- Two steps succeed in a row when each of them does. -/
theorem bind_eq_ok_iff
    {x : Outcome α}
    {f : α → Outcome β}
    {b : β} :
    (x >>= f) = .ok b ↔ ∃ a, x = .ok a ∧ f a = .ok b := by
  constructor
  · intro hBoth
    cases x with
    | error err => exact absurd hBoth (by intro h; cases h)
    | ok a => exact ⟨a, rfl, hBoth⟩
  · rintro ⟨a, rfl, hNext⟩
    exact hNext

theorem bind_eq_ok
    {x : Outcome α}
    {f : α → Outcome β}
    {b : β}
    (hBoth : (x >>= f) = .ok b) :
    ∃ a, x = .ok a ∧ f a = .ok b :=
  bind_eq_ok_iff.mp hBoth

/- A step for every item of a list succeeds item by item. -/
theorem mapM_eq_ok_cons
    {f : α → Outcome β}
    {x : α}
    {xs : List α}
    {ys : List β}
    (hAll : (x :: xs).mapM f = .ok ys) :
    ∃ y rest, f x = .ok y ∧ xs.mapM f = .ok rest ∧
      ys = y :: rest := by
  rw [List.mapM_cons] at hAll
  rcases bind_eq_ok hAll with ⟨y, hFirst, hAll⟩
  rcases bind_eq_ok hAll with ⟨rest, hRest, hAll⟩
  cases hAll
  exact ⟨y, rest, hFirst, hRest, rfl⟩

/- What every step gives holds of all that they give. -/
theorem forall_mem_of_mapM_eq_ok
    {P : β → Prop}
    {f : α → Outcome β}
    {xs : List α}
    {ys : List β}
    (hEach : ∀ x y, f x = .ok y → P y)
    (hAll : xs.mapM f = .ok ys) :
    ∀ y ∈ ys, P y := by
  induction xs generalizing ys with
  | nil =>
      cases hAll
      exact List.forall_mem_nil _
  | cons x rest ih =>
      rcases mapM_eq_ok_cons hAll with
        ⟨first, others, hFirst, hOthers, rfl⟩
      rw [List.forall_mem_cons]
      exact ⟨hEach x first hFirst, ih hOthers⟩

------------------------------------------------------------
-- Paths
------------------------------------------------------------

end Resolve

namespace Jsx

/- A name in front of a path goes in front of its base. -/
theorem prepend_extend
    {segment : String}
    {base base' : Expr}
    (names : List String)
    (hBase : base.prepend segment = .ok base') :
    (base.extend names).prepend segment =
      .ok (base'.extend names) := by
  induction names generalizing base base' with
  | nil => exact hBase
  | cons name names ih =>
      apply ih
      unfold Expr.append
      rw [Expr.prepend, hBase]
      rfl

end Jsx

namespace Resolve

/- Only a path without a head has no names. -/
theorem segments_eq_nil_iff
    (p : Template.Path) :
    p.segments = [] ↔ p.head = "" := by
  unfold Template.Path.segments
  rw [← String.toList_eq_nil_iff]
  split
  · rename_i hNone
    simp only [hNone]
  · rename_i hArgument
    simp only [hArgument, reduceCtorEq]
  · rename_i hSome _
    simp only [reduceCtorEq, false_iff]
    exact hSome

/-
  A path is resolved along its names, that of an argument
  from the object of arguments on.
-/
theorem path_of_segments
    {p : Template.Path}
    {head : String}
    {tail : List String}
    (hNames : p.segments = head :: tail) :
    path p =
      .ok (Jsx.Expr.extend
        (if p.IsArgument then
          .member (.identifier argumentsName) head
        else
          .identifier head)
        tail) := by
  unfold path
  rw [hNames]
  by_cases hArgument : p.IsArgument
  · simp only [if_pos hArgument]
    exact Jsx.prepend_extend tail rfl
  · simp only [if_neg hArgument]
    rfl

------------------------------------------------------------
-- Expressions and Elements
------------------------------------------------------------

/- A path succeeds when it has a first name. -/
theorem path_eq_ok
    {p : Template.Path}
    {e : Jsx.Expr}
    (hPath : path p = .ok e) :
    ∃ head tail, p.segments = head :: tail ∧
      (if p.IsArgument then
        Jsx.Expr.prepend argumentsName
          (Jsx.Expr.extend (.identifier head) tail)
      else
        .ok (Jsx.Expr.extend (.identifier head) tail)) =
        .ok e := by
  unfold path at hPath
  cases hNames : p.segments with
  | nil =>
      rw [hNames] at hPath
      cases hPath
  | cons head tail =>
      rw [hNames] at hPath
      exact ⟨head, tail, rfl, hPath⟩

/-
  A callee that is a path with a head is called by its member
  path, one without a head as what is not defined.
-/
theorem callee_path_cases
    (p : Template.Path) :
    (p.head = "" ∧
        callee (.path p) = .identifier undefinedName) ∨
      (p.head ≠ "" ∧ path p = .ok (callee (.path p))) := by
  rw [callee, Ne, ← segments_eq_nil_iff]
  cases hPath : path p with
  | ok members =>
      rcases path_eq_ok hPath with ⟨head, tail, hNames, _⟩
      refine Or.inr ⟨?_, rfl⟩
      rw [hNames]
      exact List.cons_ne_nil head tail
  | error kind =>
      refine Or.inl ⟨?_, rfl⟩
      cases hNames : p.segments with
      | nil => rfl
      | cons head tail =>
          rw [path_of_segments hNames] at hPath
          cases hPath

/- An expression succeeds by its own form. -/
theorem expression_path_eq_ok
    {config : Config}
    {depth : Nat}
    {p : Template.Path}
    {e : Jsx.Expr}
    (hPath : expression config depth (.path p) = .ok e) :
    path p = .ok e := by
  rw [expression] at hPath
  rcases bind_eq_ok hPath with ⟨_, _, hPath⟩
  cases hMembers : path p with
  | ok members =>
      rw [hMembers] at hPath
      cases hPath
      rfl
  | error kind =>
      rw [hMembers] at hPath
      cases hPath

/- What stands in a node is resolved, unless it is too deep. -/
theorem enter_bind_eq_ok_iff
    {α : Type}
    {config : Config}
    {depth : Nat}
    {node : Template.Node}
    {next : Unit → Outcome α}
    {a : α} :
    (enter config depth node >>= next) = .ok a ↔
      ¬ (0 < config.maxDepth ∧ config.maxDepth ≤ depth) ∧
        next () = .ok a := by
  unfold enter
  by_cases hDeep : 0 < config.maxDepth ∧ config.maxDepth ≤ depth
  · rw [if_pos hDeep]
    constructor
    · intro hOk
      cases hOk
    · intro hRoom
      exact absurd hDeep hRoom.1
  · rw [if_neg hDeep]
    exact ⟨fun hOk => ⟨hDeep, hOk⟩, fun hRoom => hRoom.2⟩

/- A path is resolved to its members, unless it is too deep. -/
theorem expression_path_eq_ok_iff
    {config : Config}
    {depth : Nat}
    {p : Template.Path}
    {members e : Jsx.Expr}
    (hPath : path p = .ok members) :
    expression config depth (.path p) = .ok e ↔
      ¬ (0 < config.maxDepth ∧ config.maxDepth ≤ depth) ∧
        e = members := by
  rw [expression, enter_bind_eq_ok_iff, hPath]
  refine and_congr_right fun _ => ⟨fun hOk => ?_, fun hSame => ?_⟩
  · cases hOk
    rfl
  · rw [hSame]
    rfl

/- The parts of an invocation that was resolved. -/
theorem helperCall_eq_ok
    {config : Config}
    {depth : Nat}
    {i : Template.Invocation}
    {x : Jsx.Expr}
    (hCall : helperCall config depth i = .ok x) :
    ∃ positional named,
      expressions config depth i.params = .ok positional ∧
        namedArguments config depth i.hash.pairs = .ok named ∧
        x = .call (callee i.callee)
          (positional ++ [hashObject named]) := by
  rcases i with ⟨target, params, ⟨pairs, span⟩⟩
  rw [helperCall] at hCall
  rcases bind_eq_ok hCall with ⟨positional, hParams, hCall⟩
  rcases bind_eq_ok hCall with ⟨named, hNamed, hCall⟩
  cases hCall
  exact ⟨positional, named, hParams, hNamed, rfl⟩

/- Expressions are resolved one by one. -/
theorem expressions_cons_eq_ok
    {config : Config}
    {depth : Nat}
    {e : Template.Expr}
    {rest : List Template.Expr}
    {xs : List Jsx.Expr}
    (hAll : expressions config depth (e :: rest) = .ok xs) :
    ∃ first others,
      expression config depth e = .ok first ∧
        expressions config depth rest = .ok others ∧
        xs = first :: others := by
  rw [expressions] at hAll
  rcases bind_eq_ok hAll with ⟨first, hFirst, hAll⟩
  rcases bind_eq_ok hAll with ⟨others, hOthers, hAll⟩
  cases hAll
  exact ⟨first, others, hFirst, hOthers, rfl⟩

/- Named arguments are resolved one by one. -/
theorem namedArguments_cons_eq_ok
    {config : Config}
    {depth : Nat}
    {pair : Template.Pair}
    {rest : List Template.Pair}
    {ps : List Jsx.Property}
    (hAll :
      namedArguments config depth (pair :: rest) = .ok ps) :
    ∃ first others,
      expression config depth pair.value = .ok first ∧
        namedArguments config depth rest = .ok others ∧
        ps = .mk pair.key first :: others := by
  rcases pair with ⟨key, value, span⟩
  rw [namedArguments] at hAll
  rcases bind_eq_ok hAll with ⟨first, hFirst, hAll⟩
  rcases bind_eq_ok hAll with ⟨others, hOthers, hAll⟩
  cases hAll
  exact ⟨first, others, hFirst, hOthers, rfl⟩

/-
  What stands in braces is resolved by its callee if it has
  no positional arguments, and as an invocation otherwise.
-/
theorem mustache_eq_ok
    {config : Config}
    {depth : Nat}
    {m : Template.Mustache}
    {x : Jsx.Expr}
    (hMustache : mustache config depth m = .ok x) :
    (m.invocation.params = [] ∧
        expression config depth m.invocation.callee = .ok x) ∨
      (m.invocation.params ≠ [] ∧
        helperCall config depth m.invocation = .ok x) := by
  unfold mustache at hMustache
  cases hParams : m.invocation.params with
  | nil =>
      rw [hParams] at hMustache
      exact Or.inl ⟨rfl, hMustache⟩
  | cons param rest =>
      rw [hParams] at hMustache
      exact Or.inr ⟨List.cons_ne_nil _ _, hMustache⟩

/- A part of an interpolated text is a text or a mustache. -/
theorem partValue_eq_ok
    {config : Config}
    {depth : Nat}
    {part : Template.TextPart}
    {x : Jsx.Expr}
    (hPart : partValue config depth part = .ok x) :
    (∃ run, part = .text run ∧ x = .string run.chars) ∨
      (∃ m, part = .mustache m ∧
        mustache config (depth + 1) m = .ok x) := by
  rcases bind_eq_ok hPart with ⟨_, _, hPart⟩
  cases part with
  | absent => cases hPart
  | text run =>
      cases hPart
      exact Or.inl ⟨run, rfl, rfl⟩
  | mustache m => exact Or.inr ⟨m, rfl, hPart⟩

/- How an attribute was resolved, by its name and value. -/
theorem attributeOf_eq_ok
    {config : Config}
    {depth : Nat}
    {a : Template.Attribute}
    {result : Jsx.Attribute}
    (hAttribute : attributeOf config depth a = .ok result) :
    (a.name = splattributes ∧
        result = .spread (.identifier attributesName)) ∨
      (a.name ≠ splattributes ∧
        (result = .bare (config.rename a.name) ∧
            (a.value = .absent ∨ ∃ run, a.value = .text run) ∨
          (∃ run, a.value = .text run ∧
            result = .text (config.rename a.name) run.chars) ∨
          (∃ m x, a.value = .mustache m ∧
            mustache config (depth + 1) m = .ok x ∧
            result = .container (config.rename a.name) x) ∨
          (∃ c x, a.value = .concat c ∧
            concat config depth c.parts = .ok x ∧
            result =
              .container (config.rename a.name) x))) := by
  unfold attributeOf at hAttribute
  by_cases hSplat : a.name = splattributes
  · rw [if_pos hSplat] at hAttribute
    cases hAttribute
    exact Or.inl ⟨hSplat, rfl⟩
  · rw [if_neg hSplat] at hAttribute
    refine Or.inr ⟨hSplat, ?_⟩
    cases hValue : a.value with
    | absent =>
        rw [hValue] at hAttribute
        cases hAttribute
        exact Or.inl ⟨rfl, Or.inl rfl⟩
    | text run =>
        simp only [hValue] at hAttribute
        by_cases hEmpty : run.chars = ""
        · rw [if_pos hEmpty] at hAttribute
          cases hAttribute
          exact Or.inl ⟨rfl, Or.inr ⟨run, rfl⟩⟩
        · rw [if_neg hEmpty] at hAttribute
          cases hAttribute
          exact Or.inr (Or.inl ⟨run, rfl, rfl⟩)
    | mustache m =>
        simp only [hValue] at hAttribute
        rcases bind_eq_ok hAttribute with ⟨_, _, hAttribute⟩
        rcases bind_eq_ok hAttribute with ⟨x, hX, hAttribute⟩
        cases hAttribute
        exact Or.inr (Or.inr (Or.inl ⟨m, x, rfl, hX, rfl⟩))
    | concat c =>
        simp only [hValue] at hAttribute
        rcases bind_eq_ok hAttribute with ⟨x, hX, hAttribute⟩
        cases hAttribute
        exact Or.inr (Or.inr (Or.inr ⟨c, x, rfl, hX, rfl⟩))

/- The parts of a modifier that binds a handler. -/
theorem eventHandler?_eq_some
    {config : Config}
    {i : Template.Invocation}
    {event : String}
    {handler : Template.Expr}
    (hEvent : eventHandler? config i = some (event, handler)) :
    ∃ p span hash,
      i = ⟨.path p, [.string event span, handler], hash⟩ ∧
        p.spelling = config.eventModifier ∧ event ≠ "" := by
  unfold eventHandler? at hEvent
  split at hEvent
  · split at hEvent
    · rename_i hBinds
      cases hEvent
      exact ⟨_, _, _, rfl, hBinds⟩
    · cases hEvent
  · cases hEvent

/- A modifier is resolved by its handler. -/
theorem modifier_eq_ok
    {config : Config}
    {depth : Nat}
    {m : Template.Modifier}
    {result : Jsx.Attribute}
    (hModifier : modifier config depth m = .ok result) :
    ∃ first event handler x,
      m.invocation.params = [first, handler] ∧
        expression config depth handler = .ok x ∧
        result = .container (handlerName event) x := by
  unfold modifier at hModifier
  cases hEvent : eventHandler? config m.invocation with
  | none =>
      rw [hEvent] at hModifier
      cases hModifier
  | some found =>
      rcases found with ⟨event, handler⟩
      rw [hEvent] at hModifier
      rcases bind_eq_ok hModifier with ⟨x, hX, hModifier⟩
      cases hModifier
      rcases eventHandler?_eq_some hEvent with
        ⟨p, span, hash, hInvocation, _⟩
      rw [hInvocation]
      exact ⟨_, event, handler, x, rfl, hX, rfl⟩

/-
  The children of an element that binds names are one
  function of these names.
-/
theorem elementChildren_eq_ok
    {params : List String}
    {children : Unit → Outcome (List Jsx.Child)}
    {body : Unit → Outcome Jsx.Expr}
    {kids : List Jsx.Child}
    (hKids : elementChildren params children body = .ok kids) :
    (params = [] ∧ children () = .ok kids) ∨
      (∃ x, body () = .ok x ∧
        kids = [.container (.arrow params x)]) := by
  cases params with
  | nil => exact Or.inl ⟨rfl, hKids⟩
  | cons param rest =>
      rcases bind_eq_ok hKids with ⟨x, hX, hKids⟩
      cases hKids
      exact Or.inr ⟨x, hX, rfl⟩

/- The parts of an element that was resolved. -/
theorem standardElement_eq_ok
    {config : Config}
    {depth : Nat}
    {el : Template.Element}
    {children : Unit → Outcome (List Jsx.Child)}
    {body : Unit → Outcome Jsx.Expr}
    {m : Jsx.Markup}
    (hElement :
      standardElement config depth el children body = .ok m) :
    ∃ attributes events kids closing,
      el.attributes.mapM (attributeOf config depth) =
          .ok attributes ∧
        el.modifiers.mapM (modifier config depth) =
          .ok events ∧
        elementChildren el.blockParams children body =
          .ok kids ∧
        m = .element (tagName el.tag) (attributes ++ events)
          kids closing := by
  rcases bind_eq_ok hElement with
    ⟨attributes, hAttributes, hElement⟩
  rcases bind_eq_ok hElement with ⟨events, hEvents, hElement⟩
  rcases bind_eq_ok hElement with ⟨kids, hKids, hElement⟩
  cases hElement
  exact ⟨attributes, events, kids, _, hAttributes, hEvents,
    hKids, rfl⟩

/- An element closes itself only without children. -/
theorem standardElement_closing
    {config : Config}
    {depth : Nat}
    {el : Template.Element}
    {children : Unit → Outcome (List Jsx.Child)}
    {body : Unit → Outcome Jsx.Expr}
    {name : Jsx.TagName}
    {attributes : List Jsx.Attribute}
    {kids : List Jsx.Child}
    (hElement :
      standardElement config depth el children body =
        .ok (.element name attributes kids true)) :
    kids = [] := by
  rcases bind_eq_ok hElement with ⟨_, _, hElement⟩
  rcases bind_eq_ok hElement with ⟨_, _, hElement⟩
  rcases bind_eq_ok hElement with ⟨kids, _, hElement⟩
  cases kids with
  | nil =>
      injection hElement with hMarkup
      injection hMarkup with _ _ hKids _
      exact hKids.symm
  | cons kid rest =>
      injection hElement with hMarkup
      injection hMarkup with _ _ _ hClosing
      cases hClosing

------------------------------------------------------------
-- Blocks
------------------------------------------------------------

/- The parts of a conditional block that was resolved. -/
theorem conditionalBlock_eq_ok
    {config : Config}
    {depth : Nat}
    {negate : Bool}
    {b : Template.BlockStatement}
    {program inverse : Unit → Outcome Jsx.Expr}
    {e : Jsx.Expr}
    (hBlock :
      conditionalBlock config depth negate b program inverse =
        .ok e) :
    ∃ param test consequent alternate,
      b.invocation.params = [param] ∧
        expression config depth param = .ok test ∧
        program () = .ok consequent ∧
        inverseOrNull b inverse = .ok alternate ∧
        e = if negate then
            .conditional test alternate consequent
          else
            .conditional test consequent alternate := by
  unfold conditionalBlock at hBlock
  split at hBlock
  · rename_i param hParams
    rcases bind_eq_ok hBlock with ⟨test, hTest, hBlock⟩
    rcases bind_eq_ok hBlock with
      ⟨consequent, hProgram, hBlock⟩
    rcases bind_eq_ok hBlock with
      ⟨alternate, hInverse, hBlock⟩
    refine ⟨param, test, consequent, alternate, hParams,
      hTest, hProgram, hInverse, ?_⟩
    cases negate with
    | true =>
        cases hBlock
        rfl
    | false =>
        cases hBlock
        rfl
  · cases hBlock

/-
  The parts of an `each` that was resolved. The test of the
  length is there when there is an `else`.
-/
theorem eachBlock_eq_ok
    {config : Config}
    {depth : Nat}
    {b : Template.BlockStatement}
    {program inverse : Unit → Outcome Jsx.Expr}
    {e : Jsx.Expr}
    (hBlock :
      eachBlock config depth b program inverse = .ok e) :
    ∃ param list body,
      b.invocation.params = [param] ∧
        expression config depth param = .ok list ∧
        program () = .ok body ∧
        ((b.inverse.IsPresent ∧
            ∃ other, inverse () = .ok other ∧
              e = .conditional (list.append "length")
                (.call (list.append "map")
                  [.arrow b.program.blockParams body])
                other) ∨
          (¬ b.inverse.IsPresent ∧
            e = .call (list.append "map")
              [.arrow b.program.blockParams body])) := by
  unfold eachBlock at hBlock
  split at hBlock
  · rename_i param hParams
    rcases bind_eq_ok hBlock with ⟨list, hList, hBlock⟩
    rcases bind_eq_ok hBlock with ⟨body, hBody, hBlock⟩
    refine ⟨param, list, body, hParams, hList, hBody, ?_⟩
    by_cases hInverse : b.inverse.IsPresent
    · rw [if_pos hInverse] at hBlock
      rcases bind_eq_ok hBlock with ⟨other, hOther, hBlock⟩
      cases hBlock
      exact Or.inl ⟨hInverse, other, hOther, rfl⟩
    · rw [if_neg hInverse] at hBlock
      cases hBlock
      exact Or.inr ⟨hInverse, rfl⟩
  · cases hBlock

/- The parts of a `let` that was resolved. -/
theorem letBlock_eq_ok
    {config : Config}
    {depth : Nat}
    {b : Template.BlockStatement}
    {program : Unit → Outcome Jsx.Expr}
    {e : Jsx.Expr}
    (hBlock : letBlock config depth b program = .ok e) :
    ∃ arguments body,
      expressions config depth b.invocation.params =
          .ok arguments ∧
        program () = .ok body ∧
        e = .call (.arrow b.program.blockParams body)
          arguments := by
  unfold letBlock at hBlock
  split at hBlock
  · cases hBlock
  · rcases bind_eq_ok hBlock with
      ⟨arguments, hArguments, hBlock⟩
    rcases bind_eq_ok hBlock with ⟨body, hBody, hBlock⟩
    cases hBlock
    exact ⟨arguments, body, hArguments, hBody, rfl⟩

/- The `else` of a conditional block, or `null`. -/
theorem inverseOrNull_eq_ok
    {b : Template.BlockStatement}
    {inverse : Unit → Outcome Jsx.Expr}
    {x : Jsx.Expr}
    (hInverse : inverseOrNull b inverse = .ok x) :
    (b.inverse.IsPresent ∧ inverse () = .ok x) ∨
      (¬ b.inverse.IsPresent ∧ x = .null) := by
  unfold inverseOrNull at hInverse
  by_cases hPresent : b.inverse.IsPresent
  · rw [if_pos hPresent] at hInverse
    exact Or.inl ⟨hPresent, hInverse⟩
  · rw [if_neg hPresent] at hInverse
    cases hInverse
    exact Or.inr ⟨hPresent, rfl⟩

/- A body that is passed on, if it was written. -/
theorem bodyFunction_eq_ok
    {block : Template.Block}
    {body : Unit → Outcome Jsx.Expr}
    {xs : List Jsx.Expr}
    (hBody : bodyFunction block body = .ok xs) :
    (∃ x, block.IsPresent ∧ body () = .ok x ∧
        xs = [.arrow block.blockParams x]) ∨
      (¬ block.IsPresent ∧ xs = []) := by
  unfold bodyFunction at hBody
  by_cases hPresent : block.IsPresent
  · rw [if_pos hPresent] at hBody
    rcases bind_eq_ok hBody with ⟨x, hX, hBody⟩
    cases hBody
    exact Or.inl ⟨x, hPresent, hX, rfl⟩
  · rw [if_neg hPresent] at hBody
    cases hBody
    exact Or.inr ⟨hPresent, rfl⟩

/- The parts of any other block that was resolved. -/
theorem customBlock_eq_ok
    {config : Config}
    {depth : Nat}
    {b : Template.BlockStatement}
    {program inverse : Unit → Outcome Jsx.Expr}
    {e : Jsx.Expr}
    (hBlock :
      customBlock config depth b program inverse = .ok e) :
    ∃ positional named first second,
      expressions config depth b.invocation.params =
          .ok positional ∧
        namedArguments config depth b.invocation.hash.pairs =
          .ok named ∧
        bodyFunction b.program program = .ok first ∧
        bodyFunction b.inverse inverse = .ok second ∧
        e = .call (callee b.invocation.callee)
          (positional ++ [hashObject named] ++ first ++
            second) := by
  rcases bind_eq_ok hBlock with ⟨positional, hParams, hBlock⟩
  rcases bind_eq_ok hBlock with ⟨named, hNamed, hBlock⟩
  rcases bind_eq_ok hBlock with ⟨first, hFirst, hBlock⟩
  rcases bind_eq_ok hBlock with ⟨second, hSecond, hBlock⟩
  cases hBlock
  exact ⟨positional, named, first, second, hParams, hNamed,
    hFirst, hSecond, rfl⟩

------------------------------------------------------------
-- Statements
------------------------------------------------------------

/-
  Under the standard rules a statement becomes children in
  three ways: text is split, a comment is kept in a container
  of its own, and anything else stands there by its value,
  markup as it is and the rest in a container.
-/
theorem markupChildren_eq_ok
    {config : Config}
    {depth : Nat}
    {s : Template.Statement}
    {cs : List Jsx.Child}
    (hChildren :
      markupChildren (Setup.standard config) depth s =
        .ok cs) :
    (∃ run, s = .text run ∧ cs = Jsx.textChildren run.chars) ∨
      (∃ c, (s = .comment c ∨ s = .mustacheComment c) ∧
        cs = [.container (.empty c.value)]) ∨
      (∃ x, value (Setup.standard config) depth s = .ok x ∧
        ((∃ m, x = .markup m ∧ cs = [.markup m]) ∨
          cs = [.container x])) := by
  cases s with
  | element e =>
      rw [markupChildren] at hChildren
      rcases bind_eq_ok hChildren with ⟨m, hMarkup, hChildren⟩
      cases hChildren
      refine Or.inr (Or.inr ⟨.markup m, ?_, Or.inl ⟨m, rfl, rfl⟩⟩)
      rw [value, hMarkup]
      rfl
  | text run =>
      rw [markupChildren] at hChildren
      cases hChildren
      exact Or.inl ⟨run, rfl, rfl⟩
  | mustache m =>
      rw [markupChildren] at hChildren
      rcases bind_eq_ok hChildren with ⟨x, hX, hChildren⟩
      cases hChildren
      refine Or.inr (Or.inr ⟨x, ?_, Or.inr rfl⟩)
      rw [value]
      exact hX
  | block b =>
      rw [markupChildren] at hChildren
      rcases bind_eq_ok hChildren with ⟨x, hX, hChildren⟩
      cases hChildren
      refine Or.inr (Or.inr ⟨x, ?_, Or.inr rfl⟩)
      rw [value]
      exact hX
  | comment c =>
      rw [markupChildren] at hChildren
      cases hChildren
      exact Or.inr (Or.inl ⟨c, Or.inl rfl, rfl⟩)
  | mustacheComment c =>
      rw [markupChildren] at hChildren
      cases hChildren
      exact Or.inr (Or.inl ⟨c, Or.inr rfl, rfl⟩)
  | modifier m =>
      rw [markupChildren] at hChildren
      cases hChildren
  | concat c =>
      rw [markupChildren] at hChildren
      cases hChildren
  | absent =>
      rw [markupChildren] at hChildren
      cases hChildren

------------------------------------------------------------
-- Lists of Statements
------------------------------------------------------------

/- Children succeed statement by statement. -/
theorem children_cons_eq_ok
    {t : Setup}
    {depth : Nat}
    {s : Template.Statement}
    {rest : List Template.Statement}
    {cs : List Jsx.Child}
    (hAll : children t depth (s :: rest) = .ok cs) :
    ∃ first others,
      markupChildren t (depth + 1) s = .ok first ∧
        children t depth rest = .ok others ∧
        cs = first ++ others := by
  rw [children] at hAll
  rcases bind_eq_ok hAll with ⟨_, _, hAll⟩
  rcases bind_eq_ok hAll with ⟨first, hFirst, hAll⟩
  rcases bind_eq_ok hAll with ⟨others, hOthers, hAll⟩
  cases hAll
  exact ⟨first, others, hFirst, hOthers, rfl⟩

/-
  Under the standard rules statements form one expression in
  two ways: as the value of a single statement, or as a
  fragment of their children.
-/
theorem root_eq_ok
    {config : Config}
    {depth : Nat}
    {body : List Template.Statement}
    {e : Jsx.Expr}
    (hRoot :
      root (Setup.standard config) depth body = .ok e) :
    (∃ s, body = [s] ∧
        value (Setup.standard config) (depth + 1) s = .ok e) ∨
      (∃ cs,
        children (Setup.standard config) depth body = .ok cs ∧
          e = .markup (.fragment cs)) := by
  match body, hRoot with
  | [], hRoot =>
      rw [root] at hRoot
      cases hRoot
      exact Or.inr ⟨[], by rw [children]; rfl, rfl⟩
  | [s], hRoot =>
      rw [root] at hRoot
      rcases bind_eq_ok hRoot with ⟨_, _, hValue⟩
      exact Or.inl ⟨s, rfl, hValue⟩
  | s :: next :: rest, hRoot =>
      rw [root] at hRoot
      rcases bind_eq_ok hRoot with ⟨_, hEnter, hRoot⟩
      rcases bind_eq_ok hRoot with ⟨first, hFirst, hRoot⟩
      rcases bind_eq_ok hRoot with ⟨others, hOthers, hRoot⟩
      cases hRoot
      refine Or.inr ⟨first ++ others, ?_, rfl⟩
      rw [children, hEnter, hFirst, hOthers]
      rfl

end Resolve

end TemplateJsx
