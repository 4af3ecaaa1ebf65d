import TemplateJsx.Proofs.References
import TemplateJsx.Proofs.Rendering.Trees

/-
  Resolving a template keeps its meaning: the tree that a
  template is resolved to renders to the nodes that the
  template itself renders to, unless a body captures a
  literal `undefined` by binding that name around it.

  A statement is resolved in two ways, to one expression and
  to children, and a block renders its body in environments
  of its own. The induction therefore takes both results of
  a statement together and goes over all environments, each
  with the names that are bound in it.

  Key definitions include:
    * `Resolve.Uncaptured`
    * `Resolve.MeansUndefined`
    * `Resolve.KeepsBody`

  Main declarations:
    * `Resolve.expression_eval`
    * `Resolve.standardBlock_render`
    * `Resolve.standardElement_eval`
    * `Resolve.statement_render`
    * `Resolve.resolve_render`
-/

------------------------------------------------------------
-- Paths
------------------------------------------------------------

namespace TemplateJsx

open Rendering (Value Env)

namespace Resolve

open Template (Use)

/- A resolved path has the value of the path. -/
theorem path_eval
    {env : Env}
    {p : Template.Path}
    {e : Jsx.Expr}
    (hPath : path p = .ok e) :
    e.eval env = p.read env := by
  rcases path_eq_ok hPath with ⟨head, tail, hNames, hExpr⟩
  unfold Template.Path.read
  rw [hNames]
  by_cases hArgument : p.IsArgument
  · rw [if_pos hArgument] at hExpr
    have hMembers :=
      Jsx.prepend_extend tail
        (show (Jsx.Expr.identifier head).prepend argumentsName =
          .ok (.member (.identifier argumentsName) head) from
          rfl)
    rw [hMembers] at hExpr
    cases hExpr
    simp only [if_pos hArgument]
    apply Jsx.eval_extend
    rw [Jsx.Expr.eval, Jsx.Expr.eval]
    rfl
  · rw [if_neg hArgument] at hExpr
    cases hExpr
    simp only [if_neg hArgument]
    apply Jsx.eval_extend
    rw [Jsx.Expr.eval]

------------------------------------------------------------
-- Captured Names
------------------------------------------------------------

/- No use of `undefined` stands where the name is bound. -/
def Uncaptured (uses : List Use) : Prop :=
  ∀ use ∈ uses,
    use.subject = .name undefinedName →
      undefinedName ∉ use.bound

instance (uses : List Use) : Decidable (Uncaptured uses) :=
  inferInstanceAs (Decidable (∀ use ∈ uses, _))

theorem uncaptured_append
    {uses others : List Use} :
    Uncaptured (uses ++ others) ↔
      Uncaptured uses ∧ Uncaptured others :=
  List.forall_mem_append

theorem Uncaptured.of_mem
    {α : Type}
    {uses : α → List Use}
    {xs : List α}
    {x : α}
    (hUses : Uncaptured (xs.flatMap uses))
    (hMember : x ∈ xs) :
    Uncaptured (uses x) :=
  fun use hUse =>
    hUses use (List.mem_flatMap.mpr ⟨x, hMember, hUse⟩)

/-
  An environment in which `undefined` has its meaning, if it
  is none of the bound names.
-/
def MeansUndefined
    (bound : List String)
    (env : Env) : Prop :=
  undefinedName ∉ bound → env undefinedName = .undefined

/- Bound names are added to those that are bound. -/
theorem MeansUndefined.bind
    {bound : List String}
    {env : Env}
    (hUndefined : MeansUndefined bound env)
    (names : List String)
    (values : List Value) :
    MeansUndefined (names ++ bound) (env.bind names values) := by
  intro hFree
  rw [List.mem_append, not_or] at hFree
  rw [Env.bind_of_not_mem hFree.1]
  exact hUndefined hFree.2

------------------------------------------------------------
-- Expressions
------------------------------------------------------------

/-
  A resolved expression has the value of the expression, if
  `undefined` has kept its meaning.
-/
theorem expression_eval
    {config : Config}
    {depth : Nat}
    {bound properties : List String}
    {env : Env}
    {e : Template.Expr}
    {x : Jsx.Expr}
    {v : Value}
    (hUses : Uncaptured (e.uses bound properties))
    (hUndefined : MeansUndefined bound env)
    (hExpr : expression config depth e = .ok x)
    (hRead : e.read env = some v) :
    x.eval env = some v := by
  cases e with
  | path p =>
      rw [path_eval (expression_path_eq_ok hExpr)]
      exact hRead
  | call i span => cases hRead
  | absent => cases hRead
  | undefined span =>
      rw [expression] at hExpr
      rcases bind_eq_ok hExpr with ⟨_, _, hExpr⟩
      cases hExpr
      cases hRead
      have hFree : undefinedName ∉ bound :=
        hUses _ (by rw [Template.Expr.uses]; exact List.mem_cons_self)
          rfl
      rw [Jsx.Expr.eval, hUndefined hFree]
  | boolean value span
  | null span
  | number value span
  | string value span =>
      rw [expression] at hExpr
      rcases bind_eq_ok hExpr with ⟨_, _, hExpr⟩
      cases hExpr
      cases hRead
      rw [Jsx.Expr.eval]

/- Resolved arguments have the values of the arguments. -/
theorem expressions_eval
    {config : Config}
    {depth : Nat}
    {bound properties : List String}
    {env : Env}
    {es : List Template.Expr}
    {xs : List Jsx.Expr}
    {vs : List Value}
    (hUses :
      Uncaptured (Template.paramUses bound properties es))
    (hUndefined : MeansUndefined bound env)
    (hExprs : expressions config depth es = .ok xs)
    (hRead : es.mapM (Template.Expr.read env) = some vs) :
    Jsx.evalArguments xs env = some vs := by
  induction es generalizing xs vs with
  | nil =>
      rw [expressions] at hExprs
      cases hExprs
      cases hRead
      rw [Jsx.evalArguments]
      rfl
  | cons e es ih =>
      rw [Template.paramUses, uncaptured_append] at hUses
      rw [expressions] at hExprs
      rcases bind_eq_ok hExprs with ⟨x, hFirst, hExprs⟩
      rcases bind_eq_ok hExprs with ⟨others, hOthers, hExprs⟩
      cases hExprs
      rw [List.mapM_cons] at hRead
      rcases Option.bind_eq_some_iff.mp hRead with
        ⟨v, hValue, hRead⟩
      rcases Option.bind_eq_some_iff.mp hRead with
        ⟨rest, hRest, hRead⟩
      cases hRead
      rw [Jsx.evalArguments,
        expression_eval hUses.1 hUndefined hFirst hValue,
        ih hUses.2 hOthers hRest]
      rfl

/- A resolved mustache has the value of the mustache. -/
theorem mustache_eval
    {config : Config}
    {depth : Nat}
    {bound : List String}
    {env : Env}
    {m : Template.Mustache}
    {x : Jsx.Expr}
    {v : Value}
    (hUses : Uncaptured (m.uses bound))
    (hUndefined : MeansUndefined bound env)
    (hMustache : mustache config depth m = .ok x)
    (hRead : m.read env = some v) :
    x.eval env = some v := by
  unfold mustache at hMustache
  unfold Template.Mustache.uses at hUses
  unfold Template.Mustache.read at hRead
  cases hParams : m.invocation.params with
  | nil =>
      rw [hParams] at hUses hMustache hRead
      exact expression_eval hUses hUndefined hMustache hRead
  | cons param params =>
      rw [hParams] at hRead
      cases hRead

------------------------------------------------------------
-- Attributes
------------------------------------------------------------

/- A resolved attribute contributes what the attribute does. -/
theorem attributeOf_eval
    {config : Config}
    {depth : Nat}
    {bound : List String}
    {env : Env}
    {a : Template.Attribute}
    {x : Jsx.Attribute}
    {given : List (String × Option Value)}
    (hUses : Uncaptured (a.uses bound))
    (hUndefined : MeansUndefined bound env)
    (hAttribute : attributeOf config depth a = .ok x)
    (hRead : a.read config env = some given) :
    x.eval env = some given := by
  unfold attributeOf splattributes at hAttribute
  unfold Template.Attribute.uses at hUses
  unfold Template.Attribute.read at hRead
  by_cases hSpread : a.name = "...attributes"
  · rw [if_pos hSpread] at hAttribute hRead
    cases hAttribute
    rw [Jsx.Attribute.eval, Jsx.Expr.eval]
    exact hRead
  · rw [if_neg hSpread] at hUses hAttribute hRead
    dsimp only at hAttribute
    cases hValue : a.value with
    | absent =>
        rw [hValue] at hAttribute hRead
        cases hAttribute
        rw [Jsx.Attribute.eval]
        exact hRead
    | text run =>
        rw [hValue] at hAttribute hRead
        dsimp only at hAttribute hRead
        by_cases hEmpty : run.chars = ""
        · rw [if_pos hEmpty] at hAttribute hRead
          cases hAttribute
          rw [Jsx.Attribute.eval]
          exact hRead
        · rw [if_neg hEmpty] at hAttribute hRead
          cases hAttribute
          rw [Jsx.Attribute.eval]
          exact hRead
    | mustache m =>
        rw [hValue] at hUses hAttribute hRead
        rcases bind_eq_ok hAttribute with ⟨_, _, hAttribute⟩
        rcases bind_eq_ok hAttribute with
          ⟨inner, hInner, hAttribute⟩
        cases hAttribute
        rcases Option.bind_eq_some_iff.mp hRead with
          ⟨v, hInnerRead, hRead⟩
        rw [Jsx.Attribute.eval,
          mustache_eval hUses hUndefined hInner hInnerRead]
        exact hRead
    | concat c =>
        rw [hValue] at hRead
        cases hRead

/- A resolved handler contributes what the handler does. -/
theorem modifier_eval
    {config : Config}
    {depth : Nat}
    {bound : List String}
    {env : Env}
    {m : Template.Modifier}
    {x : Jsx.Attribute}
    {given : List (String × Option Value)}
    (hUses : Uncaptured (m.uses bound))
    (hUndefined : MeansUndefined bound env)
    (hModifier : modifier config depth m = .ok x)
    (hRead : m.read env = some given) :
    x.eval env = some given := by
  unfold modifier at hModifier
  unfold Template.Modifier.uses at hUses
  unfold Template.Modifier.read at hRead
  rcases m with ⟨⟨callee, params, hash⟩, span⟩
  dsimp only at hUses hModifier hRead
  split at hModifier
  · cases hModifier
  · rename_i event handler hEvent
    rcases bind_eq_ok hModifier with
      ⟨inner, hInner, hModifier⟩
    cases hModifier
    unfold eventHandler? at hEvent
    split at hEvent
    · rename_i p name nameSpan target hash' hForm
      cases hForm
      split at hEvent
      · cases hEvent
        rcases Option.bind_eq_some_iff.mp hRead with
          ⟨v, hValue, hRead⟩
        rw [Jsx.Attribute.eval,
          expression_eval hUses hUndefined hInner hValue]
        exact hRead
      · cases hEvent
    · cases hEvent

/-
  What is resolved item by item and contributes item by item
  contributes all of it in order.
-/
theorem mapM_evalAttributes
    {α : Type}
    {env : Env}
    {f : α → Outcome Jsx.Attribute}
    {g : α → Option (List (String × Option Value))}
    {xs : List α}
    {ys : List Jsx.Attribute}
    {given : List (List (String × Option Value))}
    (hEach : ∀ x ∈ xs, ∀ y vs, f x = .ok y → g x = some vs →
      y.eval env = some vs)
    (hResolved : xs.mapM f = .ok ys)
    (hRead : xs.mapM g = some given) :
    Jsx.evalAttributes ys env = some given.flatten := by
  induction xs generalizing ys given with
  | nil =>
      cases hResolved
      cases hRead
      rw [List.reverse_nil, Jsx.evalAttributes]
      rfl
  | cons x xs ih =>
      rcases mapM_eq_ok_cons hResolved with
        ⟨y, rest, hFirst, hRest, hList⟩
      subst hList
      rw [List.mapM_cons] at hRead
      rcases Option.bind_eq_some_iff.mp hRead with
        ⟨v, hValue, hRead⟩
      rcases Option.bind_eq_some_iff.mp hRead with
        ⟨others, hOthers, hRead⟩
      cases hRead
      have hThose := fun x hMember =>
        hEach x (List.mem_cons_of_mem _ hMember)
      rw [Jsx.evalAttributes,
        hEach x List.mem_cons_self y v hFirst hValue,
        ih hThose hRest hOthers]
      rfl

------------------------------------------------------------
-- Blocks
------------------------------------------------------------

/-
  A resolved body renders as the body does, in an
  environment.
-/
def KeepsBody
    (config : Config)
    (env : Env)
    (block : Template.Block)
    (body : Unit → Outcome Jsx.Expr) : Prop :=
  ∀ x nodes, body () = .ok x →
    block.render config env = some nodes →
    x.render env = some (Rendering.merge nodes)

/- A body that was not written renders to nothing. -/
theorem render_of_not_isPresent
    {block : Template.Block}
    (config : Config)
    (env : Env)
    (hAbsent : ¬ block.IsPresent) :
    block.render config env = some [] := by
  cases block with
  | absent => rw [Template.Block.render]
  | present body params chained span =>
      exact absurd trivial hAbsent

/- A missing `else` becomes a value without nodes. -/
theorem inverseOrNull_render
    {config : Config}
    {env : Env}
    {b : Template.BlockStatement}
    {inverse : Unit → Outcome Jsx.Expr}
    {x : Jsx.Expr}
    {nodes : List Rendering.Node}
    (hInverse : KeepsBody config env b.inverse inverse)
    (hResolved : inverseOrNull b inverse = .ok x)
    (hRender : b.inverse.render config env = some nodes) :
    x.render env = some (Rendering.merge nodes) := by
  unfold inverseOrNull at hResolved
  by_cases hPresent : b.inverse.IsPresent
  · rw [if_pos hPresent] at hResolved
    exact hInverse x nodes hResolved hRender
  · rw [if_neg hPresent] at hResolved
    cases hResolved
    rw [render_of_not_isPresent config env hPresent] at hRender
    cases hRender
    exact Jsx.render_null env

/-
  A resolved conditional block renders as the body that its
  test picks: the `else` body when the test counts as true
  and the block negates it, or neither.
-/
theorem conditionalBlock_render
    {config : Config}
    {depth : Nat}
    {negate : Bool}
    {bound : List String}
    {env : Env}
    {b : Template.BlockStatement}
    {program inverse : Unit → Outcome Jsx.Expr}
    {param : Template.Expr}
    {x : Jsx.Expr}
    {v : Value}
    {nodes : List Rendering.Node}
    (hUses :
      Uncaptured
        (Template.paramUses bound [] b.invocation.params))
    (hUndefined : MeansUndefined bound env)
    (hProgram : KeepsBody config env b.program program)
    (hInverse : KeepsBody config env b.inverse inverse)
    (hBlock :
      conditionalBlock config depth negate b program inverse =
        .ok x)
    (hParams : b.invocation.params = [param])
    (hRead : param.read env = some v)
    (hRender :
      (if v.truthy = negate then
        b.inverse.render config env
      else
        b.program.render config env) = some nodes) :
    x.render env = some (Rendering.merge nodes) := by
  rcases conditionalBlock_eq_ok hBlock with
    ⟨param', test, consequent, alternate, hParams', hTest,
      hConsequent, hAlternate, hExpr⟩
  rw [hParams] at hParams' hUses
  cases hParams'
  rw [Template.paramUses, uncaptured_append] at hUses
  have hValue := expression_eval hUses.1 hUndefined hTest hRead
  have hPicked :
      (if v.truthy = negate then
        alternate
      else
        consequent).render env =
          some (Rendering.merge nodes) := by
    by_cases hElse : v.truthy = negate
    · rw [if_pos hElse] at hRender ⊢
      exact inverseOrNull_render hInverse hAlternate hRender
    · rw [if_neg hElse] at hRender ⊢
      exact hProgram consequent nodes hConsequent hRender
  cases negate with
  | true =>
      rw [hExpr]
      exact Jsx.render_conditional hValue hPicked
  | false =>
      rw [hExpr]
      apply Jsx.render_conditional hValue
      cases hTruthy : v.truthy with
      | true =>
          rw [hTruthy] at hPicked
          exact hPicked
      | false =>
          rw [hTruthy] at hPicked
          exact hPicked

/-
  A resolved `each` renders its body for every item, and its
  `else` body if there are none.
-/
theorem eachBlock_render
    {config : Config}
    {depth : Nat}
    {bound : List String}
    {env : Env}
    {b : Template.BlockStatement}
    {program inverse : Unit → Outcome Jsx.Expr}
    {param : Template.Expr}
    {x : Jsx.Expr}
    {items : List Value}
    {nodes : List Rendering.Node}
    (hUses :
      Uncaptured
        (Template.paramUses bound ["map"] b.invocation.params))
    (hUndefined : MeansUndefined bound env)
    (hProgram : ∀ values,
      KeepsBody config (env.bind b.program.blockParams values)
        b.program program)
    (hInverse : KeepsBody config env b.inverse inverse)
    (hBlock :
      eachBlock config depth b program inverse = .ok x)
    (hParams : b.invocation.params = [param])
    (hRead : param.read env = some (.list items))
    (hRender :
      (if items = [] then
        b.inverse.render config env
      else
        Template.renderItems items fun values =>
          b.program.render config
            (env.bind b.program.blockParams values)) =
        some nodes) :
    x.render env = some (Rendering.merge nodes) := by
  rcases eachBlock_eq_ok hBlock with
    ⟨param', list, body, hParams', hList, hBody, hExpr⟩
  rw [hParams] at hParams' hUses
  cases hParams'
  rw [Template.paramUses, uncaptured_append] at hUses
  have hValue := expression_eval hUses.1 hUndefined hList hRead
  -- Also of no items: the body is then mapped over nothing.
  have hMapped : ∀ rendered,
      Template.renderItems items (fun values =>
          b.program.render config
            (env.bind b.program.blockParams values)) =
        some rendered →
      (Jsx.Expr.call (list.append "map")
          [.arrow b.program.blockParams body]).render env =
        some (Rendering.merge rendered) := by
    intro rendered hItems
    exact Jsx.render_map hValue
      (fun values nodes => hProgram values body nodes hBody)
      hItems
  rcases hExpr with ⟨_, other, hOther, hExpr⟩ | ⟨hAbsent, hExpr⟩
  · rw [hExpr]
    apply Jsx.render_conditional (Jsx.eval_length hValue)
    rw [Rendering.truthy_ofCount]
    by_cases hEmpty : items = []
    · rw [if_pos hEmpty] at hRender
      subst hEmpty
      exact hInverse other nodes hOther hRender
    · rw [if_neg hEmpty] at hRender
      have hCount : items.length ≠ 0 :=
        fun h => hEmpty (List.length_eq_zero_iff.mp h)
      rw [decide_eq_true hCount, if_pos rfl]
      exact hMapped nodes hRender
  · rw [hExpr]
    by_cases hEmpty : items = []
    · rw [if_pos hEmpty,
        render_of_not_isPresent config env hAbsent] at hRender
      cases hRender
      subst hEmpty
      exact hMapped [] rfl
    · rw [if_neg hEmpty] at hRender
      exact hMapped nodes hRender

/- A resolved `let` renders its body with the names bound. -/
theorem letBlock_render
    {config : Config}
    {depth : Nat}
    {bound : List String}
    {env : Env}
    {b : Template.BlockStatement}
    {program : Unit → Outcome Jsx.Expr}
    {x : Jsx.Expr}
    {vs : List Value}
    {nodes : List Rendering.Node}
    (hUses :
      Uncaptured
        (Template.paramUses bound [] b.invocation.params))
    (hUndefined : MeansUndefined bound env)
    (hProgram : ∀ values,
      KeepsBody config (env.bind b.program.blockParams values)
        b.program program)
    (hBlock : letBlock config depth b program = .ok x)
    (hRead :
      b.invocation.params.mapM (Template.Expr.read env) =
        some vs)
    (hRender :
      b.program.render config
          (env.bind b.program.blockParams vs) =
        some nodes) :
    x.render env = some (Rendering.merge nodes) := by
  rcases letBlock_eq_ok hBlock with
    ⟨arguments, body, hArguments, hBody, hExpr⟩
  rw [hExpr]
  apply Jsx.render_call_arrow
    (expressions_eval hUses hUndefined hArguments hRead)
  exact hProgram vs body nodes hBody hRender

/-
  A resolved block renders as the block does. Its body may
  bind more names, and is then rendered with them bound.
-/
theorem standardBlock_render
    {config : Config}
    {depth : Nat}
    {bound : List String}
    {env : Env}
    {b : Template.BlockStatement}
    {program inverse : Unit → Outcome Jsx.Expr}
    {x : Jsx.Expr}
    {nodes : List Rendering.Node}
    (hUses : Uncaptured (b.uses bound))
    (hUndefined : MeansUndefined bound env)
    (hProgram : ∀ names values,
      Uncaptured (b.program.uses (names ++ bound)) →
        KeepsBody config (env.bind names values) b.program
          program)
    (hInverse : Uncaptured (b.inverse.uses bound) →
      KeepsBody config env b.inverse inverse)
    (hBlock :
      standardBlock config depth b program inverse = .ok x)
    (hRender : b.render config env = some nodes) :
    x.render env = some (Rendering.merge nodes) := by
  rcases b with ⟨i, first, second, span⟩
  unfold standardBlock at hBlock
  rw [blockForm_eq] at hBlock
  rw [Template.BlockStatement.render] at hRender
  rw [Template.BlockStatement.uses] at hUses
  dsimp only at hBlock hRender
  by_cases hIf : i.keyword = "if"
  · rw [if_pos hIf] at hBlock hRender hUses
    rw [uncaptured_append, uncaptured_append] at hUses
    split at hRender
    · rename_i param hParams
      rcases Option.bind_eq_some_iff.mp hRender with
        ⟨v, hRead, hRender⟩
      apply conditionalBlock_render hUses.1.1 hUndefined
        (hProgram [] [] hUses.1.2) (hInverse hUses.2) hBlock
        hParams hRead
      rw [← hRender]
      cases v.truthy with
      | true => rfl
      | false => rfl
    · cases hRender
  rw [if_neg hIf] at hBlock hRender hUses
  by_cases hUnless : i.keyword = "unless"
  · rw [if_pos hUnless] at hBlock hRender hUses
    rw [uncaptured_append, uncaptured_append] at hUses
    split at hRender
    · rename_i param hParams
      rcases Option.bind_eq_some_iff.mp hRender with
        ⟨v, hRead, hRender⟩
      exact conditionalBlock_render hUses.1.1 hUndefined
        (hProgram [] [] hUses.2) (hInverse hUses.1.2) hBlock
        hParams hRead hRender
    · cases hRender
  rw [if_neg hUnless] at hBlock hRender hUses
  by_cases hEach : i.keyword = "each"
  · rw [if_pos hEach] at hBlock hRender hUses
    rw [uncaptured_append, uncaptured_append,
      uncaptured_append] at hUses
    rcases hUses with ⟨⟨_, hList, hFirst⟩, hSecond⟩
    have hBound := fun values =>
      hProgram first.blockParams values hFirst
    split at hRender
    · rename_i param hParams
      rcases Option.bind_eq_some_iff.mp hRender with
        ⟨v, hRead, hRender⟩
      split at hRender
      · apply eachBlock_render hList hUndefined hBound
          (hInverse hSecond) hBlock hParams hRead
        rw [if_pos rfl]
        exact hRender
      · rename_i items hSome
        apply eachBlock_render hList hUndefined hBound
          (hInverse hSecond) hBlock hParams hRead
        rw [if_neg hSome]
        exact hRender
      · cases hRender
    · cases hRender
  rw [if_neg hEach] at hBlock hRender hUses
  by_cases hLet : i.keyword = "let" ∨ i.keyword = "with"
  · rw [if_pos hLet] at hBlock hRender hUses
    rw [uncaptured_append] at hUses
    rcases Option.bind_eq_some_iff.mp hRender with
      ⟨vs, hRead, hRender⟩
    exact letBlock_render hUses.2 hUndefined
      (fun values => hProgram first.blockParams values hUses.1)
      hBlock hRead hRender
  · rw [if_neg hLet] at hRender
    cases hRender

------------------------------------------------------------
-- Statements
------------------------------------------------------------

/-
  A value in braces renders as the value that was read.
-/
theorem mustache_render
    {config : Config}
    {depth : Nat}
    {bound : List String}
    {env : Env}
    {m : Template.Mustache}
    {x : Jsx.Expr}
    {nodes : List Rendering.Node}
    (hUses : Uncaptured (m.uses bound))
    (hUndefined : MeansUndefined bound env)
    (hMustache : mustache config depth m = .ok x)
    (hRender :
      (Template.Statement.mustache m).render config env =
        some nodes) :
    x.render env = some (Rendering.merge nodes) := by
  rw [Template.Statement.render] at hRender
  rcases Option.bind_eq_some_iff.mp hRender with
    ⟨v, hRead, hNodes⟩
  exact Jsx.Expr.render_eq_some.mpr
    ⟨v, nodes, mustache_eval hUses hUndefined hMustache hRead,
      hNodes, rfl⟩

/-
  A resolved element is the element, given that its children
  are resolved to what they render to.
-/
theorem standardElement_eval
    {config : Config}
    {depth : Nat}
    {bound : List String}
    {env : Env}
    {el : Template.Element}
    {children : Unit → Outcome (List Jsx.Child)}
    {body : Unit → Outcome Jsx.Expr}
    {m : Jsx.Markup}
    {nodes : List Rendering.Node}
    (hUses : Uncaptured (el.uses bound))
    (hUndefined : MeansUndefined bound env)
    (hChildren :
      Uncaptured (Template.bodyUses bound el.children) →
        ∀ cs kids, children () = .ok cs →
          Template.renderAll config el.children env = some kids →
            Jsx.renderChildren env cs =
              some (Rendering.merge kids))
    (hElement :
      standardElement config depth el children body = .ok m)
    (hRender : el.render config env = some nodes) :
    m.eval env = some nodes := by
  rcases standardElement_eq_ok hElement with
    ⟨attributes, events, cs, closing, hAttributes, hEvents,
      hKids, hMarkup⟩
  rcases el with
    ⟨tag, selfClosing, params, given, modifiers, comments,
      statements, span⟩
  cases params with
  | cons name names =>
      rw [Template.Element.render] at hRender
      cases hRender
  | nil =>
      rw [Template.Element.uses, uncaptured_append,
        uncaptured_append] at hUses
      rcases hUses with ⟨⟨hOwnUses, hEventUses⟩, hBodyUses⟩
      rw [Template.Element.render] at hRender
      rcases Option.bind_eq_some_iff.mp hRender with
        ⟨read, hRead, hRender⟩
      rcases Option.bind_eq_some_iff.mp hRender with
        ⟨handlers, hHandlers, hRender⟩
      rcases Option.bind_eq_some_iff.mp hRender with
        ⟨kids, hRenderKids, hRender⟩
      cases hRender
      rcases Jsx.renderChildren_eq_some.mp
          (hChildren hBodyUses cs kids hKids hRenderKids) with
        ⟨own, hOwn, hMerge⟩
      have hGiven :=
        mapM_evalAttributes
          (fun a hMember _ _ =>
            attributeOf_eval (hOwnUses.of_mem hMember) hUndefined)
          hAttributes hRead
      have hHandled :=
        mapM_evalAttributes
          (fun m hMember _ _ =>
            modifier_eval (hEventUses.of_mem hMember) hUndefined)
          hEvents hHandlers
      rw [hMarkup, Jsx.Markup.eval,
        Jsx.evalAttributes_append hGiven hHandled, hOwn]
      dsimp only [Option.bind_eq_bind, Option.bind_some]
      rw [hMerge]
      rfl

mutual

/-
  A statement renders as its value does, and as its children
  do. By recursion on the tree, in every environment, since
  blocks render their bodies in other environments.
-/
theorem statement_render
    {config : Config}
    (s : Template.Statement)
    (bound : List String)
    (env : Env)
    (nodes : List Rendering.Node)
    (hUses : Uncaptured (s.uses bound))
    (hUndefined : MeansUndefined bound env)
    (hRender : s.render config env = some nodes) :
    (∀ depth x,
        value (Setup.standard config) depth s = .ok x →
          x.render env = some (Rendering.merge nodes)) ∧
      (∀ depth cs,
        markupChildren (Setup.standard config) depth s =
            .ok cs →
          Jsx.renderChildren env cs =
            some (Rendering.merge nodes)) := by
  cases s with
  | text run =>
      rw [Template.Statement.render] at hRender
      cases hRender
      constructor
      · intro depth x hValue
        rw [value] at hValue
        cases hValue
        exact Jsx.render_string env run.chars
      · intro depth cs hChildren
        rw [markupChildren] at hChildren
        cases hChildren
        exact Jsx.renderChildren_textChildren env run.chars
  | mustache m =>
      rw [Template.Statement.uses] at hUses
      constructor
      · intro depth x hValue
        rw [value] at hValue
        exact mustache_render hUses hUndefined hValue hRender
      · intro depth cs hChildren
        rw [markupChildren] at hChildren
        rcases bind_eq_ok hChildren with
          ⟨x, hValue, hChildren⟩
        cases hChildren
        exact Jsx.renderChildren_container
          (mustache_render hUses hUndefined hValue hRender)
  | element e =>
      rw [Template.Statement.uses] at hUses
      rw [Template.Statement.render] at hRender
      have hElement :=
        element_render e bound env nodes hUses hUndefined hRender
      constructor
      · intro depth x hValue
        rw [value] at hValue
        rcases bind_eq_ok hValue with ⟨m, hMarkup, hValue⟩
        cases hValue
        refine Jsx.Expr.render_eq_some.mpr
          ⟨.markup nodes, nodes, ?_, ?_, rfl⟩
        · rw [Jsx.Expr.eval, hElement depth m hMarkup]
          rfl
        · rw [Value.nodes]
      · intro depth cs hChildren
        rw [markupChildren] at hChildren
        rcases bind_eq_ok hChildren with
          ⟨m, hMarkup, hChildren⟩
        cases hChildren
        apply Jsx.renderChildren_single
        rw [Jsx.Child.eval, hElement depth m hMarkup]
  | block b =>
      rw [Template.Statement.uses] at hUses
      rw [Template.Statement.render] at hRender
      have hBlock :=
        block_render b bound env nodes hUses hUndefined hRender
      constructor
      · intro depth x hValue
        rw [value] at hValue
        exact hBlock depth x hValue
      · intro depth cs hChildren
        rw [markupChildren] at hChildren
        rcases bind_eq_ok hChildren with
          ⟨x, hValue, hChildren⟩
        cases hChildren
        exact Jsx.renderChildren_container
          (hBlock depth x hValue)
  | comment c
  | mustacheComment c =>
      rw [Template.Statement.render] at hRender
      cases hRender
      constructor
      · intro depth x hValue
        rw [value] at hValue
        cases hValue
      · intro depth cs hChildren
        rw [markupChildren] at hChildren
        cases hChildren
        apply Jsx.renderChildren_single
        rw [Jsx.Child.eval]
  | modifier m =>
      rw [Template.Statement.render] at hRender
      cases hRender
  | concat c =>
      rw [Template.Statement.render] at hRender
      cases hRender
  | absent =>
      rw [Template.Statement.render] at hRender
      cases hRender

/- An element is resolved to markup with its node. -/
theorem element_render
    {config : Config}
    (e : Template.Element)
    (bound : List String)
    (env : Env)
    (nodes : List Rendering.Node)
    (hUses : Uncaptured (e.uses bound))
    (hUndefined : MeansUndefined bound env)
    (hRender : e.render config env = some nodes) :
    ∀ depth m,
      element (Setup.standard config) depth e = .ok m →
        m.eval env = some nodes := by
  intro depth m hElement
  rcases e with
    ⟨tag, selfClosing, params, attributes, modifiers,
      comments, body, span⟩
  rw [element] at hElement
  refine standardElement_eval hUses hUndefined ?_ hElement
    hRender
  intro hBody cs kids hChildren hKids
  exact (all_render body bound env kids hBody hUndefined
    hKids).1 depth cs hChildren

/- A block renders as the expression it is resolved to. -/
theorem block_render
    {config : Config}
    (b : Template.BlockStatement)
    (bound : List String)
    (env : Env)
    (nodes : List Rendering.Node)
    (hUses : Uncaptured (b.uses bound))
    (hUndefined : MeansUndefined bound env)
    (hRender : b.render config env = some nodes) :
    ∀ depth x,
      block (Setup.standard config) depth b = .ok x →
        x.render env = some (Rendering.merge nodes) := by
  intro depth x hBlock
  rcases b with ⟨i, program, inverse, span⟩
  rw [block] at hBlock
  refine standardBlock_render hUses hUndefined ?_ ?_ hBlock
    hRender
  · intro names values hProgram y kids hBody hKids
    exact body_render program (names ++ bound)
      (env.bind names values) kids hProgram
      (hUndefined.bind names values) hKids depth y hBody
  · intro hInverse y kids hBody hKids
    exact body_render inverse bound env kids hInverse
      hUndefined hKids depth y hBody

/- The body of a block renders as its expression does. -/
theorem body_render
    {config : Config}
    (b : Template.Block)
    (bound : List String)
    (env : Env)
    (nodes : List Rendering.Node)
    (hUses : Uncaptured (b.uses bound))
    (hUndefined : MeansUndefined bound env)
    (hRender : b.render config env = some nodes) :
    ∀ depth x,
      branch (Setup.standard config) depth b = .ok x →
        x.render env = some (Rendering.merge nodes) := by
  intro depth x hBranch
  cases b with
  | absent =>
      rw [Template.Block.render] at hRender
      rw [branch] at hBranch
      cases hRender
      cases hBranch
      exact Jsx.render_fragment (Jsx.renderChildren_nil env)
  | present body params chained span =>
      rw [Template.Block.render] at hRender
      rw [Template.Block.uses] at hUses
      rw [branch] at hBranch
      exact (all_render body bound env nodes hUses hUndefined
        hRender).2 depth x hBranch

/-
  Statements render as their children do, and as the one
  expression that they form.
-/
theorem all_render
    {config : Config}
    (body : List Template.Statement)
    (bound : List String)
    (env : Env)
    (nodes : List Rendering.Node)
    (hUses : Uncaptured (Template.bodyUses bound body))
    (hUndefined : MeansUndefined bound env)
    (hRender :
      Template.renderAll config body env = some nodes) :
    (∀ depth cs,
        children (Setup.standard config) depth body = .ok cs →
          Jsx.renderChildren env cs =
            some (Rendering.merge nodes)) ∧
      (∀ depth x,
        root (Setup.standard config) depth body = .ok x →
          x.render env = some (Rendering.merge nodes)) := by
  cases body with
  | nil =>
      rw [Template.renderAll] at hRender
      cases hRender
      constructor
      · intro depth cs hChildren
        rw [children] at hChildren
        cases hChildren
        exact Jsx.renderChildren_nil env
      · intro depth x hRoot
        rw [root] at hRoot
        cases hRoot
        exact Jsx.render_fragment (Jsx.renderChildren_nil env)
  | cons s rest =>
      rw [Template.bodyUses, uncaptured_append] at hUses
      rw [Template.renderAll] at hRender
      rcases Option.bind_eq_some_iff.mp hRender with
        ⟨own, hOwn, hRender⟩
      rcases Option.bind_eq_some_iff.mp hRender with
        ⟨others, hOthers, hRender⟩
      cases hRender
      have hFirst :=
        statement_render s bound env own hUses.1 hUndefined
          hOwn
      have hRest :=
        all_render rest bound env others hUses.2 hUndefined
          hOthers
      have hChildren : ∀ depth cs,
          children (Setup.standard config) depth (s :: rest) =
              .ok cs →
            Jsx.renderChildren env cs =
              some (Rendering.merge (own ++ others)) := by
        intro depth cs hAll
        rcases children_cons_eq_ok hAll with
          ⟨first, after, hFirstOk, hAfterOk, hList⟩
        rw [hList]
        exact Jsx.renderChildren_append
          (hFirst.2 (depth + 1) first hFirstOk)
          (hRest.1 depth after hAfterOk)
      refine ⟨hChildren, ?_⟩
      intro depth x hRoot
      rcases root_eq_ok hRoot with
        ⟨single, hBody, hValue⟩ | ⟨cs, hAll, hExpr⟩
      · cases hBody
        rw [Template.renderAll] at hOthers
        cases hOthers
        rw [List.append_nil]
        exact hFirst.1 (depth + 1) x hValue
      · rw [hExpr]
        exact Jsx.render_fragment (hChildren depth cs hAll)

end

------------------------------------------------------------
-- Templates
------------------------------------------------------------

/-
  Whatever a template renders to, the tree it is resolved to
  renders to the same nodes, if no literal `undefined` of the
  template stands in a body that binds the name.
-/
theorem resolve_render
    (config : Config)
    (env : Env)
    (t : Template)
    (e : Jsx.Expr)
    (nodes : List Rendering.Node)
    (hAccepted :
      (Setup.standard config).resolve (some t) = .ok e)
    (hUses : Uncaptured t.uses)
    (hUndefined : env undefinedName = .undefined)
    (hRender : t.render config env = some nodes) :
    e.render env = some nodes := by
  unfold Template.render at hRender
  rcases Option.bind_eq_some_iff.mp hRender with
    ⟨own, hOwn, hMerge⟩
  have hRoot :=
    (all_render t.body [] env own hUses (fun _ => hUndefined)
      hOwn).2 0 e hAccepted
  cases hMerge
  exact hRoot

/-
  The items of a list, each after a brace, or `none`. The
  index of an item is bound to `undefined`, and the literal
  stands after the block.
-/
def bracedItems : Template :=
  ⟨[.block
    ⟨⟨.path ⟨"each", "each", [], none⟩,
        [.path ⟨"items", "items", [], none⟩], .empty⟩,
      .present
        [.text ⟨"\x7b", none⟩,
          .mustache
            ⟨⟨.path ⟨"item", "item", [], none⟩, [], .empty⟩,
              false, none⟩]
        ["item", "undefined"] false none,
      .present [.text ⟨"none", none⟩] [] false none,
      none⟩,
    .mustache ⟨⟨.undefined none, [], .empty⟩, false, none⟩],
    [], none⟩

/- The items are rendered alike from the tree. -/
theorem resolve_render_bracedItems :
    ∃ (env : Env) (e : Jsx.Expr),
      env "items" = .list [.string "a", .string "b"] ∧
      (Setup.standard .default).resolve (some bracedItems) =
        .ok e ∧
      undefinedName ∈ bracedItems.boundNames ∧
      Uncaptured bracedItems.uses ∧
      env undefinedName = .undefined ∧
      bracedItems.render .default env =
        some [.text "\x7ba\x7bb"] ∧
      e.render env = some [.text "\x7ba\x7bb"] := by
  let env : Env := fun name =>
    if name = "items" then
      .list [.string "a", .string "b"]
    else
      .undefined
  refine ⟨env, _, rfl, rfl, by decide, by decide, rfl, rfl, ?_⟩
  exact resolve_render .default env bracedItems _ _ rfl
    (by decide) rfl rfl

/-
  A block that takes `undefined` as a name captures what
  stands for the literal: the template renders to nothing,
  its tree to the bound value.
-/
theorem undefined_captured :
    ∃ (t : Template) (e : Jsx.Expr),
      t.body = [.block
        ⟨⟨.path ⟨"let", "let", [], none⟩,
            [.string "a" none], .empty⟩,
          .present
            [.mustache ⟨⟨.undefined none, [], .empty⟩, false,
              none⟩]
            ["undefined"] false none,
          .absent, none⟩] ∧
      (Setup.standard .default).resolve (some t) = .ok e ∧
      t.render .default (fun _ => .undefined) = some [] ∧
      e.render (fun _ => .undefined) = some [.text "a"] := by
  exact ⟨⟨_, [], none⟩, _, rfl, rfl, rfl, rfl⟩

end Resolve

end TemplateJsx
