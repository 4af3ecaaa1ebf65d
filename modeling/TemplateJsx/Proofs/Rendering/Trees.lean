import TemplateJsx.Proofs.Rendering.Meaning

/-
  How trees evaluate and render: the laws that the proof of
  preservation uses in place of the evaluator itself. Texts
  are divided in different ways by different trees, so nodes
  are compared after merging.

  Key definitions include:
    * `Jsx.renderChildren`

  Main declarations:
    * `Jsx.eval_extend`
    * `Jsx.render_conditional`
    * `Jsx.render_call_arrow`
    * `Jsx.render_map`
    * `Jsx.renderChildren_append`
    * `Jsx.renderChildren_textChildren`
-/

------------------------------------------------------------
-- Paths and Attributes
------------------------------------------------------------

namespace TemplateJsx

open Rendering (Value Env)

namespace Jsx

/- A path is evaluated by following its names. -/
theorem eval_extend
    {env : Env}
    {base : Expr}
    {v : Value}
    (names : List String)
    (hBase : base.eval env = some v) :
    (base.extend names).eval env = some (v.follow names) := by
  induction names generalizing base v with
  | nil => exact hBase
  | cons name names ih =>
      apply ih
      unfold Expr.append
      rw [Expr.eval, hBase]
      rfl

/- Attributes are evaluated part by part. -/
theorem evalAttributes_append
    {env : Env}
    {first second : List Attribute}
    {given handlers : List (String × Option Value)}
    (hFirst : evalAttributes first env = some given)
    (hSecond : evalAttributes second env = some handlers) :
    evalAttributes (first ++ second) env =
      some (given ++ handlers) := by
  induction first generalizing given with
  | nil =>
      rw [evalAttributes] at hFirst
      cases hFirst
      exact hSecond
  | cons a rest ih =>
      rw [evalAttributes] at hFirst
      rcases Option.bind_eq_some_iff.mp hFirst with
        ⟨v, hValue, hFirst⟩
      rcases Option.bind_eq_some_iff.mp hFirst with
        ⟨others, hOthers, hFirst⟩
      cases hFirst
      rw [List.cons_append, evalAttributes, hValue,
        ih hOthers]
      exact congrArg some (List.append_assoc v others _).symm

------------------------------------------------------------
-- Rendering Trees
------------------------------------------------------------

/- The merged nodes of children. -/
def renderChildren
    (env : Env)
    (cs : List Child) : Option (List Rendering.Node) := do
  let nodes ← evalChildren cs env
  return Rendering.merge nodes

/- An expression renders to the nodes of its value. -/
theorem Expr.render_eq_some
    {env : Env}
    {e : Expr}
    {nodes : List Rendering.Node} :
    e.render env = some nodes ↔
      ∃ v own, e.eval env = some v ∧ v.nodes = some own ∧
        Rendering.merge own = nodes := by
  unfold Expr.render
  constructor
  · intro hRender
    rcases Option.bind_eq_some_iff.mp hRender with
      ⟨v, hValue, hRender⟩
    rcases Option.bind_eq_some_iff.mp hRender with
      ⟨own, hOwn, hRender⟩
    exact ⟨v, own, hValue, hOwn, Option.some.inj hRender⟩
  · rintro ⟨v, own, hValue, hOwn, hMerge⟩
    rw [hValue, Option.bind_eq_bind, Option.bind_some, hOwn]
    exact congrArg some hMerge

/- Children render to the nodes of them all. -/
theorem renderChildren_eq_some
    {env : Env}
    {cs : List Child}
    {nodes : List Rendering.Node} :
    renderChildren env cs = some nodes ↔
      ∃ own, evalChildren cs env = some own ∧
        Rendering.merge own = nodes := by
  unfold renderChildren
  constructor
  · intro hRender
    rcases Option.bind_eq_some_iff.mp hRender with
      ⟨own, hOwn, hRender⟩
    exact ⟨own, hOwn, Option.some.inj hRender⟩
  · rintro ⟨own, hOwn, hMerge⟩
    rw [hOwn]
    exact congrArg some hMerge

/- The nodes of children in a row. -/
theorem evalChildren_append
    {env : Env}
    {first second : List Child}
    {ms ns : List Rendering.Node}
    (hFirst : evalChildren first env = some ms)
    (hSecond : evalChildren second env = some ns) :
    evalChildren (first ++ second) env = some (ms ++ ns) := by
  induction first generalizing ms with
  | nil =>
      rw [evalChildren] at hFirst
      cases hFirst
      exact hSecond
  | cons c rest ih =>
      rw [evalChildren] at hFirst
      rcases Option.bind_eq_some_iff.mp hFirst with
        ⟨own, hOwn, hFirst⟩
      rcases Option.bind_eq_some_iff.mp hFirst with
        ⟨others, hOthers, hFirst⟩
      cases hFirst
      rw [List.cons_append, evalChildren, hOwn, ih hOthers]
      exact congrArg some (List.append_assoc own others _).symm

/- No children render to nothing. -/
theorem renderChildren_nil
    (env : Env) :
    renderChildren env [] = some [] := by
  unfold renderChildren
  rw [evalChildren]
  rfl

/- Children in a row render to their merged nodes. -/
theorem renderChildren_append
    {env : Env}
    {first second : List Child}
    {ms ns : List Rendering.Node}
    (hFirst :
      renderChildren env first = some (Rendering.merge ms))
    (hSecond :
      renderChildren env second = some (Rendering.merge ns)) :
    renderChildren env (first ++ second) =
      some (Rendering.merge (ms ++ ns)) := by
  rcases renderChildren_eq_some.mp hFirst with
    ⟨own, hOwn, hMerge⟩
  rcases renderChildren_eq_some.mp hSecond with
    ⟨own', hOwn', hMerge'⟩
  exact renderChildren_eq_some.mpr
    ⟨own ++ own', evalChildren_append hOwn hOwn',
      Rendering.merge_append_congr hMerge hMerge'⟩

/- One child renders to its own nodes. -/
theorem renderChildren_single
    {env : Env}
    {c : Child}
    {own : List Rendering.Node}
    (hChild : c.eval env = some own) :
    renderChildren env [c] = some (Rendering.merge own) := by
  refine renderChildren_eq_some.mpr ⟨own, ?_, rfl⟩
  rw [evalChildren, hChild, evalChildren]
  exact congrArg some (List.append_nil own)

/- A container renders as its expression. -/
theorem renderChildren_container
    {env : Env}
    {e : Expr}
    {nodes : List Rendering.Node}
    (hRender : e.render env = some nodes) :
    renderChildren env [.container e] = some nodes := by
  rcases Expr.render_eq_some.mp hRender with
    ⟨v, own, hValue, hOwn, hMerge⟩
  rw [← hMerge]
  apply renderChildren_single
  cases e with
  | empty comment =>
      rw [Expr.eval] at hValue
      cases hValue
  | _ =>
      rw [Child.eval, hValue]
      · exact hOwn
      · intro comment h
        cases h

/- A fragment renders as its children. -/
theorem render_fragment
    {env : Env}
    {cs : List Child}
    {nodes : List Rendering.Node}
    (hRender : renderChildren env cs = some nodes) :
    (Expr.markup (.fragment cs)).render env = some nodes := by
  rcases renderChildren_eq_some.mp hRender with
    ⟨own, hOwn, hMerge⟩
  refine Expr.render_eq_some.mpr
    ⟨.markup own, own, ?_, ?_, hMerge⟩
  · rw [Expr.eval, Markup.eval, hOwn]
    rfl
  · rw [Value.nodes]

/- A conditional renders as the branch that its test picks. -/
theorem render_conditional
    {env : Env}
    {test consequent alternate : Expr}
    {v : Value}
    {nodes : List Rendering.Node}
    (hTest : test.eval env = some v)
    (hRender :
      (if v.truthy then consequent else alternate).render env =
        some nodes) :
    (Expr.conditional test consequent alternate).render env =
      some nodes := by
  rw [← hRender]
  unfold Expr.render
  rw [Expr.eval, hTest]
  cases hTruthy : v.truthy with
  | true => simp [hTruthy]
  | false => simp [hTruthy]

/- A function that is called at once renders as its body. -/
theorem render_call_arrow
    {env : Env}
    {params : List String}
    {body : Expr}
    {arguments : List Expr}
    {vs : List Value}
    {nodes : List Rendering.Node}
    (hArguments : evalArguments arguments env = some vs)
    (hRender : body.render (env.bind params vs) = some nodes) :
    (Expr.call (.arrow params body) arguments).render env =
      some nodes := by
  rcases Expr.render_eq_some.mp hRender with
    ⟨v, own, hValue, hOwn, hMerge⟩
  refine Expr.render_eq_some.mpr ⟨v, own, ?_, hOwn, hMerge⟩
  rw [Expr.eval, hArguments]
  · rw [Option.bind_eq_bind, Option.bind_some, Expr.apply]
    exact hValue
  · intro object property f h
    cases h

/-
  Values made item by item have the nodes that are rendered
  item by item.
-/
theorem mapM_nodes
    {α : Type}
    {f : α → Option Value}
    {g : α → Option (List Rendering.Node)}
    {xs : List α}
    {rendered : List (List Rendering.Node)}
    (hEach : ∀ x nodes, g x = some nodes →
      ∃ v own, f x = some v ∧ v.nodes = some own ∧
        Rendering.merge own = Rendering.merge nodes)
    (hRendered : xs.mapM g = some rendered) :
    ∃ vs own, xs.mapM f = some vs ∧
      Value.listNodes vs = some own ∧
      Rendering.merge own =
        Rendering.merge rendered.flatten := by
  induction xs generalizing rendered with
  | nil =>
      cases hRendered
      exact ⟨[], [], rfl, by rw [Value.listNodes], rfl⟩
  | cons x xs ih =>
      rw [List.mapM_cons] at hRendered
      rcases Option.bind_eq_some_iff.mp hRendered with
        ⟨nodes, hNodes, hRendered⟩
      rcases Option.bind_eq_some_iff.mp hRendered with
        ⟨others, hOthers, hRendered⟩
      cases hRendered
      rcases hEach x nodes hNodes with
        ⟨v, own, hValue, hOwn, hMerge⟩
      rcases ih hOthers with
        ⟨vs, rest, hValues, hRest, hMergeRest⟩
      refine ⟨v :: vs, own ++ rest, ?_, ?_,
        Rendering.merge_append_congr hMerge hMergeRest⟩
      · rw [List.mapM_cons, hValue, hValues]
        rfl
      · rw [Value.listNodes, hOwn, hRest]
        rfl

/-
  A function that is mapped over a list renders as its body
  for every item.
-/
theorem render_map
    {env : Env}
    {list body : Expr}
    {params : List String}
    {items : List Value}
    {item : Env → Option (List Rendering.Node)}
    {nodes : List Rendering.Node}
    (hList : list.eval env = some (.list items))
    (hBody : ∀ values nodes,
      item (env.bind params values) = some nodes →
        body.render (env.bind params values) =
          some (Rendering.merge nodes))
    (hItems :
      Template.renderItems items
          (fun values => item (env.bind params values)) =
        some nodes) :
    (Expr.call (list.append "map") [.arrow params body]).render
        env =
      some (Rendering.merge nodes) := by
  unfold Template.renderItems at hItems
  rcases Option.bind_eq_some_iff.mp hItems with
    ⟨rendered, hRendered, hItems⟩
  cases hItems
  have hEach : ∀ (x : Value × Nat) (nodes : List Rendering.Node),
      item (env.bind params
          [x.1, .number (.ofCount x.2), .list items]) =
        some nodes →
      ∃ v own,
        (Expr.arrow params body).apply env
            [x.1, .number (.ofCount x.2), .list items] =
          some v ∧
        v.nodes = some own ∧
        Rendering.merge own = Rendering.merge nodes := by
    intro x nodes hItem
    rw [Expr.apply]
    exact Expr.render_eq_some.mp (hBody _ nodes hItem)
  rcases mapM_nodes hEach hRendered with
    ⟨vs, own, hValues, hOwn, hMerge⟩
  refine Expr.render_eq_some.mpr
    ⟨.list vs, own, ?_, ?_, hMerge⟩
  · unfold Expr.append
    rw [Expr.eval, if_pos rfl, hList]
    dsimp only [Option.bind_eq_bind, Option.bind_some]
    unfold mapItems
    rw [hValues]
    rfl
  · rw [Value.nodes]
    exact hOwn

/- The test of the length of a list. -/
theorem eval_length
    {env : Env}
    {list : Expr}
    {items : List Value}
    (hList : list.eval env = some (.list items)) :
    (list.append "length").eval env =
      some (.number (.ofCount items.length)) := by
  unfold Expr.append
  rw [Expr.eval, hList]
  rfl

------------------------------------------------------------
-- Texts
------------------------------------------------------------

/-
  A text that is cut at its braces renders to the text that
  remains, continued from the run before it.
-/
theorem renderChildren_textChildrenFrom
    (env : Env)
    (run cs : List Char) :
    renderChildren env (textChildrenFrom run cs) =
      some (Rendering.merge
        [.text (String.ofList (run.reverse ++ cs))]) := by
  induction cs generalizing run with
  | nil =>
      rw [textChildrenFrom, List.append_nil]
      apply renderChildren_single
      rw [Child.eval]
  | cons c rest ih =>
      rw [textChildrenFrom]
      by_cases hBrace : isBrace c = true
      · rw [if_pos hBrace]
        rcases renderChildren_eq_some.mp (ih []) with
          ⟨own, hOwn, hMerge⟩
        refine renderChildren_eq_some.mpr
          ⟨.text (String.ofList run.reverse) ::
            .text c.toString :: own, ?_, ?_⟩
        · unfold braceChild
          rw [evalChildren, Child.eval, evalChildren,
            Child.eval, Expr.eval, hOwn]
          · dsimp only [Option.bind_eq_bind, Option.bind_some]
            rw [Value.nodes]
            rfl
          · intro comment h
            cases h
        · have hText :
              String.ofList (run.reverse ++ c :: rest) =
                String.ofList run.reverse ++
                  (c.toString ++ String.ofList rest) := by
            rw [String.ofList_append, String.ofList_cons]
            rfl
          calc
            Rendering.merge
                (.text (String.ofList run.reverse) ::
                  .text c.toString :: own)
                = Rendering.glue
                    (.text (String.ofList run.reverse))
                    (Rendering.glue (.text c.toString)
                      (Rendering.merge own)) := rfl
            _ = Rendering.merge
                  [.text (String.ofList
                    (run.reverse ++ c :: rest))] := by
              rw [hMerge, hText]
              exact (Rendering.glue_text_append _ _ []).trans
                (congrArg _
                  (Rendering.glue_text_append _ _ [])) |>.symm
      · rw [if_neg hBrace, ih (c :: run)]
        simp

/- The children for raw text render to the text. -/
theorem renderChildren_textChildren
    (env : Env)
    (text : String) :
    renderChildren env (textChildren text) =
      some (Rendering.merge [.text text]) := by
  have hFrom :=
    renderChildren_textChildrenFrom env [] text.toList
  rw [List.reverse_nil, List.nil_append,
    String.ofList_toList] at hFrom
  exact hFrom

/- A string renders to its text. -/
theorem render_string
    (env : Env)
    (text : String) :
    (Expr.string text).render env =
      some (Rendering.merge [.text text]) := by
  refine Expr.render_eq_some.mpr
    ⟨.string text, [.text text], ?_, ?_, rfl⟩
  · rw [Expr.eval]
  · rw [Value.nodes]

/- `null` renders to nothing. -/
theorem render_null
    (env : Env) :
    Expr.null.render env = some [] := by
  refine Expr.render_eq_some.mpr ⟨.null, [], ?_, ?_, rfl⟩
  · rw [Expr.eval]
  · rw [Value.nodes]

end Jsx

end TemplateJsx
