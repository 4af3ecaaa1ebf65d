import TemplateJsx.Proofs.Nesting
import TemplateJsx.Proofs.Resolver.Count

/-
  What a resolver that counts its depth finds out under the
  standard rules is what resolution at that depth finds out.
  It does find it out: room for four requests for each level
  of nesting is enough.

  The induction is on the room. A request is answered with
  the help of lighter ones, where the weight of a request is
  read off the levels of what it asks for.

  Key definitions include:
    * `Resolve.Setup.answer`
    * `Resolve.Request.weight`
    * `Resolve.Yields`
    * `Resolve.Resolver.Agrees`

  Main declarations:
    * `Resolve.run_bind`
    * `Resolve.consultElement_yields`
    * `Resolve.consultBlock_yields`
    * `Resolve.answer_agrees`
    * `Resolve.resolver_agrees`
    * `Resolve.resolver_stateless`
-/

------------------------------------------------------------
-- Dialogues
------------------------------------------------------------

namespace TemplateJsx

namespace Resolve

namespace Dialogue

theorem id_map
    {α : Type}
    (d : Dialogue α) :
    id <$> d = d := by
  induction d with
  | done result => rfl
  | ask request next ih =>
      change Dialogue.ask request _ = _
      congr 1
      funext answer
      exact ih answer

theorem bind_assoc
    {α β γ : Type}
    (d : Dialogue α)
    (f : α → Dialogue β)
    (g : β → Dialogue γ) :
    d >>= f >>= g = d >>= fun a => f a >>= g := by
  induction d with
  | done result => rfl
  | ask request next ih =>
      change Dialogue.ask request _ = Dialogue.ask request _
      congr 1
      funext answer
      exact ih answer

instance : LawfulMonad Dialogue :=
  .mk' Dialogue id_map (fun _ _ => rfl) bind_assoc

end Dialogue

/- A single request is put to the resolver. -/
theorem run_consult
    (self : Resolver)
    (request : Request) :
    (consult request).run self = self request := by
  funext depth
  change Option.bind (self request depth) _ = _
  cases self request depth with
  | none => rfl
  | some found => rfl

/- A rule in two parts is followed part by part. -/
theorem run_bind
    {α β : Type}
    (self : Resolver)
    (rule : Consultation α)
    (next : α → Consultation β) :
    (rule >>= next).run self =
      rule.run self >>= fun a => (next a).run self := by
  have hDialogue : ∀ d : Dialogue (Outcome α),
      (d >>= ExceptT.bindCont next).run self =
        d.run self >>=
          ExceptT.bindCont fun a => (next a).run self := by
    intro d
    induction d with
    | done outcome =>
        cases outcome with
        | error e => rfl
        | ok a => rfl
    | ask request follow ih =>
        funext depth
        change
          Option.bind (self request depth) _ =
            Option.bind (Option.bind (self request depth) _) _
        cases self request depth with
        | none => rfl
        | some found => exact congrFun (ih found.1) found.2
  exact hDialogue rule

------------------------------------------------------------
-- Requests
------------------------------------------------------------

/- The outcome of a request at a depth, without a resolver. -/
def Setup.answer
    (t : Setup)
    (depth : Nat) :
    (request : Request) → Outcome request.Answer
  | .statement s => statement t depth s
  | .child s => child t depth s
  | .children body => children t depth body
  | .root body => root t depth body
  | .concat parts => concat t.config depth parts
  | .expression e => expression t.config depth e
  | .helperCall node => helperCallOf t.config depth node

/-
  The weight of a request, from the levels of what it asks
  for. Among requests for the same levels, one is lighter
  than those it helps to answer.
-/
def Request.weight : Request → Nat
  | .statement s => 4 * s.levels
  | .child s => 4 * s.levels + 1
  | .children body => 4 * Template.statementLevels body + 2
  | .root body => 4 * Template.statementLevels body + 3
  | .concat parts =>
      4 * Template.deepest Template.TextPart.levels parts + 1
  | .expression e => 4 * e.levels
  | .helperCall node =>
      4 * node.invocation?.elim 0
        Template.Invocation.argumentLevels + 1

theorem levels_le_deepest
    {α : Type}
    {levels : α → Nat}
    {as : List α}
    {a : α}
    (hMember : a ∈ as) :
    levels a ≤ Template.deepest levels as := by
  induction hMember with
  | head rest => exact Nat.le_max_left _ _
  | tail b hMember ih =>
      exact Nat.le_trans ih (Nat.le_max_right _ _)

theorem levels_le_exprLevels
    {es : List Template.Expr}
    {e : Template.Expr}
    (hMember : e ∈ es) :
    e.levels ≤ Template.exprLevels es := by
  induction hMember with
  | head rest => exact Nat.le_max_left _ _
  | tail other hMember ih =>
      exact Nat.le_trans ih (Nat.le_max_right _ _)

theorem levels_le_pairLevels
    {pairs : List Template.Pair}
    {pair : Template.Pair}
    (hMember : pair ∈ pairs) :
    pair.value.levels ≤ Template.pairLevels pairs := by
  induction hMember with
  | head rest =>
      rcases pair with ⟨key, value, span⟩
      exact Nat.le_max_left _ _
  | tail other hMember ih =>
      rcases other with ⟨key, value, span⟩
      exact Nat.le_trans ih (Nat.le_max_right _ _)

theorem levels_le_statementLevels
    {body : List Template.Statement}
    {s : Template.Statement}
    (hMember : s ∈ body) :
    s.levels ≤ Template.statementLevels body := by
  induction hMember with
  | head rest => exact Nat.le_max_left _ _
  | tail other hMember ih =>
      exact Nat.le_trans ih (Nat.le_max_right _ _)

------------------------------------------------------------
-- Outcomes of a Count
------------------------------------------------------------

/- The outcome at a depth, which is the depth afterwards. -/
def Yields
    {α : Type}
    (x : Counting α)
    (depth : Nat)
    (outcome : Outcome α) : Prop :=
  x depth = some (outcome, (depth : Int))

namespace Yields

variable {α β : Type}
variable {depth : Nat}

theorem settled
    (outcome : Outcome α) :
    Yields (settled outcome) depth outcome :=
  rfl

theorem pure
    (a : α) :
    Yields (Pure.pure a) depth (.ok a) :=
  rfl

theorem bind
    {x : Counting α}
    {f : α → Counting β}
    {outcome : Outcome α}
    {next : α → Outcome β}
    (hFirst : Yields x depth outcome)
    (hNext : ∀ a, Yields (f a) depth (next a)) :
    Yields (x >>= f) depth (outcome >>= next) := by
  cases outcome with
  | error e => exact bind_of_error hFirst
  | ok a => exact (bind_of_ok hFirst).trans (hNext a)

theorem map
    {x : Counting α}
    {outcome : Outcome α}
    (g : α → β)
    (h : Yields x depth outcome) :
    Yields (x >>= fun a => Pure.pure (g a)) depth
      (outcome >>= fun a => .ok (g a)) :=
  h.bind fun a => pure (g a)

theorem mapM
    {f : α → Counting β}
    {g : α → Outcome β}
    {as : List α}
    (hEach : ∀ a ∈ as, Yields (f a) depth (g a)) :
    Yields (as.mapM f) depth (as.mapM g) := by
  induction as with
  | nil => rfl
  | cons a rest ih =>
      have hRest : ∀ b ∈ rest, Yields (f b) depth (g b) :=
        fun b hMember => hEach b (List.mem_cons_of_mem a hMember)
      rw [List.mapM_cons, List.mapM_cons]
      exact (hEach a List.mem_cons_self).bind fun b =>
        (ih hRest).map (b :: ·)

/- The test on entering a node is the test of its depth. -/
theorem within
    {x : Counting α}
    {outcome : Outcome α}
    (config : Config)
    (node : Template.Node)
    (hBody : Yields x (depth + 1) outcome) :
    Yields (within config node x) depth
      (enter config depth node >>= fun _ => outcome) := by
  unfold enter
  by_cases hDeep :
      0 < config.maxDepth ∧ config.maxDepth ≤ (depth : Int)
  · rw [if_pos hDeep]
    exact within_of_deep x hDeep
  · rw [if_neg hDeep]
    unfold Yields at hBody
    rw [Int.natCast_add, Int.natCast_one] at hBody
    unfold Yields
    rw [within_of_shallow x hDeep, hBody]
    change some (outcome, (depth : Int) + 1 - 1) = _
    rw [Int.add_sub_cancel]
    rfl

end Yields

/-
  The resolver answers all requests below a weight as they
  are answered without one.
-/
def Resolver.Agrees
    (self : Resolver)
    (config : Config)
    (bound : Nat) : Prop :=
  ∀ request : Request, request.weight < bound →
    ∀ depth : Nat,
      Yields (self request) depth
        ((Setup.standard config).answer depth request)

------------------------------------------------------------
-- Rules for Elements
------------------------------------------------------------

section Agreement

variable {self : Resolver}
variable {config : Config}
variable {bound : Nat}
variable {b : Template.BlockStatement}

theorem consult_yields
    (hSelf : self.Agrees config bound)
    (depth : Nat)
    (request : Request)
    (hWeight : request.weight < bound) :
    Yields ((consult request).run self) depth
      ((Setup.standard config).answer depth request) := by
  rw [run_consult]
  exact hSelf request hWeight depth

section Rules

variable {α β : Type}
variable {depth : Nat}

theorem Yields.consultBind
    {rule : Consultation α}
    {next : α → Consultation β}
    {outcome : Outcome α}
    {follow : α → Outcome β}
    (hFirst : Yields (rule.run self) depth outcome)
    (hNext : ∀ a,
      Yields ((next a).run self) depth (follow a)) :
    Yields ((rule >>= next).run self) depth
      (outcome >>= follow) := by
  rw [run_bind]
  exact hFirst.bind hNext

theorem Yields.consultMap
    {rule : Consultation α}
    {outcome : Outcome α}
    (g : α → β)
    (h : Yields (rule.run self) depth outcome) :
    Yields ((rule >>= fun a => Pure.pure (g a)).run self) depth
      (outcome >>= fun a => .ok (g a)) :=
  h.consultBind fun _ => rfl

theorem Yields.consultMapM
    {rule : α → Consultation β}
    {g : α → Outcome β}
    {as : List α}
    (hEach : ∀ a ∈ as,
      Yields ((rule a).run self) depth (g a)) :
    Yields ((as.mapM rule).run self) depth (as.mapM g) := by
  induction as with
  | nil => rfl
  | cons a rest ih =>
      have hRest : ∀ b ∈ rest,
          Yields ((rule b).run self) depth (g b) :=
        fun b hMember => hEach b (List.mem_cons_of_mem a hMember)
      rw [List.mapM_cons, List.mapM_cons]
      exact (hEach a List.mem_cons_self).consultBind fun b =>
        (ih hRest).consultMap (b :: ·)

end Rules

theorem consultAttribute_yields
    {a : Template.Attribute}
    (hSelf : self.Agrees config bound)
    (depth : Nat)
    (hLevels : 4 * a.levels + 1 < bound) :
    Yields ((consultAttribute config a).run self) depth
      (attributeOf config depth a) := by
  unfold consultAttribute attributeOf
  unfold Template.Attribute.levels at hLevels
  by_cases hSplat : a.name = splattributes
  · rw [if_pos hSplat, if_pos hSplat]
    rfl
  · rw [if_neg hSplat, if_neg hSplat]
    rw [if_neg hSplat] at hLevels
    cases hValue : a.value with
    | absent => rfl
    | text run =>
        by_cases hEmpty : run.chars = ""
        · simp only [hEmpty, if_true]
          rfl
        · simp only [hEmpty, if_false]
          rfl
    | mustache m =>
        rw [hValue] at hLevels
        have hWeight :
            (Request.statement (.mustache m)).weight < bound := by
          change 4 * m.levels + 1 < bound at hLevels
          change 4 * m.levels < bound
          omega
        have hStatement :=
          (consult_yields hSelf depth _ hWeight).consultMap
            (Jsx.Attribute.container (config.rename a.name))
        simp only [Setup.answer, statement, value, bind_assoc]
          at hStatement
        exact hStatement
    | concat c =>
        rw [hValue] at hLevels
        exact (consult_yields hSelf depth (.concat c.parts)
          hLevels).consultMap
            (Jsx.Attribute.container (config.rename a.name))

theorem consultModifier_yields
    {m : Template.Modifier}
    (hSelf : self.Agrees config bound)
    (depth : Nat)
    (hLevels : 4 * m.levels < bound) :
    Yields ((consultModifier config m).run self) depth
      (modifier config depth m) := by
  unfold consultModifier modifier
  cases hEvent : eventHandler? config m.invocation with
  | none => rfl
  | some found =>
      rcases found with ⟨event, handler⟩
      rw [levels_of_eventHandler hEvent] at hLevels
      exact (consult_yields hSelf depth (.expression handler)
        hLevels).consultMap
          (Jsx.Attribute.container (handlerName event))

/-
  The standard rule for elements, spoken to a resolver, is
  the standard rule for elements.
-/
theorem consultElement_yields
    (hSelf : self.Agrees config bound)
    (depth : Nat)
    (el : Template.Element)
    (hLevels : 4 * el.levels ≤ bound) :
    Yields ((consultElement config el).run self) depth
      (element (.standard config) depth el) := by
  rcases el with
    ⟨tag, selfClosing, params, attributes, modifiers, comments,
      body, span⟩
  rw [Template.Element.levels] at hLevels
  rw [element]
  refine Yields.consultBind (Yields.consultMapM ?_)
    fun attributes => ?_
  · intro a hMember
    have hDeep :
        a.levels ≤
          Template.deepest Template.Attribute.levels
            attributes :=
      levels_le_deepest hMember
    exact consultAttribute_yields hSelf depth (by omega)
  refine Yields.consultBind (Yields.consultMapM ?_)
    fun events => ?_
  · intro m hMember
    have hDeep :
        m.levels ≤
          Template.deepest Template.Modifier.levels modifiers :=
      levels_le_deepest hMember
    exact consultModifier_yields hSelf depth (by omega)
  refine Yields.consultMap _ ?_
  cases params with
  | nil =>
      refine consult_yields hSelf depth (.children body) ?_
      change 4 * Template.statementLevels body + 2 < bound
      omega
  | cons param rest =>
      refine (consult_yields hSelf depth (.root body)
        ?_).consultMap _
      change 4 * Template.statementLevels body + 3 < bound
      omega

------------------------------------------------------------
-- Rules for Blocks
------------------------------------------------------------

/- A body that is missing has no statements. -/
theorem consultBody_yields
    (hSelf : self.Agrees config bound)
    (depth : Nat)
    (block : Template.Block)
    (hLevels : 4 * block.levels + 3 < bound) :
    Yields ((consult (.root block.body)).run self) depth
      (branch (.standard config) depth block) := by
  cases block with
  | absent =>
      have hNone := consult_yields hSelf depth (.root []) hLevels
      rw [Setup.answer, root] at hNone
      rw [branch]
      exact hNone
  | present body params chained span =>
      rw [branch]
      exact consult_yields hSelf depth (.root body) hLevels

theorem expressions_eq_mapM
    (config : Config)
    (depth : Nat)
    (es : List Template.Expr) :
    expressions config depth es =
      es.mapM (expression config depth) := by
  induction es with
  | nil =>
      rw [expressions]
      rfl
  | cons e rest ih => rw [expressions, List.mapM_cons, ih]

theorem consultInverse_yields
    (hSelf : self.Agrees config bound)
    (depth : Nat)
    (hInverse : 4 * b.inverse.levels + 3 < bound) :
    Yields ((consultInverse b).run self) depth
      (inverseOrNull b fun _ =>
        branch (.standard config) depth b.inverse) := by
  unfold consultInverse inverseOrNull
  by_cases hPresent : b.inverse.IsPresent
  · rw [if_pos hPresent, if_pos hPresent]
    exact consultBody_yields hSelf depth b.inverse hInverse
  · rw [if_neg hPresent, if_neg hPresent]
    rfl

theorem consultConditional_yields
    (hSelf : self.Agrees config bound)
    (depth : Nat)
    (negate : Bool)
    (hParams :
      4 * Template.exprLevels b.invocation.params < bound)
    (hProgram : 4 * b.program.levels + 3 < bound)
    (hInverse : 4 * b.inverse.levels + 3 < bound) :
    Yields ((consultConditional negate b).run self) depth
      (conditionalBlock config depth negate b
        (fun _ => branch (.standard config) depth b.program)
        (fun _ =>
          branch (.standard config) depth b.inverse)) := by
  unfold consultConditional conditionalBlock
  match hList : b.invocation.params with
  | [] => rfl
  | _ :: _ :: _ => rfl
  | [param] =>
      rw [hList, exprLevels_singleton] at hParams
      refine (consult_yields hSelf depth (.expression param)
        hParams).consultBind fun test => ?_
      refine (consultBody_yields hSelf depth b.program
        hProgram).consultBind fun consequent => ?_
      have hOther := consultInverse_yields hSelf depth hInverse
      cases negate with
      | true => exact hOther.consultMap _
      | false => exact hOther.consultMap _

theorem consultEach_yields
    (hSelf : self.Agrees config bound)
    (depth : Nat)
    (hParams :
      4 * Template.exprLevels b.invocation.params < bound)
    (hProgram : 4 * b.program.levels + 3 < bound)
    (hInverse : 4 * b.inverse.levels + 3 < bound) :
    Yields ((consultEach b).run self) depth
      (eachBlock config depth b
        (fun _ => branch (.standard config) depth b.program)
        (fun _ =>
          branch (.standard config) depth b.inverse)) := by
  unfold consultEach eachBlock
  match hList : b.invocation.params with
  | [] => rfl
  | _ :: _ :: _ => rfl
  | [param] =>
      rw [hList, exprLevels_singleton] at hParams
      refine (consult_yields hSelf depth (.expression param)
        hParams).consultBind fun list => ?_
      refine (consultBody_yields hSelf depth b.program
        hProgram).consultBind fun body => ?_
      by_cases hPresent : b.inverse.IsPresent
      · simp only [if_pos hPresent]
        exact (consultBody_yields hSelf depth b.inverse
          hInverse).consultMap _
      · simp only [if_neg hPresent]
        rfl

theorem consultLet_yields
    (hSelf : self.Agrees config bound)
    (depth : Nat)
    (hParams :
      4 * Template.exprLevels b.invocation.params < bound)
    (hProgram : 4 * b.program.levels + 3 < bound) :
    Yields ((consultLet b).run self) depth
      (letBlock config depth b
        (fun _ =>
          branch (.standard config) depth b.program)) := by
  unfold consultLet letBlock
  by_cases hMalformed :
      b.invocation.params.isEmpty = true ∨ b.inverse.IsPresent
  · rw [if_pos hMalformed, if_pos hMalformed]
    rfl
  · rw [if_neg hMalformed, if_neg hMalformed,
      expressions_eq_mapM]
    refine Yields.consultBind (Yields.consultMapM ?_)
      fun arguments => ?_
    · intro e hMember
      have hDeep := levels_le_exprLevels hMember
      refine consult_yields hSelf depth (.expression e) ?_
      change 4 * e.levels < bound
      omega
    exact (consultBody_yields hSelf depth b.program
      hProgram).consultMap _

theorem consultFunction_yields
    (hSelf : self.Agrees config bound)
    (depth : Nat)
    (block : Template.Block)
    (hLevels : 4 * block.levels + 3 < bound) :
    Yields ((consultFunction block).run self) depth
      (bodyFunction block fun _ =>
        branch (.standard config) depth block) := by
  unfold consultFunction bodyFunction
  by_cases hPresent : block.IsPresent
  · rw [if_pos hPresent, if_pos hPresent]
    exact (consultBody_yields hSelf depth block
      hLevels).consultMap _
  · rw [if_neg hPresent, if_neg hPresent]
    rfl

/-
  The call of any other block is that of its invocation, with
  the bodies passed after it.
-/
theorem customBlock_eq
    (config : Config)
    (depth : Nat)
    (b : Template.BlockStatement)
    (program inverse : Unit → Outcome Jsx.Expr) :
    customBlock config depth b program inverse = (do
      let call ←
        helperCallOf config depth (.statement (.block b))
      let first ← bodyFunction b.program program
      let second ← bodyFunction b.inverse inverse
      return passing (first ++ second) call) := by
  rcases b with
    ⟨⟨target, params, ⟨pairs, hashSpan⟩⟩, body, other, span⟩
  simp only [customBlock, helperCallOf,
    Template.Node.invocation?, helperCall, bind_assoc,
    pure_bind, passing, List.append_assoc]

theorem consultCustom_yields
    (hSelf : self.Agrees config bound)
    (depth : Nat)
    (hArguments :
      4 * b.invocation.argumentLevels + 1 < bound)
    (hProgram : 4 * b.program.levels + 3 < bound)
    (hInverse : 4 * b.inverse.levels + 3 < bound) :
    Yields ((consultCustom b).run self) depth
      (customBlock config depth b
        (fun _ => branch (.standard config) depth b.program)
        (fun _ =>
          branch (.standard config) depth b.inverse)) := by
  rw [customBlock_eq]
  refine (consult_yields hSelf depth
    (.helperCall (.statement (.block b)))
    hArguments).consultBind fun call => ?_
  refine (consultFunction_yields hSelf depth b.program
    hProgram).consultBind fun first => ?_
  exact (consultFunction_yields hSelf depth b.inverse
    hInverse).consultMap _

/-
  The standard rule for blocks, spoken to a resolver, is the
  standard rule for blocks.
-/
theorem consultBlock_yields
    (hSelf : self.Agrees config bound)
    (depth : Nat)
    (b : Template.BlockStatement)
    (hLevels : 4 * b.levels ≤ bound) :
    Yields ((consultBlock b).run self) depth
      (block (.standard config) depth b) := by
  have hSum :
      b.levels =
        max b.argumentLevels
          (max b.program.levels b.inverse.levels) + 1 := by
    rcases b with ⟨invocation, program, inverse, span⟩
    rw [Template.BlockStatement.levels]
  have hBlock :
      block (.standard config) depth b =
        standardBlock config depth b
          (fun _ => branch (.standard config) depth b.program)
          (fun _ =>
            branch (.standard config) depth b.inverse) := by
    rcases b with ⟨invocation, program, inverse, span⟩
    rw [block]
    rfl
  have hProgram : 4 * b.program.levels + 3 < bound := by omega
  have hInverse : 4 * b.inverse.levels + 3 < bound := by omega
  have hArguments : 4 * b.argumentLevels + 3 < bound := by omega
  unfold Template.BlockStatement.argumentLevels at hArguments
  rw [hBlock]
  unfold consultBlock standardBlock
  cases hForm : blockForm b with
  | ifBlock =>
      simp only [hForm] at hArguments
      exact consultConditional_yields hSelf depth false
        (by omega) hProgram hInverse
  | unlessBlock =>
      simp only [hForm] at hArguments
      exact consultConditional_yields hSelf depth true
        (by omega) hProgram hInverse
  | eachBlock =>
      simp only [hForm] at hArguments
      exact consultEach_yields hSelf depth (by omega) hProgram
        hInverse
  | letBlock =>
      simp only [hForm] at hArguments
      exact consultLet_yields hSelf depth (by omega) hProgram
  | custom =>
      simp only [hForm] at hArguments
      exact consultCustom_yields hSelf depth (by omega) hProgram
        hInverse

------------------------------------------------------------
-- Expressions
------------------------------------------------------------

theorem expression_yields
    (hSelf : self.Agrees config bound)
    (depth : Nat)
    (e : Template.Expr)
    (hLevels : 4 * e.levels ≤ bound) :
    Yields (self.expression config e) depth
      (expression config depth e) := by
  cases e with
  | call i span =>
      rw [Template.Expr.levels] at hLevels
      rw [expression]
      refine Yields.within config _ ?_
      refine hSelf (.helperCall (.expr (.call i span))) ?_ _
      change 4 * i.argumentLevels + 1 < bound
      omega
  | path p =>
      rw [expression]
      refine Yields.within config _ ?_
      cases hPath : path p with
      | ok members =>
          simp only [hPath]
          exact .pure members
      | error kind =>
          simp only [hPath]
          exact .settled _
  | absent =>
      rw [expression]
      exact .within config _ (.settled _)
  | boolean value span
  | null span
  | number value span
  | string value span
  | undefined span =>
      rw [expression]
      exact .within config _ (.pure _)

theorem namedArguments_eq_mapM
    (config : Config)
    (depth : Nat)
    (pairs : List Template.Pair) :
    namedArguments config depth pairs =
      pairs.mapM fun pair => do
        let value ← expression config depth pair.value
        return Jsx.Property.mk pair.key value := by
  induction pairs with
  | nil =>
      rw [namedArguments]
      rfl
  | cons pair rest ih =>
      rcases pair with ⟨key, value, span⟩
      rw [namedArguments, List.mapM_cons, ih, bind_assoc]
      rfl

theorem helperCall_yields
    (hSelf : self.Agrees config bound)
    (depth : Nat)
    (node : Template.Node)
    (hLevels :
      4 * node.invocation?.elim 0
        Template.Invocation.argumentLevels < bound) :
    Yields (self.helperCall node) depth
      (helperCallOf config depth node) := by
  unfold Resolver.helperCall helperCallOf
  cases hInvocation : node.invocation? with
  | none => exact .settled _
  | some i =>
      rcases i with ⟨target, params, ⟨pairs, span⟩⟩
      rw [hInvocation, Option.elim_some,
        Template.Invocation.argumentLevels] at hLevels
      simp only
      rw [helperCall, expressions_eq_mapM,
        namedArguments_eq_mapM]
      refine Yields.bind (.mapM ?_) fun positional => ?_
      · intro e hMember
        have hDeep := levels_le_exprLevels hMember
        refine hSelf (.expression e) ?_ depth
        change 4 * e.levels < bound
        omega
      refine Yields.map _ (.mapM ?_)
      intro pair hMember
      have hDeep := levels_le_pairLevels hMember
      refine Yields.map _
        (hSelf (.expression pair.value) ?_ depth)
      change 4 * pair.value.levels < bound
      omega

theorem mustache_yields
    (hSelf : self.Agrees config bound)
    (depth : Nat)
    (m : Template.Mustache)
    (hLevels : 4 * m.levels ≤ bound) :
    Yields (self.mustache m) depth
      (mustache config depth m) := by
  unfold Resolver.mustache mustache
  unfold Template.Mustache.levels at hLevels
  cases hParams : m.invocation.params with
  | nil =>
      simp only [hParams] at hLevels
      refine hSelf (.expression m.invocation.callee) ?_ depth
      change 4 * m.invocation.callee.levels < bound
      omega
  | cons param rest =>
      simp only [hParams] at hLevels
      refine hSelf
        (.helperCall (.statement (.mustache m))) ?_ depth
      change 4 * m.invocation.argumentLevels + 1 < bound
      omega

------------------------------------------------------------
-- Statements
------------------------------------------------------------

theorem statement_yields
    (hSelf : self.Agrees config bound)
    (depth : Nat)
    (s : Template.Statement)
    (hLevels : 4 * s.levels ≤ bound) :
    Yields (self.statement config .standard s) depth
      (statement (.standard config) depth s) := by
  refine Yields.within config (.statement s) ?_
  cases s with
  | element e =>
      rw [value]
      exact (consultElement_yields hSelf (depth + 1) e
        hLevels).map Jsx.Expr.markup
  | text run =>
      rw [value]
      exact .pure _
  | mustache m =>
      rw [value]
      exact mustache_yields hSelf (depth + 1) m hLevels
  | block b =>
      rw [value]
      exact consultBlock_yields hSelf (depth + 1) b hLevels
  | comment c
  | mustacheComment c
  | modifier m
  | concat c
  | absent =>
      rw [value]
      exact .settled _

theorem child_yields
    (hSelf : self.Agrees config bound)
    (depth : Nat)
    (s : Template.Statement)
    (hLevels : 4 * s.levels < bound) :
    Yields (self.child config .standard s) depth
      (child (.standard config) depth s) := by
  have hValue :=
    (hSelf (.statement s) hLevels depth).map
      fun result => [Jsx.Child.container result]
  simp only [Setup.answer, statement, bind_assoc] at hValue
  unfold child
  cases s with
  | element e =>
      refine Yields.within config _ ?_
      rw [markupChildren]
      exact (consultElement_yields hSelf (depth + 1) e
        (Nat.le_of_lt hLevels)).map _
  | text run =>
      refine Yields.within config _ ?_
      rw [markupChildren]
      exact .pure _
  | comment c
  | mustacheComment c =>
      refine Yields.within config _ ?_
      rw [markupChildren]
      exact .pure _
  -- what has no form of its own stands in a container, and
  -- the resolver counts it as a value
  | mustache m
  | block b
  | modifier m
  | concat c
  | absent =>
      simp only [value] at hValue
      simp only [markupChildren]
      exact hValue

theorem children_yields
    (hSelf : self.Agrees config bound)
    (depth : Nat)
    (body : List Template.Statement)
    (hLevels :
      4 * Template.statementLevels body + 1 < bound) :
    Yields (self.children body) depth
      (children (.standard config) depth body) := by
  have hParts :
      children (.standard config) depth body =
        body.mapM (child (.standard config) depth) >>=
          fun parts => .ok parts.flatten := by
    clear hLevels
    induction body with
    | nil =>
        rw [children]
        rfl
    | cons s rest ih =>
        rw [children, List.mapM_cons, ih]
        unfold child
        simp only [bind_assoc]
        rfl
  rw [hParts]
  refine Yields.map _ (Yields.mapM ?_)
  intro s hMember
  have hDeep := levels_le_statementLevels hMember
  refine hSelf (.child s) ?_ depth
  change 4 * s.levels + 1 < bound
  omega

theorem root_yields
    (hSelf : self.Agrees config bound)
    (depth : Nat)
    (body : List Template.Statement)
    (hLevels :
      4 * Template.statementLevels body + 2 < bound) :
    Yields (self.root config .standard body) depth
      (root (.standard config) depth body) := by
  have hChildren :=
    (hSelf (.children body) hLevels depth).bind
      fun parts => .settled (standardFragment parts)
  match body with
  | [] =>
      rw [Setup.answer, children] at hChildren
      rw [root]
      exact hChildren
  | [s] =>
      rw [root]
      refine hSelf (.statement s) ?_ depth
      rw [Template.statementLevels] at hLevels
      change 4 * s.levels < bound
      omega
  | s :: next :: rest =>
      rw [Setup.answer, children] at hChildren
      simp only [bind_assoc] at hChildren
      rw [root]
      exact hChildren

theorem part_yields
    (hSelf : self.Agrees config bound)
    (depth : Nat)
    (part : Template.TextPart)
    (hLevels : 4 * part.levels < bound) :
    Yields (self (.statement part.toStatement)) depth
      (partValue config depth part) := by
  have hWeight :
      (Request.statement part.toStatement).weight < bound := by
    cases part with
    | absent
    | text run
    | mustache m => exact hLevels
  have hValue := hSelf _ hWeight depth
  simp only [Setup.answer, statement] at hValue
  cases part with
  | absent
  | text run
  | mustache m =>
      rw [Template.TextPart.toStatement, value] at hValue
      exact hValue

theorem sumFrom_yields
    (hSelf : self.Agrees config bound)
    (depth : Nat)
    (parts : List Template.TextPart)
    (sum : Jsx.Expr)
    (hLevels :
      4 * Template.deepest Template.TextPart.levels parts <
        bound) :
    Yields
      (parts.foldlM
        (fun sum next => do
          let value ← self (.statement next.toStatement)
          return .binary .add sum value)
        sum)
      depth (sumFrom config depth sum parts) := by
  induction parts generalizing sum with
  | nil => rfl
  | cons part rest ih =>
      rw [Template.deepest] at hLevels
      rw [List.foldlM_cons, sumFrom, bind_assoc]
      refine (part_yields hSelf depth part (by omega)).bind
        fun next => ?_
      exact ih (.binary .add sum next) (by omega)

theorem concat_yields
    (hSelf : self.Agrees config bound)
    (depth : Nat)
    (parts : List Template.TextPart)
    (hLevels :
      4 * Template.deepest Template.TextPart.levels parts <
        bound) :
    Yields (self.concat parts) depth
      (concat config depth parts) := by
  cases parts with
  | nil => rfl
  | cons part rest =>
      rw [Template.deepest] at hLevels
      refine (part_yields hSelf depth part (by omega)).bind
        fun first => ?_
      exact sumFrom_yields hSelf depth rest first (by omega)

------------------------------------------------------------
-- Resolvers
------------------------------------------------------------

/- One step: the answer to a request rests on lighter ones. -/
theorem answer_agrees
    (hSelf : self.Agrees config bound) :
    (self.answer config .standard).Agrees config
      (bound + 1) := by
  intro request hBelow depth
  have hWeight := Nat.le_of_lt_succ hBelow
  cases request with
  | statement s => exact statement_yields hSelf depth s hWeight
  | child s => exact child_yields hSelf depth s hWeight
  | children body =>
      exact children_yields hSelf depth body hWeight
  | root body => exact root_yields hSelf depth body hWeight
  | concat parts => exact concat_yields hSelf depth parts hWeight
  | expression e =>
      exact expression_yields hSelf depth e hWeight
  | helperCall node =>
      exact helperCall_yields hSelf depth node hWeight

/- All steps: the room bounds the weight of requests. -/
theorem resolver_agrees
    (config : Config)
    (room : Nat) :
    (resolver config .standard room).Agrees config room := by
  induction room with
  | zero =>
      intro request hWeight
      exact absurd hWeight (Nat.not_lt_zero _)
  | succ room ih => exact answer_agrees ih

end Agreement

/-
  A resolver carries nothing over from one request to the
  next. Whatever rules it follows, an answer leaves the depth
  as it was, also if it is a refusal, and more room does not
  change it. So the replies to a list of requests are those
  of a resolver that is asked only the one. Under the
  standard rules every request is answered, given the room,
  and answered as resolution at that depth does.
-/
theorem resolver_stateless
    (config : Config)
    (rules : Collaborators) :
    (∀ (room more : Nat) (request : Request) (depth after : Int)
        (outcome : Outcome request.Answer),
      resolver config rules room request depth =
          some (outcome, after) →
        after = depth ∧
          resolver config rules (room + more) request depth =
            some (outcome, depth)) ∧
    (∀ (room : Nat) (depth : Int) (requests : List Request),
      (resolver config rules room).converse requests depth =
        (requests.mapM
          ((resolver config rules room).reply depth)).map
          fun replies => (replies, depth)) ∧
    (∀ (room depth : Nat) (request : Request),
      request.weight < room →
        resolver config .standard room request depth =
          some ((Setup.standard config).answer depth request,
            (depth : Int))) := by
  refine ⟨?_, ?_, ?_⟩
  · intro room more request depth after outcome hFound
    exact resolver_upholds config rules room more request depth
      outcome after hFound
  · intro room depth requests
    exact converse_eq (resolver_upholds config rules room 0)
      depth requests
  · intro room depth request hWeight
    exact resolver_agrees config room request hWeight depth

/-
  A rule for elements that asks for the children and keeps
  nothing of the answer, not even a refusal.
-/
def heedless : Collaborators :=
  { Collaborators.standard with
    element := fun _ el =>
      ExceptT.mk (.ask (.children el.children) fun _ =>
        .done
          (.ok (.element (tagName el.tag) [] [] true))) }

/-
  Under a bound of one the text in the element is refused,
  and the rule goes on. The next request is refused as well,
  and the last is answered like the first.
-/
theorem resolver_stateless_heedless :
    let config : Config := { Config.default with maxDepth := 1 }
    let self := resolver config heedless 3
    let element : Request :=
      .statement
        (.element
          ⟨"a", false, [], [], [], [], [.text ⟨"x", none⟩], none⟩)
    let missing : Request := .expression .absent
    let empty : Outcome Jsx.Expr :=
      .ok (.markup (.element (.identifier "a") [] [] true))
    let refused : Outcome Jsx.Expr :=
      failShowing .unexpectedExpressionKind (.expr .absent)
    resolver config heedless (3 + 5) element 0 =
        some (empty, 0) ∧
      self.converse [element, missing, element] 0 =
        some
          ([⟨element, empty⟩, ⟨missing, refused⟩,
            ⟨element, empty⟩], 0) ∧
      missing.weight < 5 ∧
      resolver config .standard 5 missing 0 =
        some (refused, 0) := by
  intro config self element missing empty refused
  have hElement : self element 0 = some (empty, 0) := rfl
  rcases resolver_stateless config heedless with
    ⟨hRestored, hReplies, hStandard⟩
  refine ⟨(hRestored 3 5 element 0 0 empty hElement).2, ?_,
    by decide, hStandard 5 0 missing (by decide)⟩
  rw [hReplies 3 0 [element, missing, element]]
  rfl

end Resolve

end TemplateJsx
