import TemplateJsx.Resolve.Resolver

/-
  The count of a resolver. Whatever a resolver is asked and
  however it answers, its depth afterwards is its depth
  before. A resolver with more room gives the same answers,
  and a resolver that was asked other things before gives
  the answers of one that was not.

  All of this is proved of two runs side by side: what the
  first finds out, the second finds out too, and the count is
  where it was. One step of a resolver keeps this relation,
  whatever the rules are that speak to it.

  Key definitions include:
    * `Resolve.Upholds`
    * `Resolve.Resolver.Upholds`
    * `Resolve.Resolver.reply`

  Main declarations:
    * `Resolve.Upholds.bind`
    * `Resolve.Upholds.within`
    * `Resolve.consultation_upholds`
    * `Resolve.answer_upholds`
    * `Resolve.resolver_upholds`
    * `Resolve.converse_eq`
-/

------------------------------------------------------------
-- Steps of a Count
------------------------------------------------------------

namespace TemplateJsx

namespace Resolve

section Steps

variable {α β : Type}
variable {x : Counting α}
variable {f : α → Counting β}
variable {depth after : Int}
variable {config : Config}
variable {node : Template.Node}

/- A refusal is the end of what follows. -/
theorem bind_of_error
    {e : Error}
    (hFirst : x depth = some (.error e, after)) :
    (x >>= f) depth = some (.error e, after) := by
  change Option.bind (x depth) _ = _
  rw [hFirst]
  rfl

/- What follows a result starts from the count it left. -/
theorem bind_of_ok
    {a : α}
    (hFirst : x depth = some (.ok a, after)) :
    (x >>= f) depth = f a after := by
  change Option.bind (x depth) _ = _
  rw [hFirst]
  rfl

/- A node that lies too deep is not entered. -/
theorem within_of_deep
    (body : Counting α)
    (hDeep : 0 < config.maxDepth ∧ config.maxDepth ≤ depth) :
    within config node body depth =
      some (fail .maxDepthExceeded node, depth) := by
  have hGet :
      (get : Counting Int) depth = some (.ok depth, depth) :=
    rfl
  have hDescend :
      descend config node depth =
        some (fail .maxDepthExceeded node, depth) := by
    unfold descend
    rw [bind_of_ok hGet, if_pos hDeep]
    rfl
  exact bind_of_error hDescend

/- Any other node is entered, and left one level up again. -/
theorem within_of_shallow
    (body : Counting α)
    (hShallow :
      ¬ (0 < config.maxDepth ∧ config.maxDepth ≤ depth)) :
    within config node body depth =
      (body (depth + 1)).map
        fun found => (found.1, found.2 - 1) := by
  have hGet :
      (get : Counting Int) depth = some (.ok depth, depth) :=
    rfl
  have hDescend :
      descend config node depth = some (.ok (), depth + 1) := by
    unfold descend
    rw [bind_of_ok hGet, if_neg hShallow]
    rfl
  unfold within
  rw [bind_of_ok hDescend]
  change Option.bind (body (depth + 1)) _ = _
  cases body (depth + 1) with
  | none => rfl
  | some found => rfl

end Steps

------------------------------------------------------------
-- Two Runs
------------------------------------------------------------

/-
  The second run finds out what the first one does, and the
  count is left where it was.
-/
def Upholds
    {α : Type}
    (x y : Counting α) : Prop :=
  ∀ depth outcome after, x depth = some (outcome, after) →
    after = depth ∧ y depth = some (outcome, depth)

namespace Upholds

variable {α β : Type}

theorem settled
    (outcome : Outcome α) :
    Upholds (settled outcome) (settled outcome) := by
  intro depth found after hFound
  cases hFound
  exact ⟨rfl, rfl⟩

theorem pure
    (a : α) :
    Upholds (Pure.pure a) (Pure.pure a) :=
  settled (.ok a)

/- What follows may look at the outcome, refusal or not. -/
theorem follow
    {x y : Counting α}
    {f g : Outcome α → Counting β}
    (hFirst : Upholds x y)
    (hNext : ∀ outcome, Upholds (f outcome) (g outcome)) :
    Upholds
      (ExceptT.mk (x.run >>= fun outcome => f outcome))
      (ExceptT.mk (y.run >>= fun outcome => g outcome)) := by
  intro depth last after hFound
  change Option.bind (x depth) _ = _ at hFound
  rcases Option.bind_eq_some_iff.mp hFound with
    ⟨⟨outcome, middle⟩, hX, hRest⟩
  rcases hFirst depth outcome middle hX with ⟨rfl, hY⟩
  rcases hNext outcome middle last after hRest with
    ⟨rfl, hLast⟩
  refine ⟨rfl, ?_⟩
  change Option.bind (y after) _ = _
  rw [hY]
  exact hLast

/- A refusal skips what follows and leaves the count alone. -/
theorem bind
    {x y : Counting α}
    {f g : α → Counting β}
    (hFirst : Upholds x y)
    (hNext : ∀ a, Upholds (f a) (g a)) :
    Upholds (x >>= f) (y >>= g) := by
  refine follow hFirst fun outcome => ?_
  cases outcome with
  | error e => exact settled (.error e)
  | ok a => exact hNext a

theorem map
    {x y : Counting α}
    (g : α → β)
    (h : Upholds x y) :
    Upholds (x >>= fun a => Pure.pure (g a))
      (y >>= fun a => Pure.pure (g a)) :=
  h.bind fun a => pure (g a)

theorem mapM
    {f g : α → Counting β}
    (hEach : ∀ a, Upholds (f a) (g a))
    (as : List α) :
    Upholds (as.mapM f) (as.mapM g) := by
  induction as with
  | nil => exact pure []
  | cons a rest ih =>
      rw [List.mapM_cons, List.mapM_cons]
      exact (hEach a).bind fun b => ih.map (b :: ·)

theorem foldlM
    {f g : β → α → Counting β}
    (hEach : ∀ b a, Upholds (f b a) (g b a))
    (as : List α)
    (b : β) :
    Upholds (as.foldlM f b) (as.foldlM g b) := by
  induction as generalizing b with
  | nil => exact pure b
  | cons a rest ih =>
      rw [List.foldlM_cons, List.foldlM_cons]
      exact (hEach b a).bind ih

/-
  Inside a node the count is one higher. What is done there
  restores it, so that going up again gives the count from
  before the node.
-/
theorem within
    {x y : Counting α}
    (config : Config)
    (node : Template.Node)
    (hBody : Upholds x y) :
    Upholds (within config node x) (within config node y) := by
  intro depth outcome after hFound
  by_cases hDeep :
      0 < config.maxDepth ∧ config.maxDepth ≤ depth
  · rw [within_of_deep x hDeep] at hFound
    cases hFound
    exact ⟨rfl, within_of_deep y hDeep⟩
  · rw [within_of_shallow x hDeep] at hFound
    rcases Option.map_eq_some_iff.mp hFound with
      ⟨⟨inner, bottom⟩, hInner, hLeft⟩
    cases hLeft
    rcases hBody (depth + 1) inner bottom hInner with
      ⟨rfl, hOther⟩
    refine ⟨Int.add_sub_cancel depth 1, ?_⟩
    rw [within_of_shallow y hDeep, hOther]
    change some (inner, depth + 1 - 1) = _
    rw [Int.add_sub_cancel]

end Upholds

------------------------------------------------------------
-- One Step of a Resolver
------------------------------------------------------------

/- Two resolvers that stand in this relation everywhere. -/
def Resolver.Upholds
    (self other : Resolver) : Prop :=
  ∀ request, Resolve.Upholds (self request) (other request)

section Resolvers

variable {self other : Resolver}

/-
  A rule leaves the count alone if the resolver it speaks to
  does. The induction is on the dialogue: whatever the rule
  makes of an answer, it can only ask again or end.
-/
theorem consultation_upholds
    {α : Type}
    (hSelf : self.Upholds other)
    (rule : Consultation α) :
    Upholds (rule.run self) (rule.run other) := by
  have hDialogue : ∀ d : Dialogue (Outcome α),
      Upholds (ExceptT.mk (d.run self))
        (ExceptT.mk (d.run other)) := by
    intro d
    induction d with
    | done outcome => exact .settled outcome
    | ask request next ih => exact (hSelf request).follow ih
  exact hDialogue rule

theorem mustache_upholds
    (hSelf : self.Upholds other)
    (m : Template.Mustache) :
    Upholds (self.mustache m) (other.mustache m) := by
  unfold Resolver.mustache
  cases m.invocation.params with
  | nil => exact hSelf (.expression _)
  | cons param rest => exact hSelf (.helperCall _)

theorem concat_upholds
    (hSelf : self.Upholds other)
    (parts : List Template.TextPart) :
    Upholds (self.concat parts) (other.concat parts) := by
  cases parts with
  | nil => exact .pure _
  | cons part rest =>
      refine (hSelf (.statement _)).bind fun first => ?_
      exact .foldlM
        (fun sum next => (hSelf (.statement _)).map _)
        rest first

theorem helperCall_upholds
    (hSelf : self.Upholds other)
    (node : Template.Node) :
    Upholds (self.helperCall node) (other.helperCall node) := by
  unfold Resolver.helperCall
  cases node.invocation? with
  | none => exact .settled _
  | some i =>
      refine Upholds.bind
        (.mapM (fun e => hSelf (.expression e)) i.params)
        fun positional => ?_
      refine Upholds.bind
        (.mapM
          (fun pair => (hSelf (.expression pair.value)).map _)
          i.hash.pairs)
        fun named => ?_
      exact .pure _

variable (config : Config) (rules : Collaborators)

theorem expression_upholds
    (hSelf : self.Upholds other)
    (e : Template.Expr) :
    Upholds (self.expression config e)
      (other.expression config e) := by
  refine .within config _ ?_
  cases e with
  | call i span => exact hSelf (.helperCall _)
  | path p =>
      cases hPath : path p with
      | ok members =>
          simp only [hPath]
          exact .pure members
      | error kind =>
          simp only [hPath]
          exact .settled _
  | absent => exact .settled _
  | boolean value span
  | null span
  | number value span
  | string value span
  | undefined span => exact .pure _

theorem statement_upholds
    (hSelf : self.Upholds other)
    (s : Template.Statement) :
    Upholds (self.statement config rules s)
      (other.statement config rules s) := by
  refine .within config _ ?_
  cases s with
  | element e =>
      exact (consultation_upholds hSelf _).map Jsx.Expr.markup
  | mustache m => exact mustache_upholds hSelf m
  | block b => exact consultation_upholds hSelf _
  | text run => exact .pure _
  | comment c
  | mustacheComment c
  | modifier m
  | concat c
  | absent => exact .settled _

theorem child_upholds
    (hSelf : self.Upholds other)
    (s : Template.Statement) :
    Upholds (self.child config rules s)
      (other.child config rules s) := by
  cases s with
  | element e =>
      exact .within config _
        ((consultation_upholds hSelf _).map
          fun markup => [Jsx.Child.markup markup])
  | text run => exact .within config _ (.pure _)
  | comment c
  | mustacheComment c =>
      exact .within config _
        ((consultation_upholds hSelf _).map fun child => [child])
  | mustache m
  | block b
  | modifier m
  | concat c
  | absent =>
      exact (hSelf (.statement _)).map
        fun result => [Jsx.Child.container result]

theorem root_upholds
    (hSelf : self.Upholds other)
    (body : List Template.Statement) :
    Upholds (self.root config rules body)
      (other.root config rules body) := by
  match body with
  | [s] => exact hSelf (.statement s)
  | [] =>
      exact (hSelf (.children [])).bind
        fun parts => consultation_upholds hSelf _
  | s :: next :: rest =>
      exact (hSelf (.children _)).bind
        fun parts => consultation_upholds hSelf _

/-
  One step: a resolver that puts its own requests to one
  that restores the count restores it too.
-/
theorem answer_upholds
    (hSelf : self.Upholds other) :
    (self.answer config rules).Upholds
      (other.answer config rules) := by
  intro request
  cases request with
  | statement s => exact statement_upholds config rules hSelf s
  | child s => exact child_upholds config rules hSelf s
  | children body =>
      exact Upholds.map List.flatten
        (.mapM (fun s => hSelf (.child s)) body)
  | root body => exact root_upholds config rules hSelf body
  | concat parts => exact concat_upholds hSelf parts
  | expression e => exact expression_upholds config hSelf e
  | helperCall node => exact helperCall_upholds hSelf node

/-
  All steps: every answer restores the count, and is the
  answer with more room as well.
-/
theorem resolver_upholds
    (room more : Nat) :
    (resolver config rules room).Upholds
      (resolver config rules (room + more)) := by
  induction room with
  | zero =>
      intro request depth outcome after hFound
      cases hFound
  | succ room ih =>
      rw [Nat.succ_add]
      exact answer_upholds config rules ih

end Resolvers

------------------------------------------------------------
-- Conversations
------------------------------------------------------------

/- The reply of a resolver that is asked nothing else. -/
def Resolver.reply
    (self : Resolver)
    (depth : Int)
    (request : Request) : Option Reply :=
  (self request depth).map fun found => ⟨request, found.1⟩

/-
  Since no answer moves the count, the replies to several
  requests are those to each of them alone.
-/
theorem converse_eq
    {self : Resolver}
    (hSelf : self.Upholds self)
    (depth : Int)
    (requests : List Request) :
    self.converse requests depth =
      (requests.mapM (self.reply depth)).map
        fun replies => (replies, depth) := by
  induction requests with
  | nil => rfl
  | cons request rest ih =>
      rw [List.mapM_cons]
      change
        Option.bind (self request depth) _ =
          Option.map _
            (Option.bind ((self request depth).map _) _)
      cases hFirst : self request depth with
      | none => rfl
      | some found =>
          rcases found with ⟨outcome, after⟩
          rcases hSelf request depth outcome after hFirst with
            ⟨rfl, _⟩
          change
            Option.bind (self.converse rest after) _ =
              Option.map _ (Option.bind (rest.mapM _) _)
          rw [ih]
          cases rest.mapM (self.reply after) with
          | none => rfl
          | some replies => rfl

end Resolve

end TemplateJsx
