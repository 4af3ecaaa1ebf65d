import TemplateJsx.Proofs.Nesting

/-
  Two resolutions of one template, side by side. They may
  differ in the bound on the nesting and in the rules they
  follow. A relation between outcomes that holds of equal
  outcomes and is kept by one step after another holds of
  both resolutions as soon as it holds of their ways to
  enter a node and of their rules.

  The bound is looked at on entering a node and nowhere else.
  A looser bound therefore changes nothing but refusals
  because of the bound.

  Key definitions include:
    * `Config.limited`
    * `Resolve.Sequential`
    * `Resolve.Comparable`
    * `Resolve.Setup.Related`
    * `Resolve.OnlyCuts`

  Main declarations:
    * `Resolve.expression_related`
    * `Resolve.standardElement_related`
    * `Resolve.standardBlock_related`
    * `Resolve.root_related`
    * `Resolve.resolve_loosened`
-/

------------------------------------------------------------
-- Relations between Outcomes
------------------------------------------------------------

namespace TemplateJsx

/- The configuration with another bound on the nesting. -/
def Config.limited
    (config : Config)
    (limit : Int) : Config :=
  { config with maxDepth := limit }

namespace Resolve

/-
  A relation between outcomes that holds of equal ones and
  that steps one after the other keep.
-/
structure Sequential
    (R : (α : Type) → Outcome α → Outcome α → Prop) :
    Prop where
  refl :
    ∀ {α : Type} (x : Outcome α), R α x x
  bind :
    ∀ {α β : Type} {x y : Outcome α} {f g : α → Outcome β},
      R α x y → (∀ a, R β (f a) (g a)) →
        R β (x >>= f) (y >>= g)

/-
  Such a relation, if entering a node under one bound is in
  it with entering the node under the other.
-/
structure Comparable
    (R : (α : Type) → Outcome α → Outcome α → Prop)
    (config : Config)
    (first second : Int) : Prop
    extends Sequential R where
  enter :
    ∀ (depth : Nat) (node : Template.Node),
      R Unit (enter (config.limited first) depth node)
        (enter (config.limited second) depth node)

section Related

variable {R : (α : Type) → Outcome α → Outcome α → Prop}

namespace Sequential

variable {α β : Type}

theorem map
    (hR : Sequential R)
    {x y : Outcome α}
    (g : α → β)
    (h : R α x y) :
    R β (x >>= fun a => .ok (g a)) (y >>= fun a => .ok (g a)) :=
  hR.bind h fun _ => hR.refl _

theorem mapM
    (hR : Sequential R)
    {f g : α → Outcome β}
    (hEach : ∀ a, R β (f a) (g a))
    (as : List α) :
    R (List β) (as.mapM f) (as.mapM g) := by
  induction as with
  | nil => exact hR.refl _
  | cons a rest ih =>
      rw [List.mapM_cons, List.mapM_cons]
      exact hR.bind (hEach a) fun b => hR.map (b :: ·) ih

end Sequential

------------------------------------------------------------
-- Expressions
------------------------------------------------------------

variable {config : Config}
variable {first second : Int}
variable (hR : Comparable R config first second)

include hR

mutual

theorem expression_related
    (depth : Nat)
    (e : Template.Expr) :
    R Jsx.Expr (expression (config.limited first) depth e)
      (expression (config.limited second) depth e) := by
  cases e with
  | call i span =>
      rw [expression, expression]
      exact hR.bind (hR.enter depth _) fun _ =>
        helperCall_related (depth + 1) i
  | path p
  | absent
  | boolean value span
  | null span
  | number value span
  | string value span
  | undefined span =>
      rw [expression, expression]
      exact hR.bind (hR.enter depth _) fun _ => hR.refl _

theorem helperCall_related
    (depth : Nat) :
    (i : Template.Invocation) →
      R Jsx.Expr (helperCall (config.limited first) depth i)
        (helperCall (config.limited second) depth i)
  | ⟨target, params, ⟨pairs, span⟩⟩ => by
    rw [helperCall, helperCall]
    refine hR.bind (expressions_related depth params)
      fun positional => ?_
    exact hR.map _ (namedArguments_related depth pairs)

theorem expressions_related
    (depth : Nat) :
    (es : List Template.Expr) →
      R (List Jsx.Expr)
        (expressions (config.limited first) depth es)
        (expressions (config.limited second) depth es)
  | [] => by
    rw [expressions, expressions]
    exact hR.refl _
  | e :: rest => by
    rw [expressions, expressions]
    exact hR.bind (expression_related depth e) fun x =>
      hR.map (x :: ·) (expressions_related depth rest)

theorem namedArguments_related
    (depth : Nat) :
    (pairs : List Template.Pair) →
      R (List Jsx.Property)
        (namedArguments (config.limited first) depth pairs)
        (namedArguments (config.limited second) depth pairs)
  | [] => by
    rw [namedArguments, namedArguments]
    exact hR.refl _
  | ⟨key, value, span⟩ :: rest => by
    rw [namedArguments, namedArguments]
    exact hR.bind (expression_related depth value) fun x =>
      hR.map (Jsx.Property.mk key x :: ·)
        (namedArguments_related depth rest)

end

------------------------------------------------------------
-- Opening Tags
------------------------------------------------------------

theorem mustache_related
    (depth : Nat)
    (m : Template.Mustache) :
    R Jsx.Expr (mustache (config.limited first) depth m)
      (mustache (config.limited second) depth m) := by
  unfold mustache
  split
  · exact expression_related hR depth _
  · exact helperCall_related hR depth _

theorem partValue_related
    (depth : Nat)
    (part : Template.TextPart) :
    R Jsx.Expr (partValue (config.limited first) depth part)
      (partValue (config.limited second) depth part) := by
  unfold partValue
  refine hR.bind (hR.enter depth _) fun _ => ?_
  cases part with
  | absent => exact hR.refl _
  | text run => exact hR.refl _
  | mustache m => exact mustache_related hR (depth + 1) m

theorem sumFrom_related
    (depth : Nat)
    (sum : Jsx.Expr)
    (parts : List Template.TextPart) :
    R Jsx.Expr (sumFrom (config.limited first) depth sum parts)
      (sumFrom (config.limited second) depth sum parts) := by
  induction parts generalizing sum with
  | nil => exact hR.refl _
  | cons part rest ih =>
      exact hR.bind (partValue_related hR depth part)
        fun next => ih (.binary .add sum next)

theorem concat_related
    (depth : Nat)
    (parts : List Template.TextPart) :
    R Jsx.Expr (concat (config.limited first) depth parts)
      (concat (config.limited second) depth parts) := by
  cases parts with
  | nil => exact hR.refl _
  | cons part rest =>
      exact hR.bind (partValue_related hR depth part)
        fun value => sumFrom_related hR depth value rest

theorem attributeOf_related
    (depth : Nat)
    (a : Template.Attribute) :
    R Jsx.Attribute
      (attributeOf (config.limited first) depth a)
      (attributeOf (config.limited second) depth a) := by
  unfold attributeOf
  split
  · exact hR.refl _
  · cases a.value with
    | absent => exact hR.refl _
    | text run => exact hR.refl _
    | mustache m =>
        exact hR.bind (hR.enter depth _) fun _ =>
          hR.map _ (mustache_related hR (depth + 1) m)
    | concat c => exact hR.map _ (concat_related hR depth c.parts)

theorem modifier_related
    (depth : Nat)
    (m : Template.Modifier) :
    R Jsx.Attribute (modifier (config.limited first) depth m)
      (modifier (config.limited second) depth m) := by
  -- The event modifier is part of what the configurations share.
  have hSame :
      eventHandler? (config.limited first) m.invocation =
        eventHandler? (config.limited second) m.invocation :=
    rfl
  unfold modifier
  rw [hSame]
  cases eventHandler? (config.limited second) m.invocation with
  | none => exact hR.refl _
  | some found => exact hR.map _ (expression_related hR depth found.2)

------------------------------------------------------------
-- The Standard Rules
------------------------------------------------------------

/-
  Elements keep the relation: attributes and handlers come
  first, and related bodies give related children.
-/
theorem standardElement_related
    (depth : Nat)
    (el : Template.Element)
    {children children' : Unit → Outcome (List Jsx.Child)}
    {body body' : Unit → Outcome Jsx.Expr}
    (hChildren : R (List Jsx.Child) (children ()) (children' ()))
    (hBody : R Jsx.Expr (body ()) (body' ())) :
    R Jsx.Markup
      (standardElement (config.limited first) depth el
        children body)
      (standardElement (config.limited second) depth el
        children' body') := by
  refine hR.bind (hR.mapM (attributeOf_related hR depth) _)
    fun attributes => ?_
  refine hR.bind (hR.mapM (modifier_related hR depth) _)
    fun events => hR.map _ ?_
  unfold elementChildren
  split
  · exact hChildren
  · exact hR.map _ hBody

section Blocks

variable {program program' : Unit → Outcome Jsx.Expr}
variable {inverse inverse' : Unit → Outcome Jsx.Expr}
variable
  (hProgram : R Jsx.Expr (program ()) (program' ()))
  (hInverse : R Jsx.Expr (inverse ()) (inverse' ()))

/- A missing `else` is missing under both bounds. -/
theorem inverseOrNull_related
    (b : Template.BlockStatement)
    (h : R Jsx.Expr (inverse ()) (inverse' ())) :
    R Jsx.Expr (inverseOrNull b inverse)
      (inverseOrNull b inverse') := by
  unfold inverseOrNull
  split
  · exact h
  · exact hR.refl _

theorem bodyFunction_related
    (block : Template.Block)
    (h : R Jsx.Expr (program ()) (program' ())) :
    R (List Jsx.Expr) (bodyFunction block program)
      (bodyFunction block program') := by
  unfold bodyFunction
  split
  · exact hR.map _ h
  · exact hR.refl _

include hProgram

theorem letBlock_related
    (depth : Nat)
    (b : Template.BlockStatement) :
    R Jsx.Expr
      (letBlock (config.limited first) depth b program)
      (letBlock (config.limited second) depth b program') := by
  unfold letBlock
  split
  · exact hR.refl _
  · exact hR.bind (expressions_related hR depth _)
      fun _ => hR.map _ hProgram

include hInverse

theorem conditionalBlock_related
    (depth : Nat)
    (negate : Bool)
    (b : Template.BlockStatement) :
    R Jsx.Expr
      (conditionalBlock (config.limited first) depth negate b
        program inverse)
      (conditionalBlock (config.limited second) depth negate b
        program' inverse') := by
  unfold conditionalBlock
  split
  · refine hR.bind (expression_related hR depth _) fun test => ?_
    refine hR.bind hProgram fun consequent => ?_
    exact hR.bind (inverseOrNull_related hR b hInverse)
      fun _ => hR.refl _
  · exact hR.refl _

theorem eachBlock_related
    (depth : Nat)
    (b : Template.BlockStatement) :
    R Jsx.Expr
      (eachBlock (config.limited first) depth b
        program inverse)
      (eachBlock (config.limited second) depth b
        program' inverse') := by
  unfold eachBlock
  split
  · refine hR.bind (expression_related hR depth _) fun list => ?_
    refine hR.bind hProgram fun body => ?_
    dsimp only
    split
    · exact hR.map _ hInverse
    · exact hR.refl _
  · exact hR.refl _

theorem customBlock_related
    (depth : Nat)
    (b : Template.BlockStatement) :
    R Jsx.Expr
      (customBlock (config.limited first) depth b
        program inverse)
      (customBlock (config.limited second) depth b
        program' inverse') := by
  unfold customBlock
  refine hR.bind (expressions_related hR depth _)
    fun positional => ?_
  refine hR.bind (namedArguments_related hR depth _)
    fun named => ?_
  refine hR.bind (bodyFunction_related hR b.program hProgram)
    fun one => ?_
  exact hR.map _ (bodyFunction_related hR b.inverse hInverse)

/-
  The form of a block does not depend on the bound, so that
  both resolutions take the same way.
-/
theorem standardBlock_related
    (depth : Nat)
    (b : Template.BlockStatement) :
    R Jsx.Expr
      (standardBlock (config.limited first) depth b
        program inverse)
      (standardBlock (config.limited second) depth b
        program' inverse') := by
  unfold standardBlock
  cases blockForm b with
  | ifBlock =>
      exact conditionalBlock_related hR hProgram hInverse depth
        false b
  | unlessBlock =>
      exact conditionalBlock_related hR hProgram hInverse depth
        true b
  | eachBlock =>
      exact eachBlock_related hR hProgram hInverse depth b
  | letBlock => exact letBlock_related hR hProgram depth b
  | custom =>
      exact customBlock_related hR hProgram hInverse depth b

end Blocks

end Related

------------------------------------------------------------
-- Statements
------------------------------------------------------------

/-
  Two setups whose rules keep a relation: related outcomes
  for the statements below a node give related outcomes for
  the node.
-/
structure Setup.Related
    (R : (α : Type) → Outcome α → Outcome α → Prop)
    (t t' : Setup) : Prop
    extends Sequential R where
  enter :
    ∀ (depth : Nat) (node : Template.Node),
      R Unit (enter t.config depth node)
        (enter t'.config depth node)
  mustache :
    ∀ (depth : Nat) (m : Template.Mustache),
      R Jsx.Expr (mustache t.config depth m)
        (mustache t'.config depth m)
  element :
    ∀ (depth : Nat) (el : Template.Element)
      {children children' : Unit → Outcome (List Jsx.Child)}
      {body body' : Unit → Outcome Jsx.Expr},
      R (List Jsx.Child) (children ()) (children' ()) →
      R Jsx.Expr (body ()) (body' ()) →
      R Jsx.Markup
        (t.rules.element t.config depth el children body)
        (t'.rules.element t'.config depth el children' body')
  fragment :
    ∀ kids : List Jsx.Child,
      R Jsx.Expr (t.rules.fragment kids) (t'.rules.fragment kids)
  block :
    ∀ (depth : Nat) (b : Template.BlockStatement)
      {program program' inverse inverse' :
        Unit → Outcome Jsx.Expr},
      R Jsx.Expr (program ()) (program' ()) →
      R Jsx.Expr (inverse ()) (inverse' ()) →
      R Jsx.Expr
        (t.rules.block t.config depth b program inverse)
        (t'.rules.block t'.config depth b program' inverse')
  comment :
    ∀ s : Template.Statement,
      R Jsx.Child (t.rules.comment s) (t'.rules.comment s)

/- The standard rules under two bounds keep the relation. -/
theorem Comparable.standard
    {R : (α : Type) → Outcome α → Outcome α → Prop}
    {config : Config}
    {first second : Int}
    (hR : Comparable R config first second) :
    Setup.Related R (.standard (config.limited first))
      (.standard (config.limited second)) where
  toSequential := hR.toSequential
  enter := hR.enter
  mustache := mustache_related hR
  element := fun depth el => standardElement_related hR depth el
  fragment := fun _ => hR.refl _
  block := fun depth b _ _ _ _ hProgram hInverse =>
    standardBlock_related hR hProgram hInverse depth b
  comment := fun _ => hR.refl _

section Statements

variable {R : (α : Type) → Outcome α → Outcome α → Prop}
variable {t t' : Setup}
variable (hR : Setup.Related R t t')

include hR

mutual

theorem value_related
    (depth : Nat)
    (s : Template.Statement) :
    R Jsx.Expr (value t depth s) (value t' depth s) := by
  cases s with
  | element el =>
      rw [value, value]
      exact hR.map _ (element_related depth el)
  | mustache m =>
      rw [value, value]
      exact hR.mustache depth m
  | block b =>
      rw [value, value]
      exact block_related depth b
  | absent
  | text run
  | modifier m
  | comment c
  | mustacheComment c
  | concat c =>
      rw [value, value]
      exact hR.refl _

theorem markupChildren_related
    (depth : Nat)
    (s : Template.Statement) :
    R (List Jsx.Child) (markupChildren t depth s)
      (markupChildren t' depth s) := by
  cases s with
  | element el =>
      rw [markupChildren, markupChildren]
      exact hR.map _ (element_related depth el)
  | mustache m =>
      rw [markupChildren, markupChildren]
      exact hR.map _ (hR.mustache depth m)
  | block b =>
      rw [markupChildren, markupChildren]
      exact hR.map _ (block_related depth b)
  | comment c
  | mustacheComment c =>
      rw [markupChildren, markupChildren]
      exact hR.map _ (hR.comment _)
  | absent
  | text run
  | modifier m
  | concat c =>
      rw [markupChildren, markupChildren]
      exact hR.refl _

theorem element_related
    (depth : Nat) :
    (el : Template.Element) →
      R Jsx.Markup (element t depth el) (element t' depth el)
  | ⟨tag, selfClosing, params, attributes, modifiers, comments,
      body, span⟩ => by
    rw [element, element]
    exact hR.element depth _ (children_related depth body)
      (root_related depth body)

theorem block_related
    (depth : Nat) :
    (b : Template.BlockStatement) →
      R Jsx.Expr (block t depth b) (block t' depth b)
  | ⟨invocation, program, inverse, span⟩ => by
    rw [block, block]
    exact hR.block depth _ (branch_related depth program)
      (branch_related depth inverse)

theorem branch_related
    (depth : Nat)
    (b : Template.Block) :
    R Jsx.Expr (branch t depth b) (branch t' depth b) := by
  cases b with
  | absent =>
      rw [branch, branch]
      exact hR.fragment []
  | present body params chained span =>
      rw [branch, branch]
      exact root_related depth body

theorem children_related
    (depth : Nat) :
    (body : List Template.Statement) →
      R (List Jsx.Child) (children t depth body)
        (children t' depth body)
  | [] => by
    rw [children, children]
    exact hR.refl _
  | s :: rest => by
    rw [children, children]
    refine hR.bind (hR.enter depth _) fun _ => ?_
    refine hR.bind (markupChildren_related (depth + 1) s)
      fun kids => ?_
    exact hR.map (kids ++ ·) (children_related depth rest)

theorem root_related
    (depth : Nat) :
    (body : List Template.Statement) →
      R Jsx.Expr (root t depth body) (root t' depth body)
  | [] => by
    rw [root, root]
    exact hR.fragment []
  | [s] => by
    rw [root, root]
    exact hR.bind (hR.enter depth _) fun _ =>
      value_related (depth + 1) s
  | s :: next :: rest => by
    rw [root, root]
    refine hR.bind (hR.enter depth _) fun _ => ?_
    refine hR.bind (markupChildren_related (depth + 1) s)
      fun kids => ?_
    exact hR.bind (children_related depth (next :: rest))
      fun others => hR.fragment (kids ++ others)

end

/-
  Whole templates are related, by induction over the
  statements. The rules are not opened.
-/
theorem resolve_related
    (template : Option Template) :
    R Jsx.Expr (t.resolve template) (t'.resolve template) := by
  cases template with
  | none => exact hR.refl _
  | some tree => exact root_related hR 0 tree.body

end Statements

------------------------------------------------------------
-- A Looser Bound
------------------------------------------------------------

/-
  The second outcome is the first, unless the first is a
  refusal because of the bound.
-/
def OnlyCuts
    (α : Type)
    (strict loose : Outcome α) : Prop :=
  ¬ Exceeds strict → loose = strict

/-
  The first step that is refused because of the bound
  settles the matter, and any other is the same in both.
-/
theorem OnlyCuts.sequential : Sequential OnlyCuts where
  refl := fun _ _ => rfl
  bind := by
    intro α β x y f g hFirst hNext hWithin
    cases x with
    | error e =>
        have hSame : y = .error e := by
          apply hFirst
          rintro ⟨f, hError, hKind⟩
          cases hError
          exact hWithin ⟨f, rfl, hKind⟩
        rw [hSame]
        rfl
    | ok a =>
        have hSame : y = .ok a :=
          hFirst (fun ⟨_, hError, _⟩ => nomatch hError)
        rw [hSame]
        exact hNext a hWithin

/-
  A looser bound is one that is not smaller, or none: a bound
  that is not positive admits every depth.
-/
theorem OnlyCuts.comparable
    (config : Config)
    {limit looser : Int}
    (hPositive : 0 < limit)
    (hLooser : limit ≤ looser ∨ looser ≤ 0) :
    Comparable OnlyCuts config limit looser where
  toSequential := OnlyCuts.sequential
  enter := by
    intro depth node hWithin
    by_cases hDeep : 0 < limit ∧ limit ≤ depth
    · have hCut :
          enter (config.limited limit) depth node =
            fail .maxDepthExceeded node :=
        if_pos hDeep
      rw [hCut] at hWithin
      exact absurd ⟨_, rfl, rfl⟩ hWithin
    · -- A depth below the bound is below every looser one.
      have hAdmitted : ¬ (0 < looser ∧ looser ≤ depth) := by
        omega
      exact (if_neg hAdmitted).trans (if_neg hDeep).symm

/-
  The bound only cuts. What a template gives under a bound,
  a tree or any failure but a refusal because of the bound,
  it also gives under a looser bound and under none.
-/
theorem resolve_loosened
    (config : Config)
    (limit looser : Int)
    (template : Option Template)
    (hPositive : 0 < limit)
    (hLooser : limit ≤ looser ∨ looser ≤ 0)
    (hWithin :
      ¬ Exceeds
        ((Setup.standard (config.limited limit)).resolve
          template)) :
    (Setup.standard (config.limited looser)).resolve template =
      (Setup.standard (config.limited limit)).resolve template :=
  resolve_related
    (OnlyCuts.comparable config hPositive hLooser).standard
    template hWithin

/-
  An `if` without a test stands before an element that lies
  too deep. The bound is not reached, and without it the same
  block is refused.
-/
theorem resolve_loosened_malformed :
    ∃ (t : Template) (f : Failure),
      f.kind = .malformedBlock ∧
      (Setup.standard (Config.default.limited 2)).resolve
        (some t) = .error (.failure f) ∧
      (Setup.standard (Config.default.limited 0)).resolve
        (some t) = .error (.failure f) := by
  let deep : Template.Statement :=
    .element
      ⟨"p", false, [], [], [], [],
        [.element ⟨"b", false, [], [], [], [],
          [.text ⟨"x", none⟩], none⟩], none⟩
  let test : Template.Statement :=
    .block
      ⟨⟨.path ⟨"if", "if", [], none⟩, [], .empty⟩,
        .present [] [] false none, .absent, none⟩
  let t : Template :=
    ⟨[.element ⟨"div", false, [], [], [], [], [test], none⟩,
      deep], [], none⟩
  have hRefused :
      (Setup.standard (Config.default.limited 2)).resolve
        (some t) =
        .error
          (.failure (.showing .malformedBlock (.statement test))) :=
    rfl
  have hWithin :
      ¬ Exceeds
        ((Setup.standard (Config.default.limited 2)).resolve
          (some t)) := by
    rw [hRefused]
    rintro ⟨f, hError, hKind⟩
    cases hError
    cases hKind
  refine ⟨t, _, rfl, hRefused, ?_⟩
  exact (resolve_loosened Config.default 2 0 (some t) (by decide)
    (by decide) hWithin).trans hRefused

end Resolve

end TemplateJsx
