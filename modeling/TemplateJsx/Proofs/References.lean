import TemplateJsx.Proofs.Scope

/-
  Where names are read, and under which binders. The uses of
  names in a template, each with the names that are bound
  around it, stand in the order of the identifiers of the
  resolved tree, each with the names that the functions
  around it bind.

  An argument such as `@name` is read off the identifier
  `args`. Resolution renames nothing, so that this identifier
  is captured where a body around it binds `args`, and only
  there.

  Key definitions include:
    * `Jsx.Reference`
    * `Jsx.Expr.references`
    * `Template.Use`
    * `Template.Statement.uses`
    * `Template.uses`

  Main declarations:
    * `Resolve.expression_references`
    * `Resolve.standardElement_references`
    * `Resolve.standardBlock_references`
    * `Resolve.root_references`
    * `Resolve.resolve_argument_scope`
-/

------------------------------------------------------------
-- References of Trees
------------------------------------------------------------

namespace TemplateJsx

namespace Jsx

/-
  An identifier with the properties that are read off it, and
  the names that the functions around it bind.
-/
structure Reference where
  bound : List String
  name : String
  properties : List String
  deriving DecidableEq, Repr

/- No function around the identifier binds it. -/
def Reference.IsFree (r : Reference) : Prop :=
  r.name ∉ r.bound

instance (r : Reference) : Decidable r.IsFree :=
  inferInstanceAs (Decidable (_ ∉ _))

mutual

/-
  The references of an expression, in order, where the names
  `bound` are bound and `properties` are read off it.
-/
def Expr.references
    (bound properties : List String) : Expr → List Reference
  | .identifier name => [⟨bound, name, properties⟩]
  | .member base property =>
      base.references bound (property :: properties)
  | .call callee arguments =>
      callee.references bound []
        ++ argumentReferences bound arguments
  | .object members => propertyReferences bound members
  | .binary _ left right =>
      left.references bound [] ++ right.references bound []
  | .conditional test consequent alternate =>
      test.references bound [] ++ consequent.references bound []
        ++ alternate.references bound []
  | .arrow params body => body.references (params ++ bound) []
  | .markup m => m.references bound
  | .string _ => []
  | .number _ => []
  | .boolean _ => []
  | .null => []
  | .empty _ => []

/- The references of arguments. -/
def argumentReferences
    (bound : List String) : List Expr → List Reference
  | [] => []
  | e :: rest =>
      e.references bound [] ++ argumentReferences bound rest

/- The references of the values of properties. -/
def propertyReferences
    (bound : List String) : List Property → List Reference
  | [] => []
  | .mk _ value :: rest =>
      value.references bound [] ++ propertyReferences bound rest

/- The references of markup. -/
def Markup.references
    (bound : List String) : Markup → List Reference
  | .element _ attributes children _ =>
      attributeReferences bound attributes
        ++ childReferences bound children
  | .fragment children => childReferences bound children

/- The references of an attribute. -/
def Attribute.references
    (bound : List String) : Attribute → List Reference
  | .container _ value => value.references bound []
  | .spread argument => argument.references bound []
  | .bare _ => []
  | .text _ _ => []

/- The references of attributes. -/
def attributeReferences
    (bound : List String) : List Attribute → List Reference
  | [] => []
  | a :: rest =>
      a.references bound ++ attributeReferences bound rest

/- The references of a child. -/
def Child.references
    (bound : List String) : Child → List Reference
  | .markup m => m.references bound
  | .container e => e.references bound []
  | .text _ => []

/- The references of children. -/
def childReferences
    (bound : List String) : List Child → List Reference
  | [] => []
  | c :: rest =>
      c.references bound ++ childReferences bound rest

end

section Lists

variable (bound : List String)

theorem argumentReferences_append (xs ys : List Expr) :
    argumentReferences bound (xs ++ ys) =
      argumentReferences bound xs
        ++ argumentReferences bound ys := by
  induction xs with
  | nil => rfl
  | cons x xs ih =>
      rw [List.cons_append, argumentReferences, ih,
        argumentReferences, List.append_assoc]

theorem attributeReferences_append (xs ys : List Attribute) :
    attributeReferences bound (xs ++ ys) =
      attributeReferences bound xs
        ++ attributeReferences bound ys := by
  induction xs with
  | nil => rfl
  | cons x xs ih =>
      rw [List.cons_append, attributeReferences, ih,
        attributeReferences, List.append_assoc]

theorem childReferences_append (xs ys : List Child) :
    childReferences bound (xs ++ ys) =
      childReferences bound xs ++ childReferences bound ys := by
  induction xs with
  | nil => rfl
  | cons x xs ih =>
      rw [List.cons_append, childReferences, ih, childReferences,
        List.append_assoc]

theorem argumentReferences_singleton (e : Expr) :
    argumentReferences bound [e] = e.references bound [] := by
  rw [argumentReferences, argumentReferences, List.append_nil]

theorem childReferences_singleton (c : Child) :
    childReferences bound [c] = c.references bound := by
  rw [childReferences, childReferences, List.append_nil]

/- The properties along a path are read off its base. -/
theorem references_extend
    (base : Expr)
    (names properties : List String) :
    (base.extend names).references bound properties =
      base.references bound (names ++ properties) := by
  induction names generalizing base with
  | nil => rfl
  | cons name names ih =>
      exact (ih (base.append name)).trans
        (by rw [Expr.append, Expr.references, List.cons_append])

/- Raw text refers to nothing. -/
theorem childReferences_textChildrenFrom (run cs : List Char) :
    childReferences bound (textChildrenFrom run cs) = [] := by
  induction cs generalizing run with
  | nil => rfl
  | cons c rest ih =>
      rw [textChildrenFrom]
      split
      · simp [childReferences, braceChild, Child.references,
          Expr.references, ih]
      · exact ih (c :: run)

end Lists

end Jsx

------------------------------------------------------------
-- Uses in Templates
------------------------------------------------------------

namespace Template

/- What is used: a path, or a name that stands for itself. -/
inductive Subject where
  | path (path : Path)
  | name (name : String)
  deriving DecidableEq, Repr

/-
  A use, with the names that are bound around it and the
  properties that the block around it reads off it.
-/
structure Use where
  bound : List String
  subject : Subject
  properties : List String
  deriving DecidableEq, Repr

/-
  The reference that a use becomes. An argument is a property
  of `args`.
-/
def Use.reference : Use → Jsx.Reference
  | ⟨bound, .path p, properties⟩ =>
      if p.IsArgument then
        ⟨bound, "args", p.segments ++ properties⟩
      else
        ⟨bound, p.head, p.tail ++ properties⟩
  | ⟨bound, .name name, properties⟩ => ⟨bound, name, properties⟩

/- What is called: a path with a head, or `undefined`. -/
def Expr.calleeUses
    (bound : List String) : Expr → List Use
  | .path p =>
      if p.head = "" then [⟨bound, .name "undefined", []⟩]
      else [⟨bound, .path p, []⟩]
  | _ => [⟨bound, .name "undefined", []⟩]

mutual

/- The uses in an expression. -/
def Expr.uses
    (bound properties : List String) : Expr → List Use
  | .path p => [⟨bound, .path p, properties⟩]
  | .undefined _ => [⟨bound, .name "undefined", properties⟩]
  | .call i _ => i.uses bound
  | _ => []

/- The uses in an invocation. -/
def Invocation.uses
    (bound : List String) : Invocation → List Use
  | ⟨callee, params, ⟨pairs, _⟩⟩ =>
      callee.calleeUses bound ++ paramUses bound [] params
        ++ pairUses bound pairs

/- The uses in positional arguments. -/
def paramUses
    (bound properties : List String) : List Expr → List Use
  | [] => []
  | e :: rest =>
      e.uses bound properties ++ paramUses bound properties rest

/- The uses in named arguments. -/
def pairUses
    (bound : List String) : List Pair → List Use
  | [] => []
  | ⟨_, value, _⟩ :: rest =>
      value.uses bound [] ++ pairUses bound rest

end

/-
  The uses in braces. Without positional arguments, the named
  ones are not looked at.
-/
def Mustache.uses
    (bound : List String)
    (m : Mustache) : List Use :=
  match m.invocation.params with
  | [] => m.invocation.callee.uses bound []
  | _ => m.invocation.uses bound

/- The uses in a part of an interpolated text. -/
def TextPart.uses
    (bound : List String) : TextPart → List Use
  | .mustache m => m.uses bound
  | _ => []

/-
  The uses in an attribute. `...attributes` is a use of the
  caller's attributes, whatever its value is.
-/
def Attribute.uses
    (bound : List String)
    (a : Attribute) : List Use :=
  if a.name = "...attributes" then
    [⟨bound, .name "attributes", []⟩]
  else
    match a.value with
    | .mustache m => m.uses bound
    | .concat c => c.parts.flatMap (TextPart.uses bound)
    | _ => []

/- The uses in the handler of an event. -/
def Modifier.uses
    (bound : List String)
    (m : Modifier) : List Use :=
  match m.invocation.params with
  | [_, handler] => handler.uses bound []
  | _ => []

mutual

/- The uses in a statement. -/
def Statement.uses
    (bound : List String) : Statement → List Use
  | .element e => e.uses bound
  | .mustache m => m.uses bound
  | .block b => b.uses bound
  | _ => []

/-
  The uses in an element, which binds names in its children
  and not in its opening tag.
-/
def Element.uses
    (bound : List String) : Element → List Use
  | ⟨_, _, params, attributes, modifiers, _, body, _⟩ =>
      attributes.flatMap (Attribute.uses bound)
        ++ modifiers.flatMap (Modifier.uses bound)
        ++ bodyUses (params ++ bound) body

/-
  The uses in a block, in the order of its tree. A condition
  binds nothing. A loop binds names in its first body, and
  its list is read twice if there is another body. Names are
  bound in the body of a `let`, which stands before the
  arguments, and in both bodies of any other block.
-/
def BlockStatement.uses
    (bound : List String) : BlockStatement → List Use
  | ⟨i, program, inverse, _⟩ =>
      if i.keyword = "if" then
        paramUses bound [] i.params
          ++ program.uses bound ++ inverse.uses bound
      else if i.keyword = "unless" then
        paramUses bound [] i.params
          ++ inverse.uses bound ++ program.uses bound
      else if i.keyword = "each" then
        (if inverse.IsPresent then
          paramUses bound ["length"] i.params
        else
          [])
          ++ (paramUses bound ["map"] i.params
            ++ program.uses (program.blockParams ++ bound))
          ++ inverse.uses bound
      else if i.keyword = "let" ∨ i.keyword = "with" then
        program.uses (program.blockParams ++ bound)
          ++ paramUses bound [] i.params
      else
        i.uses bound
          ++ program.uses (program.blockParams ++ bound)
          ++ inverse.uses (inverse.blockParams ++ bound)

/- The uses in a body, where the names are already bound. -/
def Block.uses
    (bound : List String) : Block → List Use
  | .absent => []
  | .present body _ _ _ => bodyUses bound body

/- The uses in a list of statements. -/
def bodyUses
    (bound : List String) : List Statement → List Use
  | [] => []
  | s :: rest => s.uses bound ++ bodyUses bound rest

end

/- The uses in a block, by the name that the block calls. -/
theorem BlockStatement.uses_eq
    (b : BlockStatement)
    (bound : List String) :
    b.uses bound =
      if b.invocation.keyword = "if" then
        paramUses bound [] b.invocation.params
          ++ b.program.uses bound ++ b.inverse.uses bound
      else if b.invocation.keyword = "unless" then
        paramUses bound [] b.invocation.params
          ++ b.inverse.uses bound ++ b.program.uses bound
      else if b.invocation.keyword = "each" then
        (if b.inverse.IsPresent then
          paramUses bound ["length"] b.invocation.params
        else
          [])
          ++ (paramUses bound ["map"] b.invocation.params
            ++ b.program.uses (b.program.blockParams ++ bound))
          ++ b.inverse.uses bound
      else if b.invocation.keyword = "let" ∨
          b.invocation.keyword = "with" then
        b.program.uses (b.program.blockParams ++ bound)
          ++ paramUses bound [] b.invocation.params
      else
        b.invocation.uses bound
          ++ b.program.uses (b.program.blockParams ++ bound)
          ++ b.inverse.uses (b.inverse.blockParams ++ bound) := by
  rcases b with ⟨i, program, inverse, span⟩
  rw [BlockStatement.uses]

end Template

/- The uses of names in a template. -/
def Template.uses (t : Template) : List Template.Use :=
  Template.bodyUses [] t.body

------------------------------------------------------------
-- Expressions
------------------------------------------------------------

namespace Resolve

open Template (Use)

variable {config : Config}
variable {bound : List String}

/- The names of a path after the first are its tail. -/
theorem tail_of_segments
    {p : Template.Path}
    {head : String}
    {tail : List String}
    (hNames : p.segments = head :: tail) :
    p.tail = tail := by
  unfold Template.Path.segments at hNames
  split at hNames
  · cases hNames
  · injection hNames
  · injection hNames

/- A path is one reference, to its head or to the arguments. -/
theorem path_references
    {properties : List String}
    {p : Template.Path}
    {x : Jsx.Expr}
    (hPath : path p = .ok x) :
    x.references bound properties =
      [Use.reference ⟨bound, .path p, properties⟩] := by
  rcases path_eq_ok hPath with ⟨head, tail, hNames, _⟩
  rw [path_of_segments hNames] at hPath
  cases hPath
  rw [Jsx.references_extend, Use.reference]
  by_cases hArgument : p.IsArgument
  · rw [if_pos hArgument, if_pos hArgument, hNames,
      Jsx.Expr.references, Jsx.Expr.references]
    rfl
  · rw [if_neg hArgument, if_neg hArgument,
      head_of_segments hNames hArgument,
      tail_of_segments hNames, Jsx.Expr.references]

/- What is called is one reference. -/
theorem callee_references (target : Template.Expr) :
    (callee target).references bound [] =
      (target.calleeUses bound).map Use.reference := by
  cases target with
  | path p =>
      rw [Template.Expr.calleeUses]
      rcases callee_path_cases p with
        ⟨hHead, hCallee⟩ | ⟨hHead, hCallee⟩
      · rw [if_pos hHead, hCallee]
        rfl
      · rw [if_neg hHead]
        exact path_references hCallee
  | _ => rfl

/- The object of named arguments refers to what they do. -/
theorem hashObject_references (named : List Jsx.Property) :
    (hashObject named).references bound [] =
      Jsx.propertyReferences bound named := by
  simp [hashObject, Jsx.Expr.references, Jsx.propertyReferences]

mutual

/-
  A resolved expression refers to what the expression uses.
  The properties that are read off it belong to its one
  reference if it is a path, and to none if it is a call.
-/
theorem expression_references
    (depth : Nat)
    (properties : List String)
    (e : Template.Expr)
    (x : Jsx.Expr)
    (hExpr : expression config depth e = .ok x) :
    x.references bound properties =
      (e.uses bound properties).map Use.reference := by
  cases e with
  | path p =>
      rw [Template.Expr.uses]
      exact path_references (expression_path_eq_ok hExpr)
  | call i span =>
      rw [expression] at hExpr
      rcases bind_eq_ok hExpr with ⟨_, _, hCall⟩
      rw [Template.Expr.uses]
      exact helperCall_references (depth + 1) properties i x hCall
  | absent =>
      rw [expression] at hExpr
      rcases bind_eq_ok hExpr with ⟨_, _, hAbsent⟩
      cases hAbsent
  | undefined span
  | boolean value span
  | null span
  | number value span
  | string value span =>
      rw [expression] at hExpr
      rcases bind_eq_ok hExpr with ⟨_, _, hLeaf⟩
      cases hLeaf
      rfl

/- A call refers to the callee, then to the arguments. -/
theorem helperCall_references
    (depth : Nat)
    (properties : List String) :
    (i : Template.Invocation) →
      (x : Jsx.Expr) →
      (hCall : helperCall config depth i = .ok x) →
      x.references bound properties =
        (i.uses bound).map Use.reference
  | ⟨target, params, ⟨pairs, span⟩⟩, x, hCall => by
    rcases helperCall_eq_ok hCall with
      ⟨positional, named, hParams, hNamed, rfl⟩
    rw [Jsx.Expr.references, Jsx.argumentReferences_append,
      Jsx.argumentReferences_singleton, hashObject_references,
      callee_references,
      expressions_references depth params positional hParams,
      namedArguments_references depth pairs named hNamed,
      Template.Invocation.uses, List.map_append, List.map_append,
      List.append_assoc]

theorem expressions_references
    (depth : Nat) :
    (es : List Template.Expr) →
      (xs : List Jsx.Expr) →
      (hAll : expressions config depth es = .ok xs) →
      Jsx.argumentReferences bound xs =
        (Template.paramUses bound [] es).map Use.reference
  | [], xs, hAll => by
    rw [expressions] at hAll
    cases hAll
    rfl
  | e :: rest, xs, hAll => by
    rcases expressions_cons_eq_ok hAll with
      ⟨first, others, hFirst, hOthers, rfl⟩
    rw [Jsx.argumentReferences, Template.paramUses,
      List.map_append,
      expression_references depth [] e first hFirst,
      expressions_references depth rest others hOthers]

theorem namedArguments_references
    (depth : Nat) :
    (pairs : List Template.Pair) →
      (ps : List Jsx.Property) →
      (hAll : namedArguments config depth pairs = .ok ps) →
      Jsx.propertyReferences bound ps =
        (Template.pairUses bound pairs).map Use.reference
  | [], ps, hAll => by
    rw [namedArguments] at hAll
    cases hAll
    rfl
  | ⟨key, value, span⟩ :: rest, ps, hAll => by
    rcases namedArguments_cons_eq_ok hAll with
      ⟨first, others, hFirst, hOthers, rfl⟩
    rw [Jsx.propertyReferences, Template.pairUses,
      List.map_append,
      expression_references depth [] value first hFirst,
      namedArguments_references depth rest others hOthers]

end

------------------------------------------------------------
-- Values in Opening Tags
------------------------------------------------------------

/- What stands in braces refers to what is used there. -/
theorem mustache_references
    {depth : Nat}
    {m : Template.Mustache}
    {x : Jsx.Expr}
    (hMustache : mustache config depth m = .ok x) :
    x.references bound [] =
      (m.uses bound).map Use.reference := by
  unfold Template.Mustache.uses
  rcases mustache_eq_ok hMustache with
    ⟨hNone, hCallee⟩ | ⟨hSome, hCall⟩
  · simp only [hNone]
    exact expression_references depth [] _ x hCallee
  · cases hParams : m.invocation.params with
    | nil => exact absurd hParams hSome
    | cons param rest =>
        exact helperCall_references depth [] _ x hCall

theorem partValue_references
    {depth : Nat}
    {part : Template.TextPart}
    {x : Jsx.Expr}
    (hPart : partValue config depth part = .ok x) :
    x.references bound [] =
      (part.uses bound).map Use.reference := by
  rcases partValue_eq_ok hPart with
    ⟨run, rfl, rfl⟩ | ⟨m, rfl, hMustache⟩
  · rfl
  · exact mustache_references hMustache

/- The parts of a text are added up from the left, in order. -/
theorem sumFrom_references
    {depth : Nat}
    {sum x : Jsx.Expr}
    {parts : List Template.TextPart}
    (hSum : sumFrom config depth sum parts = .ok x) :
    x.references bound [] =
      sum.references bound [] ++
        (parts.flatMap (Template.TextPart.uses bound)).map
          Use.reference := by
  induction parts generalizing sum with
  | nil =>
      cases hSum
      exact (List.append_nil _).symm
  | cons part rest ih =>
      rcases bind_eq_ok hSum with ⟨next, hNext, hSum⟩
      rw [ih hSum, Jsx.Expr.references,
        partValue_references hNext, List.flatMap_cons,
        List.map_append, List.append_assoc]

theorem concat_references
    {depth : Nat}
    {parts : List Template.TextPart}
    {x : Jsx.Expr}
    (hConcat : concat config depth parts = .ok x) :
    x.references bound [] =
      (parts.flatMap (Template.TextPart.uses bound)).map
        Use.reference := by
  cases parts with
  | nil =>
      cases hConcat
      rfl
  | cons part rest =>
      rcases bind_eq_ok hConcat with ⟨first, hFirst, hSum⟩
      rw [sumFrom_references hSum, partValue_references hFirst,
        List.flatMap_cons, List.map_append]

/- A resolved attribute refers to what the attribute uses. -/
theorem attributeOf_references
    {depth : Nat}
    {a : Template.Attribute}
    {result : Jsx.Attribute}
    (hAttribute : attributeOf config depth a = .ok result) :
    result.references bound =
      (a.uses bound).map Use.reference := by
  unfold Template.Attribute.uses
  rcases attributeOf_eq_ok hAttribute with
    ⟨hName, rfl⟩ | ⟨hName, hValue⟩
  · unfold splattributes at hName
    rw [if_pos hName]
    rfl
  · unfold splattributes at hName
    rw [if_neg hName]
    rcases hValue with
      ⟨rfl, hAbsent | ⟨run, hText⟩⟩ | ⟨run, hText, rfl⟩ |
        ⟨m, x, hValue, hX, rfl⟩ | ⟨c, x, hValue, hX, rfl⟩
    · rw [hAbsent]
      rfl
    · rw [hText]
      rfl
    · rw [hText]
      rfl
    · rw [hValue, Jsx.Attribute.references]
      exact mustache_references hX
    · rw [hValue, Jsx.Attribute.references]
      exact concat_references hX

/- A resolved modifier refers to what its handler uses. -/
theorem modifier_references
    {depth : Nat}
    {m : Template.Modifier}
    {result : Jsx.Attribute}
    (hModifier : modifier config depth m = .ok result) :
    result.references bound =
      (m.uses bound).map Use.reference := by
  rcases modifier_eq_ok hModifier with
    ⟨first, event, handler, x, hParams, hHandler, rfl⟩
  unfold Template.Modifier.uses
  rw [hParams, Jsx.Attribute.references]
  exact expression_references depth [] handler x hHandler

/- What is found for each member of a list is found for all. -/
theorem mapM_references
    {α : Type}
    {f : α → Outcome Jsx.Attribute}
    {uses : α → List Use}
    {as : List α}
    {results : List Jsx.Attribute}
    (hEach : ∀ a result, f a = .ok result →
      result.references bound = (uses a).map Use.reference)
    (hAll : as.mapM f = .ok results) :
    Jsx.attributeReferences bound results =
      (as.flatMap uses).map Use.reference := by
  induction as generalizing results with
  | nil =>
      cases hAll
      rfl
  | cons a rest ih =>
      rcases mapM_eq_ok_cons hAll with
        ⟨first, others, hFirst, hOthers, rfl⟩
      rw [Jsx.attributeReferences, hEach a first hFirst,
        ih hOthers, List.flatMap_cons, List.map_append]

------------------------------------------------------------
-- Elements
------------------------------------------------------------

/-
  A resolved element refers to what the element uses,
  provided that this holds of its children under the names
  that the element binds.
-/
theorem standardElement_references
    {depth : Nat}
    {el : Template.Element}
    {children : Unit → Outcome (List Jsx.Child)}
    {body : Unit → Outcome Jsx.Expr}
    {m : Jsx.Markup}
    (hChildren : ∀ cs, children () = .ok cs →
      Jsx.childReferences (el.blockParams ++ bound) cs =
        (Template.bodyUses (el.blockParams ++ bound)
          el.children).map Use.reference)
    (hBody : ∀ x, body () = .ok x →
      x.references (el.blockParams ++ bound) [] =
        (Template.bodyUses (el.blockParams ++ bound)
          el.children).map Use.reference)
    (hElement :
      standardElement config depth el children body = .ok m) :
    m.references bound = (el.uses bound).map Use.reference := by
  rcases standardElement_eq_ok hElement with
    ⟨attributes, events, kids, closing, hAttributes, hEvents,
      hKids, rfl⟩
  have hKids :
      Jsx.childReferences bound kids =
        (Template.bodyUses (el.blockParams ++ bound)
          el.children).map Use.reference := by
    rcases elementChildren_eq_ok hKids with
      ⟨hNone, hPlain⟩ | ⟨x, hX, rfl⟩
    · rw [← hChildren kids hPlain, hNone, List.nil_append]
    · rw [Jsx.childReferences_singleton, Jsx.Child.references,
        Jsx.Expr.references, hBody x hX]
  rcases el with
    ⟨tag, selfClosing, params, as, ms, comments, body, span⟩
  rw [Jsx.Markup.references, Jsx.attributeReferences_append,
    mapM_references (fun _ _ => attributeOf_references)
      hAttributes,
    mapM_references (fun _ _ => modifier_references) hEvents,
    hKids, Template.Element.uses, List.map_append,
    List.map_append]

------------------------------------------------------------
-- Blocks
------------------------------------------------------------

section Blocks

variable {depth : Nat}
variable {b : Template.BlockStatement}
variable {program inverse : Unit → Outcome Jsx.Expr}
variable {x : Jsx.Expr}

/- A body that is not there uses nothing. -/
theorem uses_of_not_isPresent
    {block : Template.Block}
    (hNone : ¬ block.IsPresent) :
    block.uses bound = [] := by
  cases block with
  | absent => rfl
  | present body params chained span =>
      exact absurd trivial hNone

/-
  The body of a block refers to what it uses, under any
  binders.
-/
def BodyRefers
    (block : Template.Block)
    (body : Unit → Outcome Jsx.Expr) : Prop :=
  ∀ bound y, body () = .ok y →
    y.references bound [] =
      (block.uses bound).map Use.reference

theorem inverseOrNull_references
    (hInverse : BodyRefers b.inverse inverse)
    (hOther : inverseOrNull b inverse = .ok x) :
    x.references bound [] =
      (b.inverse.uses bound).map Use.reference := by
  rcases inverseOrNull_eq_ok hOther with
    ⟨_, hSome⟩ | ⟨hNone, rfl⟩
  · exact hInverse bound x hSome
  · rw [uses_of_not_isPresent hNone]
    rfl

/- A condition binds nothing; `unless` exchanges the bodies. -/
theorem conditionalBlock_references
    {negate : Bool}
    (hProgram : BodyRefers b.program program)
    (hInverse : BodyRefers b.inverse inverse)
    (hBlock :
      conditionalBlock config depth negate b program inverse =
        .ok x) :
    x.references bound [] =
      (Template.paramUses bound [] b.invocation.params ++
        (if negate then
          b.inverse.uses bound ++ b.program.uses bound
        else
          b.program.uses bound ++ b.inverse.uses bound)).map
        Use.reference := by
  rcases conditionalBlock_eq_ok hBlock with
    ⟨param, test, consequent, alternate, hParams, hTest,
      hConsequent, hAlternate, hExpr⟩
  have hTest :
      test.references bound [] =
        (Template.paramUses bound [] b.invocation.params).map
          Use.reference := by
    rw [hParams, Template.paramUses, Template.paramUses,
      List.append_nil]
    exact expression_references depth [] param test hTest
  have hConsequent := hProgram bound consequent hConsequent
  have hAlternate :
      alternate.references bound [] =
        (b.inverse.uses bound).map Use.reference :=
    inverseOrNull_references hInverse hAlternate
  cases negate with
  | true =>
      rw [hExpr, if_pos rfl, if_pos rfl, Jsx.Expr.references,
        hTest, hConsequent, hAlternate, List.map_append,
        List.map_append, List.append_assoc]
  | false =>
      rw [hExpr, if_neg Bool.false_ne_true,
        if_neg Bool.false_ne_true, Jsx.Expr.references, hTest,
        hConsequent, hAlternate, List.map_append,
        List.map_append, List.append_assoc]

/-
  A loop reads `map` off its list, and before that `length`
  if there is a body for the empty list.
-/
theorem eachBlock_references
    (hProgram : BodyRefers b.program program)
    (hInverse : BodyRefers b.inverse inverse)
    (hBlock :
      eachBlock config depth b program inverse = .ok x) :
    x.references bound [] =
      ((if b.inverse.IsPresent then
          Template.paramUses bound ["length"] b.invocation.params
        else
          [])
        ++ (Template.paramUses bound ["map"] b.invocation.params
          ++ b.program.uses (b.program.blockParams ++ bound))
        ++ b.inverse.uses bound).map Use.reference := by
  rcases eachBlock_eq_ok hBlock with
    ⟨param, list, body, hParams, hList, hBody, hExpr⟩
  have hRead (property : String) :
      (list.append property).references bound [] =
        (Template.paramUses bound [property]
          b.invocation.params).map Use.reference := by
    rw [hParams, Template.paramUses, Template.paramUses,
      List.append_nil, Jsx.Expr.append, Jsx.Expr.references]
    exact expression_references depth [property] param list hList
  have hMapped :
      (Jsx.Expr.call (list.append "map")
        [.arrow b.program.blockParams body]).references bound [] =
        (Template.paramUses bound ["map"] b.invocation.params
          ++ b.program.uses
            (b.program.blockParams ++ bound)).map
          Use.reference := by
    rw [Jsx.Expr.references, hRead,
      Jsx.argumentReferences_singleton, Jsx.Expr.references,
      hProgram _ body hBody, List.map_append]
  rcases hExpr with ⟨hSome, other, hOther, rfl⟩ | ⟨hNone, rfl⟩
  · rw [if_pos hSome, Jsx.Expr.references, hRead, hMapped,
      hInverse bound other hOther]
    simp only [List.map_append]
  · rw [if_neg hNone, uses_of_not_isPresent hNone,
      List.nil_append, List.append_nil, hMapped]

/- The function of a `let` stands before its arguments. -/
theorem letBlock_references
    (hProgram : BodyRefers b.program program)
    (hBlock : letBlock config depth b program = .ok x) :
    x.references bound [] =
      (b.program.uses (b.program.blockParams ++ bound)
        ++ Template.paramUses bound [] b.invocation.params).map
        Use.reference := by
  rcases letBlock_eq_ok hBlock with
    ⟨arguments, body, hArguments, hBody, rfl⟩
  rw [Jsx.Expr.references, Jsx.Expr.references,
    hProgram _ body hBody,
    expressions_references depth _ arguments hArguments,
    List.map_append]

/- A body that is passed on is a function or not there. -/
theorem bodyFunction_references
    {block : Template.Block}
    {body : Unit → Outcome Jsx.Expr}
    {xs : List Jsx.Expr}
    (hBody : BodyRefers block body)
    (hFunction : bodyFunction block body = .ok xs) :
    Jsx.argumentReferences bound xs =
      (block.uses (block.blockParams ++ bound)).map
        Use.reference := by
  rcases bodyFunction_eq_ok hFunction with
    ⟨y, _, hY, rfl⟩ | ⟨hNone, rfl⟩
  · rw [Jsx.argumentReferences_singleton, Jsx.Expr.references]
    exact hBody _ y hY
  · rw [uses_of_not_isPresent hNone]
    rfl

/-
  Any other block is a call whose bodies are functions of
  the names they bind.
-/
theorem customBlock_references
    (hProgram : BodyRefers b.program program)
    (hInverse : BodyRefers b.inverse inverse)
    (hBlock :
      customBlock config depth b program inverse = .ok x) :
    x.references bound [] =
      (b.invocation.uses bound
        ++ b.program.uses (b.program.blockParams ++ bound)
        ++ b.inverse.uses
          (b.inverse.blockParams ++ bound)).map
        Use.reference := by
  rcases customBlock_eq_ok hBlock with
    ⟨positional, named, first, second, hParams, hNamed,
      hFirst, hSecond, rfl⟩
  have hUses :
      b.invocation.uses bound =
        b.invocation.callee.calleeUses bound ++
          Template.paramUses bound [] b.invocation.params ++
          Template.pairUses bound b.invocation.hash.pairs := by
    rcases b with ⟨⟨target, params, ⟨pairs, span⟩⟩, _, _, _⟩
    rw [Template.Invocation.uses]
  rw [hUses, Jsx.Expr.references, callee_references]
  simp only [Jsx.argumentReferences_append,
    Jsx.argumentReferences_singleton, hashObject_references]
  rw [expressions_references depth _ positional hParams,
    namedArguments_references depth _ named hNamed,
    bodyFunction_references hProgram hFirst,
    bodyFunction_references hInverse hSecond]
  simp only [List.map_append, List.append_assoc]

/-
  A resolved block refers to what the block uses, provided
  that this holds of its bodies under any binders.
-/
theorem standardBlock_references
    (hProgram : BodyRefers b.program program)
    (hInverse : BodyRefers b.inverse inverse)
    (hBlock :
      standardBlock config depth b program inverse = .ok x) :
    x.references bound [] =
      (b.uses bound).map Use.reference := by
  unfold standardBlock at hBlock
  rw [blockForm_eq] at hBlock
  have hUses := b.uses_eq bound
  by_cases hIf : b.invocation.keyword = "if"
  · rw [if_pos hIf] at hBlock hUses
    rw [hUses, conditionalBlock_references hProgram hInverse hBlock,
      if_neg Bool.false_ne_true, List.append_assoc]
  rw [if_neg hIf] at hBlock hUses
  by_cases hUnless : b.invocation.keyword = "unless"
  · rw [if_pos hUnless] at hBlock hUses
    rw [hUses, conditionalBlock_references hProgram hInverse hBlock,
      if_pos rfl, List.append_assoc]
  rw [if_neg hUnless] at hBlock hUses
  by_cases hEach : b.invocation.keyword = "each"
  · rw [if_pos hEach] at hBlock hUses
    rw [hUses]
    exact eachBlock_references hProgram hInverse hBlock
  rw [if_neg hEach] at hBlock hUses
  by_cases hLet :
      b.invocation.keyword = "let" ∨ b.invocation.keyword = "with"
  · rw [if_pos hLet] at hBlock hUses
    rw [hUses]
    exact letBlock_references hProgram hBlock
  rw [if_neg hLet] at hBlock hUses
  rw [hUses]
  exact customBlock_references hProgram hInverse hBlock

end Blocks

------------------------------------------------------------
-- Statements
------------------------------------------------------------

/- A statement among children refers to what its value does. -/
theorem markupChildren_references
    {depth : Nat}
    {s : Template.Statement}
    {cs : List Jsx.Child}
    (hValue : ∀ x,
      value (Setup.standard config) depth s = .ok x →
        x.references bound [] =
          (s.uses bound).map Use.reference)
    (hChildren :
      markupChildren (Setup.standard config) depth s =
        .ok cs) :
    Jsx.childReferences bound cs =
      (s.uses bound).map Use.reference := by
  rcases markupChildren_eq_ok hChildren with
    ⟨run, rfl, rfl⟩ | ⟨c, rfl | rfl, rfl⟩ |
      ⟨x, hX, ⟨m, rfl, rfl⟩ | rfl⟩
  · rw [Jsx.textChildren, Jsx.childReferences_textChildrenFrom]
    rfl
  · rfl
  · rfl
  · rw [Jsx.childReferences_singleton, Jsx.Child.references]
    exact hValue _ hX
  · rw [Jsx.childReferences_singleton, Jsx.Child.references]
    exact hValue x hX

mutual

theorem value_references
    (depth : Nat)
    (bound : List String)
    (s : Template.Statement)
    (x : Jsx.Expr)
    (hValue :
      value (Setup.standard config) depth s = .ok x) :
    x.references bound [] =
      (s.uses bound).map Use.reference := by
  cases s with
  | element e =>
      rw [value] at hValue
      rcases bind_eq_ok hValue with ⟨m, hMarkup, hValue⟩
      cases hValue
      rw [Jsx.Expr.references, Template.Statement.uses]
      exact element_references depth bound e m hMarkup
  | text run =>
      rw [value] at hValue
      cases hValue
      rfl
  | mustache m =>
      rw [value] at hValue
      exact mustache_references hValue
  | block b =>
      rw [value] at hValue
      exact block_references depth bound b x hValue
  | comment c
  | mustacheComment c
  | modifier m
  | concat c
  | absent =>
      rw [value] at hValue
      cases hValue

theorem element_references
    (depth : Nat)
    (bound : List String) :
    (e : Template.Element) →
      (m : Jsx.Markup) →
      (hElement :
        element (Setup.standard config) depth e = .ok m) →
      m.references bound = (e.uses bound).map Use.reference
  | ⟨_, _, params, _, _, _, body, _⟩, m, hElement => by
    rw [element] at hElement
    exact standardElement_references
      (children_references depth (params ++ bound) body)
      (root_references depth (params ++ bound) body)
      hElement

theorem block_references
    (depth : Nat)
    (bound : List String) :
    (b : Template.BlockStatement) →
      (x : Jsx.Expr) →
      (hBlock :
        block (Setup.standard config) depth b = .ok x) →
      x.references bound [] =
        (b.uses bound).map Use.reference
  | ⟨_, program, inverse, _⟩, x, hBlock => by
    rw [block] at hBlock
    exact standardBlock_references
      (fun inner => branch_references depth inner program)
      (fun inner => branch_references depth inner inverse)
      hBlock

theorem branch_references
    (depth : Nat)
    (bound : List String) :
    (b : Template.Block) →
      (x : Jsx.Expr) →
      (hBranch :
        branch (Setup.standard config) depth b = .ok x) →
      x.references bound [] =
        (b.uses bound).map Use.reference
  | .absent, x, hBranch => by
    rw [branch] at hBranch
    cases hBranch
    rfl
  | .present body _ _ _, x, hBranch => by
    rw [branch] at hBranch
    exact root_references depth bound body x hBranch

theorem children_references
    (depth : Nat)
    (bound : List String) :
    (body : List Template.Statement) →
      (cs : List Jsx.Child) →
      (hChildren :
        children (Setup.standard config) depth body =
          .ok cs) →
      Jsx.childReferences bound cs =
        (Template.bodyUses bound body).map Use.reference
  | [], cs, hChildren => by
    rw [children] at hChildren
    cases hChildren
    rfl
  | s :: rest, cs, hChildren => by
    rcases children_cons_eq_ok hChildren with
      ⟨first, others, hFirst, hOthers, rfl⟩
    rw [Jsx.childReferences_append, Template.bodyUses,
      List.map_append,
      markupChildren_references
        (value_references (depth + 1) bound s) hFirst,
      children_references depth bound rest others hOthers]

theorem root_references
    (depth : Nat)
    (bound : List String) :
    (body : List Template.Statement) →
      (x : Jsx.Expr) →
      (hRoot :
        root (Setup.standard config) depth body = .ok x) →
      x.references bound [] =
        (Template.bodyUses bound body).map Use.reference
  | [], x, hRoot => by
    rw [root] at hRoot
    cases hRoot
    rfl
  | [s], x, hRoot => by
    rw [root] at hRoot
    rcases bind_eq_ok hRoot with ⟨_, _, hValue⟩
    rw [Template.bodyUses, Template.bodyUses, List.append_nil]
    exact value_references (depth + 1) bound s x hValue
  | s :: next :: rest, x, hRoot => by
    rw [root] at hRoot
    rcases bind_eq_ok hRoot with ⟨_, _, hRoot⟩
    rcases bind_eq_ok hRoot with ⟨first, hFirst, hRoot⟩
    rcases bind_eq_ok hRoot with ⟨others, hOthers, hRoot⟩
    cases hRoot
    rw [Jsx.Expr.references, Jsx.Markup.references,
      Jsx.childReferences_append, Template.bodyUses,
      List.map_append,
      markupChildren_references
        (value_references (depth + 1) bound s) hFirst,
      children_references depth bound (next :: rest) others
        hOthers]

end

------------------------------------------------------------
-- Arguments
------------------------------------------------------------

/-
  A use of an argument is a property of the identifier `args`
  in the tree, at the same place among the references and
  under the same binders. It reads the arguments of the
  component exactly if none of these binders is `args`.
-/
theorem resolve_argument_scope
    (config : Config)
    (t : Template)
    (e : Jsx.Expr)
    (hAccepted :
      (Setup.standard config).resolve (some t) = .ok e)
    (place : Nat)
    (use : Use)
    (p : Template.Path)
    (hUse : t.uses[place]? = some use)
    (hPath : use.subject = .path p)
    (hArgument : p.IsArgument) :
    ∃ r, (e.references [] [])[place]? = some r ∧
      r.name = "args" ∧
      r.properties = p.segments ++ use.properties ∧
      r.bound = use.bound ∧
      (r.IsFree ↔ "args" ∉ use.bound) := by
  have hReferences :
      e.references [] [] = t.uses.map Use.reference :=
    root_references 0 [] t.body e hAccepted
  rcases use with ⟨bound, subject, properties⟩
  subst hPath
  have hReference :
      Use.reference ⟨bound, .path p, properties⟩ =
        ⟨bound, "args", p.segments ++ properties⟩ :=
    if_pos hArgument
  refine ⟨⟨bound, "args", p.segments ++ properties⟩, ?_, rfl, rfl,
    rfl, Iff.rfl⟩
  rw [hReferences, List.getElem?_map, hUse, Option.map_some,
    hReference]

/-
  A loop over an argument. The title of each item is another
  argument.
-/
def titled : Template :=
  let named (name : String) : Template.Expr :=
    .path ⟨name, name, [], none⟩
  let braced (name : String) : Template.Mustache :=
    ⟨⟨named name, [], .empty⟩, false, none⟩
  let item : Template.Statement :=
    .element
      ⟨"p", false, [], [⟨"title", .mustache (braced "@title"), none⟩],
        [], [], [.mustache (braced "item")], none⟩
  ⟨[.block
      ⟨⟨named "each", [named "@items"], .empty⟩,
        .present [item] ["item"] false none, .absent, none⟩],
    [], none⟩

/-
  The function for the items binds `item`, and the title is
  read off the arguments of the component.
-/
theorem resolve_argument_scope_titled :
    ∃ (e : Jsx.Expr) (p : Template.Path) (r : Jsx.Reference),
      (Setup.standard .default).resolve (some titled) = .ok e ∧
      p.IsArgument ∧
      titled.uses[1]? = some ⟨["item"], .path p, []⟩ ∧
      (e.references [] [])[1]? = some r ∧
      r.name = "args" ∧ r.bound = ["item"] ∧ r.IsFree := by
  let p : Template.Path := ⟨"@title", "@title", [], none⟩
  have hArgument : p.IsArgument := by decide
  have hUse :
      titled.uses[1]? = some ⟨["item"], .path p, []⟩ := by
    decide
  have hAccepted :
      ∃ e, (Setup.standard .default).resolve (some titled) =
        .ok e :=
    ⟨_, rfl⟩
  rcases hAccepted with ⟨e, hTree⟩
  rcases resolve_argument_scope .default titled e hTree 1 _ p
      hUse rfl hArgument with
    ⟨r, hPlace, hName, _, hBound, hFree⟩
  exact ⟨e, p, r, hTree, hArgument, hUse, hPlace, hName, hBound,
    hFree.mpr (by decide)⟩

/- A `let` that binds the name `args` around an argument. -/
def shadowing : Template :=
  ⟨[.block
      ⟨⟨.path ⟨"let", "let", [], none⟩,
          [.path ⟨"x", "x", [], none⟩], .empty⟩,
        .present
          [.mustache
            ⟨⟨.path ⟨"@name", "@name", [], none⟩, [], .empty⟩,
              false, none⟩]
          ["args"] false none,
        .absent, none⟩],
    [], none⟩

/- The argument is read off the value that the `let` binds. -/
theorem argument_captured :
    ∃ (e : Jsx.Expr) (p : Template.Path) (r : Jsx.Reference),
      (Setup.standard .default).resolve (some shadowing) = .ok e ∧
      p.IsArgument ∧
      shadowing.uses[0]? = some ⟨["args"], .path p, []⟩ ∧
      (e.references [] [])[0]? = some r ∧
      r.name = "args" ∧ r.properties = p.segments ∧
      ¬ r.IsFree := by
  refine
    ⟨.call
        (.arrow ["args"] (.member (.identifier "args") "name"))
        [.identifier "x"],
      ⟨"@name", "@name", [], none⟩, ⟨["args"], "args", ["name"]⟩,
      rfl, by decide, by decide, by decide, rfl, by decide,
      by decide⟩

end Resolve

end TemplateJsx
