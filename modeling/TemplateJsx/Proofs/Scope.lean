import Mathlib.Data.Finset.Basic
import Mathlib.Data.Finset.Lattice.Lemmas
import TemplateJsx.Proofs.Rendering.Meaning
import TemplateJsx.Proofs.Success

/-
  The names that are free. A template refers to names, and
  its elements and bodies bind some of them. In a resolved
  tree names are bound by functions only. Resolution neither
  captures a name nor sets one free: the names that are free
  in the tree are those that are free in the template.

  Key definitions include:
    * `Jsx.Expr.freeNames`
    * `Template.Expr.names`
    * `Template.Statement.names`
    * `Template.freeNames`
    * `Template.BlockStatement.KeepsParams`

  Main declarations:
    * `Resolve.expression_names`
    * `Resolve.standardElement_names`
    * `Resolve.standardBlock_names`
    * `Resolve.root_names`
    * `Resolve.resolve_freeNames`
-/

------------------------------------------------------------
-- Free Names of Trees
------------------------------------------------------------

namespace TemplateJsx

namespace Jsx

mutual

/-
  The names that occur in an expression outside of the
  functions that bind them. Names of tags, attributes and
  properties do not count.
-/
def Expr.freeNames : Expr → Finset String
  | .identifier name => {name}
  | .member base _ => base.freeNames
  | .call callee arguments =>
      callee.freeNames ∪ argumentNames arguments
  | .object properties => propertyNames properties
  | .binary _ left right => left.freeNames ∪ right.freeNames
  | .conditional test consequent alternate =>
      test.freeNames ∪ consequent.freeNames
        ∪ alternate.freeNames
  | .arrow params body => body.freeNames \ params.toFinset
  | .markup m => m.freeNames
  | .string _ => ∅
  | .number _ => ∅
  | .boolean _ => ∅
  | .null => ∅
  | .empty _ => ∅

/- The free names of arguments. -/
def argumentNames : List Expr → Finset String
  | [] => ∅
  | e :: rest => e.freeNames ∪ argumentNames rest

/- The free names of the values of properties. -/
def propertyNames : List Property → Finset String
  | [] => ∅
  | .mk _ value :: rest =>
      value.freeNames ∪ propertyNames rest

/- The free names of markup. -/
def Markup.freeNames : Markup → Finset String
  | .element _ attributes children _ =>
      attributeNames attributes ∪ childNames children
  | .fragment children => childNames children

/- The free names of an attribute. -/
def Attribute.freeNames : Attribute → Finset String
  | .container _ value => value.freeNames
  | .spread argument => argument.freeNames
  | .bare _ => ∅
  | .text _ _ => ∅

/- The free names of attributes. -/
def attributeNames : List Attribute → Finset String
  | [] => ∅
  | a :: rest => a.freeNames ∪ attributeNames rest

/- The free names of a child. -/
def Child.freeNames : Child → Finset String
  | .markup m => m.freeNames
  | .container e => e.freeNames
  | .text _ => ∅

/- The free names of children. -/
def childNames : List Child → Finset String
  | [] => ∅
  | c :: rest => c.freeNames ∪ childNames rest

end

theorem argumentNames_append
    (xs ys : List Expr) :
    argumentNames (xs ++ ys) =
      argumentNames xs ∪ argumentNames ys := by
  induction xs with
  | nil => simp [argumentNames]
  | cons x xs ih => simp [argumentNames, ih]

theorem attributeNames_append
    (xs ys : List Attribute) :
    attributeNames (xs ++ ys) =
      attributeNames xs ∪ attributeNames ys := by
  induction xs with
  | nil => simp [attributeNames]
  | cons x xs ih => simp [attributeNames, ih]

theorem childNames_append
    (xs ys : List Child) :
    childNames (xs ++ ys) =
      childNames xs ∪ childNames ys := by
  induction xs with
  | nil => simp [childNames]
  | cons x xs ih => simp [childNames, ih]

@[simp]
theorem argumentNames_singleton
    (e : Expr) :
    argumentNames [e] = e.freeNames := by
  simp [argumentNames]

@[simp]
theorem childNames_singleton
    (c : Child) :
    childNames [c] = c.freeNames := by
  simp [childNames]

/- The names free in a member path are those of its base. -/
theorem Expr.freeNames_extend
    (base : Expr)
    (names : List String) :
    (base.extend names).freeNames = base.freeNames := by
  induction names generalizing base with
  | nil => rfl
  | cons name names ih =>
      exact (ih (base.append name)).trans (by rw [append, freeNames])

/- Under more binders a function is its body. -/
theorem Expr.freeNames_arrow_sdiff
    (params scope : List String)
    (body : Expr) :
    (Expr.arrow params body).freeNames \ scope.toFinset =
      body.freeNames \ (params ++ scope).toFinset := by
  rw [freeNames, List.toFinset_append]
  exact sdiff_sdiff_left

/- Raw text refers to no name. -/
theorem childNames_textChildrenFrom
    (run cs : List Char) :
    childNames (textChildrenFrom run cs) = ∅ := by
  induction cs generalizing run with
  | nil => simp [textChildrenFrom, Child.freeNames]
  | cons c rest ih =>
      rw [textChildrenFrom]
      split
      · simp [childNames, braceChild, Child.freeNames,
          Expr.freeNames, ih]
      · exact ih (c :: run)

end Jsx

------------------------------------------------------------
-- Free Names of Templates
------------------------------------------------------------

namespace Template

/- All names that are found for the members of a list. -/
def namesOf
    {α : Type}
    (names : α → Finset String)
    (as : List α) : Finset String :=
  as.foldr (fun a rest => names a ∪ rest) ∅

/-
  The name that a path refers to, where the names of the
  scope are bound: its head, or the arguments.
-/
def Path.names
    (scope : List String)
    (p : Path) : Finset String :=
  if p.IsArgument then {"args"}
  else if p.head ∈ scope then ∅
  else {p.head}

/-
  The name that is called. What is no path with a head is
  called as `undefined`.
-/
def Expr.calleeNames
    (scope : List String) : Expr → Finset String
  | .path p =>
      if p.head = "" then {"undefined"} else p.names scope
  | _ => {"undefined"}

mutual

/- The names that an expression refers to. -/
def Expr.names
    (scope : List String) : Expr → Finset String
  | .path p => p.names scope
  | .call i _ => i.names scope
  | .undefined _ => {"undefined"}
  | _ => ∅

/- The names that an invocation refers to. -/
def Invocation.names
    (scope : List String) : Invocation → Finset String
  | ⟨callee, params, ⟨pairs, _⟩⟩ =>
      callee.calleeNames scope ∪ paramNames scope params
        ∪ pairNames scope pairs

/- The names that positional arguments refer to. -/
def paramNames
    (scope : List String) : List Expr → Finset String
  | [] => ∅
  | e :: rest => e.names scope ∪ paramNames scope rest

/- The names that named arguments refer to. -/
def pairNames
    (scope : List String) : List Pair → Finset String
  | [] => ∅
  | ⟨_, value, _⟩ :: rest =>
      value.names scope ∪ pairNames scope rest

end

/-
  The names that stand in braces. Without positional
  arguments, the named ones are not looked at.
-/
def Mustache.names
    (scope : List String)
    (m : Mustache) : Finset String :=
  match m.invocation.params with
  | [] => m.invocation.callee.names scope
  | _ => m.invocation.names scope

/- The names in a part of an interpolated text. -/
def TextPart.names
    (scope : List String) : TextPart → Finset String
  | .mustache m => m.names scope
  | _ => ∅

/-
  The names in an attribute. The value of `...attributes` is
  not looked at.
-/
def Attribute.names
    (scope : List String)
    (a : Attribute) : Finset String :=
  if a.name = "...attributes" then
    {"attributes"}
  else
    match a.value with
    | .mustache m => m.names scope
    | .concat c => namesOf (TextPart.names scope) c.parts
    | _ => ∅

/- The names in the handler of an event. -/
def Modifier.names
    (scope : List String)
    (m : Modifier) : Finset String :=
  match m.invocation.params with
  | [_, handler] => handler.names scope
  | _ => ∅

/- A block with a meaning of its own. -/
def Invocation.IsBuiltIn (i : Invocation) : Prop :=
  i.keyword ∈ ["if", "unless", "each", "let", "with"]

instance (i : Invocation) : Decidable i.IsBuiltIn :=
  inferInstanceAs (Decidable (_ ∈ _))

mutual

/- The names that a statement refers to. -/
def Statement.names
    (scope : List String) : Statement → Finset String
  | .element e => e.names scope
  | .mustache m => m.names scope
  | .block b => b.names scope
  | _ => ∅

/-
  The names that an element refers to. What it binds, it
  binds in its children and not in its attributes.
-/
def Element.names
    (scope : List String) : Element → Finset String
  | ⟨_, _, params, attributes, modifiers, _, body, _⟩ =>
      namesOf (Attribute.names scope) attributes
        ∪ namesOf (Modifier.names scope) modifiers
        ∪ bodyNames (params ++ scope) body

/-
  The names that a block refers to. The name and the named
  arguments of one that is built in are not looked at.
-/
def BlockStatement.names
    (scope : List String) : BlockStatement → Finset String
  | ⟨i, program, inverse, _⟩ =>
      (if i.IsBuiltIn then paramNames scope i.params
        else i.names scope)
        ∪ program.names scope ∪ inverse.names scope

/- The names that a body refers to. -/
def Block.names
    (scope : List String) : Block → Finset String
  | .absent => ∅
  | .present body params _ _ => bodyNames (params ++ scope) body

/- The names that statements refer to. -/
def bodyNames
    (scope : List String) : List Statement → Finset String
  | [] => ∅
  | s :: rest => s.names scope ∪ bodyNames scope rest

end

end Template

/- The names that a template refers to without binding them. -/
def Template.freeNames (t : Template) : Finset String :=
  Template.bodyNames [] t.body

namespace Template

mutual

/- The blocks in a statement. -/
def Statement.blocks : Statement → List BlockStatement
  | .element e => e.blocks
  | .block b => b.blocks
  | _ => []

/- The blocks in an element. -/
def Element.blocks : Element → List BlockStatement
  | ⟨_, _, _, _, _, _, body, _⟩ => allBlocks body

/- A block and the blocks in it. -/
def BlockStatement.blocks :
    BlockStatement → List BlockStatement
  | ⟨invocation, program, inverse, span⟩ =>
      ⟨invocation, program, inverse, span⟩ ::
        (program.blocks ++ inverse.blocks)

/- The blocks in a body. -/
def Block.blocks : Block → List BlockStatement
  | .absent => []
  | .present body _ _ _ => allBlocks body

/- The blocks in a list of statements. -/
def allBlocks : List Statement → List BlockStatement
  | [] => []
  | s :: rest => s.blocks ++ allBlocks rest

end

/-
  No names are bound where no function is built: in the
  bodies of conditions and in the `else` of a loop.
-/
structure BlockStatement.KeepsParams
    (b : BlockStatement) : Prop where
  condition :
    b.invocation.keyword ∈ ["if", "unless"] →
      b.program.blockParams = [] ∧ b.inverse.blockParams = []
  loop :
    b.invocation.keyword = "each" →
      b.inverse.blockParams = []

/- The names that resolution uses for its own ends. -/
def reservedNames : List String :=
  ["args", "attributes", "undefined"]

end Template

/- The blocks in a template. -/
def Template.blocks (t : Template) : List BlockStatement :=
  Template.allBlocks t.body

------------------------------------------------------------
-- Expressions
------------------------------------------------------------

namespace Resolve

open Template (reservedNames)

variable {config : Config}
variable {scope : List String}

/- A name that is not bound is free. -/
theorem identifier_names
    {name : String}
    (hFree : name ∉ scope) :
    (Jsx.Expr.identifier name).freeNames \ scope.toFinset =
      {name} := by
  rw [Jsx.Expr.freeNames]
  apply Finset.sdiff_eq_self_of_disjoint
  simpa using hFree

/- The first name of a path that is no argument is its head. -/
theorem head_of_segments
    {p : Template.Path}
    {head : String}
    {tail : List String}
    (hNames : p.segments = head :: tail)
    (hArgument : ¬ p.IsArgument) :
    p.head = head := by
  unfold Template.Path.segments at hNames
  split at hNames
  · cases hNames
  · rename_i hHead
    exact absurd (by rw [Template.Path.IsArgument, hHead]; rfl)
      hArgument
  · injection hNames

/- A resolved path refers to what the path does. -/
theorem path_names
    {p : Template.Path}
    {x : Jsx.Expr}
    (hReserved : ∀ name ∈ reservedNames, name ∉ scope)
    (hPath : path p = .ok x) :
    x.freeNames \ scope.toFinset = p.names scope := by
  rcases path_eq_ok hPath with ⟨head, tail, hNames, _⟩
  rw [path_of_segments hNames] at hPath
  cases hPath
  rw [Jsx.Expr.freeNames_extend]
  unfold Template.Path.names
  by_cases hArgument : p.IsArgument
  · rw [if_pos hArgument, if_pos hArgument, Jsx.Expr.freeNames]
    exact identifier_names
      (hReserved _ (by simp [reservedNames, argumentsName]))
  · rw [if_neg hArgument, if_neg hArgument,
      head_of_segments hNames hArgument]
    by_cases hBound : head ∈ scope
    · rw [if_pos hBound, Jsx.Expr.freeNames]
      simpa using hBound
    · rw [if_neg hBound]
      exact identifier_names hBound

/- The identifier for what is not defined is free. -/
theorem undefined_names
    (hReserved : ∀ name ∈ reservedNames, name ∉ scope) :
    (Jsx.Expr.identifier undefinedName).freeNames \
        scope.toFinset =
      {"undefined"} :=
  identifier_names
    (hReserved _ (by simp [reservedNames, undefinedName]))

/- What is called refers to what the callee does. -/
theorem callee_names
    (hReserved : ∀ name ∈ reservedNames, name ∉ scope)
    (target : Template.Expr) :
    (callee target).freeNames \ scope.toFinset =
      target.calleeNames scope := by
  cases target with
  | path p =>
      rw [Template.Expr.calleeNames]
      rcases callee_path_cases p with
        ⟨hHead, hCallee⟩ | ⟨hHead, hCallee⟩
      · rw [if_pos hHead, hCallee]
        exact undefined_names hReserved
      · rw [if_neg hHead]
        exact path_names hReserved hCallee
  | _ => exact undefined_names hReserved

/- The object of named arguments refers to what they do. -/
theorem hashObject_freeNames
    (named : List Jsx.Property) :
    (hashObject named).freeNames = Jsx.propertyNames named := by
  simp [hashObject, Jsx.Expr.freeNames, Jsx.propertyNames]

mutual

/- A resolved expression refers to what the expression does. -/
theorem expression_names
    (hReserved : ∀ name ∈ reservedNames, name ∉ scope)
    (depth : Nat)
    (e : Template.Expr)
    (x : Jsx.Expr)
    (hExpr : expression config depth e = .ok x) :
    x.freeNames \ scope.toFinset = e.names scope := by
  cases e with
  | path p =>
      rw [Template.Expr.names]
      exact path_names hReserved (expression_path_eq_ok hExpr)
  | call i span =>
      rw [expression] at hExpr
      rcases bind_eq_ok hExpr with ⟨_, _, hCall⟩
      rw [Template.Expr.names]
      exact helperCall_names hReserved (depth + 1) i x hCall
  | undefined span =>
      rw [expression] at hExpr
      rcases bind_eq_ok hExpr with ⟨_, _, hName⟩
      cases hName
      exact undefined_names hReserved
  | absent =>
      rw [expression] at hExpr
      rcases bind_eq_ok hExpr with ⟨_, _, hAbsent⟩
      cases hAbsent
  | boolean value span
  | null span
  | number value span
  | string value span =>
      rw [expression] at hExpr
      rcases bind_eq_ok hExpr with ⟨_, _, hLeaf⟩
      cases hLeaf
      exact Finset.empty_sdiff _

/- A resolved invocation refers to what the invocation does. -/
theorem helperCall_names
    (hReserved : ∀ name ∈ reservedNames, name ∉ scope)
    (depth : Nat) :
    (i : Template.Invocation) →
      (x : Jsx.Expr) →
      (hCall : helperCall config depth i = .ok x) →
      x.freeNames \ scope.toFinset = i.names scope
  | ⟨target, params, ⟨pairs, span⟩⟩, x, hCall => by
    rcases helperCall_eq_ok hCall with
      ⟨positional, named, hParams, hNamed, rfl⟩
    rw [Jsx.Expr.freeNames, Jsx.argumentNames_append,
      Jsx.argumentNames_singleton, hashObject_freeNames,
      Finset.union_sdiff_distrib, Finset.union_sdiff_distrib,
      callee_names hReserved,
      expressions_names hReserved depth params positional
        hParams,
      namedArguments_names hReserved depth pairs named hNamed,
      Template.Invocation.names, Finset.union_assoc]

/- Resolved expressions refer to what the expressions do. -/
theorem expressions_names
    (hReserved : ∀ name ∈ reservedNames, name ∉ scope)
    (depth : Nat) :
    (es : List Template.Expr) →
      (xs : List Jsx.Expr) →
      (hAll : expressions config depth es = .ok xs) →
      Jsx.argumentNames xs \ scope.toFinset =
        Template.paramNames scope es
  | [], xs, hAll => by
    rw [expressions] at hAll
    cases hAll
    exact Finset.empty_sdiff _
  | e :: rest, xs, hAll => by
    rcases expressions_cons_eq_ok hAll with
      ⟨first, others, hFirst, hOthers, rfl⟩
    rw [Jsx.argumentNames, Template.paramNames,
      Finset.union_sdiff_distrib,
      expression_names hReserved depth e first hFirst,
      expressions_names hReserved depth rest others hOthers]

/- Resolved named arguments refer to what they did. -/
theorem namedArguments_names
    (hReserved : ∀ name ∈ reservedNames, name ∉ scope)
    (depth : Nat) :
    (pairs : List Template.Pair) →
      (ps : List Jsx.Property) →
      (hAll : namedArguments config depth pairs = .ok ps) →
      Jsx.propertyNames ps \ scope.toFinset =
        Template.pairNames scope pairs
  | [], ps, hAll => by
    rw [namedArguments] at hAll
    cases hAll
    exact Finset.empty_sdiff _
  | ⟨key, value, span⟩ :: rest, ps, hAll => by
    rcases namedArguments_cons_eq_ok hAll with
      ⟨first, others, hFirst, hOthers, rfl⟩
    rw [Jsx.propertyNames, Template.pairNames,
      Finset.union_sdiff_distrib,
      expression_names hReserved depth value first hFirst,
      namedArguments_names hReserved depth rest others hOthers]

end

------------------------------------------------------------
-- Values in Opening Tags
------------------------------------------------------------

/- What stands in braces refers to the same names. -/
theorem mustache_names
    {depth : Nat}
    {m : Template.Mustache}
    {x : Jsx.Expr}
    (hReserved : ∀ name ∈ reservedNames, name ∉ scope)
    (hMustache : mustache config depth m = .ok x) :
    x.freeNames \ scope.toFinset = m.names scope := by
  unfold Template.Mustache.names
  rcases mustache_eq_ok hMustache with
    ⟨hNone, hCallee⟩ | ⟨hSome, hCall⟩
  · simp only [hNone]
    exact expression_names hReserved depth _ x hCallee
  · cases hParams : m.invocation.params with
    | nil => exact absurd hParams hSome
    | cons param rest =>
        exact helperCall_names hReserved depth _ x hCall

/- A part of an interpolated text refers to the same names. -/
theorem partValue_names
    {depth : Nat}
    {part : Template.TextPart}
    {x : Jsx.Expr}
    (hReserved : ∀ name ∈ reservedNames, name ∉ scope)
    (hPart : partValue config depth part = .ok x) :
    x.freeNames \ scope.toFinset = part.names scope := by
  rcases partValue_eq_ok hPart with
    ⟨run, rfl, rfl⟩ | ⟨m, rfl, hMustache⟩
  · exact Finset.empty_sdiff _
  · exact mustache_names hReserved hMustache

/- A sum refers to the names of its start and of its parts. -/
theorem sumFrom_names
    {depth : Nat}
    {sum x : Jsx.Expr}
    {parts : List Template.TextPart}
    (hReserved : ∀ name ∈ reservedNames, name ∉ scope)
    (hSum : sumFrom config depth sum parts = .ok x) :
    x.freeNames \ scope.toFinset =
      sum.freeNames \ scope.toFinset ∪
        Template.namesOf (Template.TextPart.names scope)
          parts := by
  induction parts generalizing sum with
  | nil =>
      cases hSum
      exact (Finset.union_empty _).symm
  | cons part rest ih =>
      rcases bind_eq_ok hSum with ⟨next, hNext, hSum⟩
      rw [ih hSum, Jsx.Expr.freeNames,
        Finset.union_sdiff_distrib,
        partValue_names hReserved hNext, Finset.union_assoc]
      rfl

/- An interpolated text refers to the names of its parts. -/
theorem concat_names
    {depth : Nat}
    {parts : List Template.TextPart}
    {x : Jsx.Expr}
    (hReserved : ∀ name ∈ reservedNames, name ∉ scope)
    (hConcat : concat config depth parts = .ok x) :
    x.freeNames \ scope.toFinset =
      Template.namesOf (Template.TextPart.names scope)
        parts := by
  cases parts with
  | nil =>
      cases hConcat
      exact Finset.empty_sdiff _
  | cons part rest =>
      rcases bind_eq_ok hConcat with ⟨first, hFirst, hSum⟩
      rw [sumFrom_names hReserved hSum,
        partValue_names hReserved hFirst]
      rfl

/- A resolved attribute refers to what the attribute does. -/
theorem attributeOf_names
    {depth : Nat}
    {a : Template.Attribute}
    {result : Jsx.Attribute}
    (hReserved : ∀ name ∈ reservedNames, name ∉ scope)
    (hAttribute : attributeOf config depth a = .ok result) :
    result.freeNames \ scope.toFinset = a.names scope := by
  unfold Template.Attribute.names
  rcases attributeOf_eq_ok hAttribute with
    ⟨hName, rfl⟩ | ⟨hName, hValue⟩
  · unfold splattributes at hName
    rw [if_pos hName, Jsx.Attribute.freeNames]
    exact identifier_names
      (hReserved _ (by simp [reservedNames, attributesName]))
  · unfold splattributes at hName
    rw [if_neg hName]
    rcases hValue with
      ⟨rfl, hAbsent | ⟨run, hText⟩⟩ | ⟨run, hText, rfl⟩ |
        ⟨m, x, hValue, hX, rfl⟩ | ⟨c, x, hValue, hX, rfl⟩
    · rw [hAbsent]
      exact Finset.empty_sdiff _
    · rw [hText]
      exact Finset.empty_sdiff _
    · rw [hText]
      exact Finset.empty_sdiff _
    · rw [hValue, Jsx.Attribute.freeNames]
      exact mustache_names hReserved hX
    · rw [hValue, Jsx.Attribute.freeNames]
      exact concat_names hReserved hX

/- A resolved modifier refers to what its handler does. -/
theorem modifier_names
    {depth : Nat}
    {m : Template.Modifier}
    {result : Jsx.Attribute}
    (hReserved : ∀ name ∈ reservedNames, name ∉ scope)
    (hModifier : modifier config depth m = .ok result) :
    result.freeNames \ scope.toFinset = m.names scope := by
  rcases modifier_eq_ok hModifier with
    ⟨first, event, handler, x, hParams, hHandler, rfl⟩
  unfold Template.Modifier.names
  rw [hParams, Jsx.Attribute.freeNames]
  exact expression_names hReserved depth handler x hHandler

/- What is found for each member of a list is found for all. -/
theorem mapM_names
    {α : Type}
    {f : α → Outcome Jsx.Attribute}
    {names : α → Finset String}
    {as : List α}
    {results : List Jsx.Attribute}
    (hEach : ∀ a result, f a = .ok result →
      result.freeNames \ scope.toFinset = names a)
    (hAll : as.mapM f = .ok results) :
    Jsx.attributeNames results \ scope.toFinset =
      Template.namesOf names as := by
  induction as generalizing results with
  | nil =>
      cases hAll
      exact Finset.empty_sdiff _
  | cons a rest ih =>
      rcases mapM_eq_ok_cons hAll with
        ⟨first, others, hFirst, hOthers, rfl⟩
      rw [Jsx.attributeNames, Finset.union_sdiff_distrib,
        hEach a first hFirst, ih hOthers]
      rfl

------------------------------------------------------------
-- Elements
------------------------------------------------------------

/-
  A resolved element refers to what the element does,
  provided that this holds of its children, in the scope that
  the element opens.
-/
theorem standardElement_names
    {depth : Nat}
    {el : Template.Element}
    {children : Unit → Outcome (List Jsx.Child)}
    {body : Unit → Outcome Jsx.Expr}
    {m : Jsx.Markup}
    (hReserved : ∀ name ∈ reservedNames, name ∉ scope)
    (hChildren : ∀ cs, children () = .ok cs →
      Jsx.childNames cs \
          (el.blockParams ++ scope).toFinset =
        Template.bodyNames (el.blockParams ++ scope)
          el.children)
    (hBody : ∀ x, body () = .ok x →
      x.freeNames \ (el.blockParams ++ scope).toFinset =
        Template.bodyNames (el.blockParams ++ scope)
          el.children)
    (hElement :
      standardElement config depth el children body = .ok m) :
    m.freeNames \ scope.toFinset = el.names scope := by
  rcases standardElement_eq_ok hElement with
    ⟨attributes, events, kids, closing, hAttributes, hEvents,
      hKids, rfl⟩
  have hKids :
      Jsx.childNames kids \ scope.toFinset =
        Template.bodyNames (el.blockParams ++ scope)
          el.children := by
    rcases elementChildren_eq_ok hKids with
      ⟨hNone, hPlain⟩ | ⟨x, hX, rfl⟩
    · rw [← hChildren kids hPlain, hNone, List.nil_append]
    · rw [Jsx.childNames_singleton, Jsx.Child.freeNames,
        Jsx.Expr.freeNames_arrow_sdiff, hBody x hX]
  rcases el with
    ⟨tag, selfClosing, params, as, ms, comments, body, span⟩
  rw [Jsx.Markup.freeNames, Jsx.attributeNames_append,
    Finset.union_sdiff_distrib, Finset.union_sdiff_distrib,
    mapM_names (fun _ _ => attributeOf_names hReserved)
      hAttributes,
    mapM_names (fun _ _ => modifier_names hReserved) hEvents,
    hKids, Template.Element.names]

------------------------------------------------------------
-- Blocks
------------------------------------------------------------

section Blocks

variable {depth : Nat}
variable {b : Template.BlockStatement}
variable {program inverse : Unit → Outcome Jsx.Expr}
variable {x : Jsx.Expr}

/- A body that is not there refers to nothing. -/
theorem names_of_not_isPresent
    {block : Template.Block}
    (hNone : ¬ block.IsPresent) :
    block.names scope = ∅ := by
  cases block with
  | absent => rfl
  | present body params chained span =>
      exact absurd trivial hNone

/-
  A condition refers to the names of its test and of its
  bodies, which bind nothing.
-/
theorem conditionalBlock_names
    {negate : Bool}
    (hReserved : ∀ name ∈ reservedNames, name ∉ scope)
    (hProgram : ∀ y, program () = .ok y →
      y.freeNames \ scope.toFinset = b.program.names scope)
    (hInverse : ∀ y, inverse () = .ok y →
      y.freeNames \ scope.toFinset = b.inverse.names scope)
    (hBlock :
      conditionalBlock config depth negate b program inverse =
        .ok x) :
    x.freeNames \ scope.toFinset =
      Template.paramNames scope b.invocation.params ∪
        b.program.names scope ∪ b.inverse.names scope := by
  rcases conditionalBlock_eq_ok hBlock with
    ⟨param, test, consequent, alternate, hParams, hTest,
      hConsequent, hAlternate, hExpr⟩
  have hTest := expression_names hReserved depth param test hTest
  have hConsequent := hProgram consequent hConsequent
  have hAlternate :
      alternate.freeNames \ scope.toFinset =
        b.inverse.names scope := by
    rcases inverseOrNull_eq_ok hAlternate with
      ⟨_, hSome⟩ | ⟨hNone, rfl⟩
    · exact hInverse alternate hSome
    · rw [names_of_not_isPresent hNone]
      exact Finset.empty_sdiff _
  have hNames :
      Template.paramNames scope b.invocation.params =
        param.names scope := by
    rw [hParams, Template.paramNames, Template.paramNames,
      Finset.union_empty]
  cases negate with
  | true =>
      rw [hExpr, if_pos rfl, Jsx.Expr.freeNames,
        Finset.union_sdiff_distrib, Finset.union_sdiff_distrib,
        hTest, hConsequent, hAlternate, hNames,
        Finset.union_right_comm]
  | false =>
      rw [hExpr, if_neg Bool.false_ne_true, Jsx.Expr.freeNames,
        Finset.union_sdiff_distrib, Finset.union_sdiff_distrib,
        hTest, hConsequent, hAlternate, hNames]

/-
  A loop refers to the names of its list and of its bodies,
  the first of which is a function.
-/
theorem eachBlock_names
    (hReserved : ∀ name ∈ reservedNames, name ∉ scope)
    (hProgram : ∀ y, program () = .ok y →
      (Jsx.Expr.arrow b.program.blockParams y).freeNames \
          scope.toFinset =
        b.program.names scope)
    (hInverse : ∀ y, inverse () = .ok y →
      y.freeNames \ scope.toFinset = b.inverse.names scope)
    (hBlock :
      eachBlock config depth b program inverse = .ok x) :
    x.freeNames \ scope.toFinset =
      Template.paramNames scope b.invocation.params ∪
        b.program.names scope ∪ b.inverse.names scope := by
  rcases eachBlock_eq_ok hBlock with
    ⟨param, list, body, hParams, hList, hBody, hExpr⟩
  have hList := expression_names hReserved depth param list hList
  have hMapped :
      (Jsx.Expr.call (list.append "map")
        [.arrow b.program.blockParams body]).freeNames \
          scope.toFinset =
        param.names scope ∪ b.program.names scope := by
    rw [Jsx.Expr.freeNames, Jsx.Expr.append, Jsx.Expr.freeNames,
      Jsx.argumentNames_singleton, Finset.union_sdiff_distrib,
      hList, hProgram body hBody]
  rw [hParams, Template.paramNames, Template.paramNames,
    Finset.union_empty]
  rcases hExpr with ⟨_, other, hOther, rfl⟩ | ⟨hNone, rfl⟩
  · rw [Jsx.Expr.freeNames, Finset.union_sdiff_distrib,
      Finset.union_sdiff_distrib, hMapped, Jsx.Expr.append,
      Jsx.Expr.freeNames, hList, hInverse other hOther,
      ← Finset.union_assoc, Finset.union_self]
  · rw [hMapped, names_of_not_isPresent hNone,
      Finset.union_empty]

/-
  A `let` refers to the names of its arguments and of its
  body, which is a function.
-/
theorem letBlock_names
    (hReserved : ∀ name ∈ reservedNames, name ∉ scope)
    (hProgram : ∀ y, program () = .ok y →
      (Jsx.Expr.arrow b.program.blockParams y).freeNames \
          scope.toFinset =
        b.program.names scope)
    (hBlock : letBlock config depth b program = .ok x) :
    x.freeNames \ scope.toFinset =
      Template.paramNames scope b.invocation.params ∪
        b.program.names scope ∪ b.inverse.names scope := by
  have hNone : ¬ b.inverse.IsPresent := by
    intro hSome
    rw [letBlock, if_pos (Or.inr hSome)] at hBlock
    cases hBlock
  rcases letBlock_eq_ok hBlock with
    ⟨arguments, body, hArguments, hBody, rfl⟩
  rw [Jsx.Expr.freeNames, Finset.union_sdiff_distrib,
    hProgram body hBody,
    expressions_names hReserved depth _ arguments hArguments,
    names_of_not_isPresent hNone, Finset.union_empty,
    Finset.union_comm]

/- A body that is passed on is a function or not there. -/
theorem bodyFunction_names
    {block : Template.Block}
    {body : Unit → Outcome Jsx.Expr}
    {xs : List Jsx.Expr}
    (hBody : ∀ y, body () = .ok y →
      (Jsx.Expr.arrow block.blockParams y).freeNames \
          scope.toFinset =
        block.names scope)
    (hFunction : bodyFunction block body = .ok xs) :
    Jsx.argumentNames xs \ scope.toFinset =
      block.names scope := by
  rcases bodyFunction_eq_ok hFunction with
    ⟨y, _, hY, rfl⟩ | ⟨hNone, rfl⟩
  · rw [Jsx.argumentNames_singleton]
    exact hBody y hY
  · rw [names_of_not_isPresent hNone]
    exact Finset.empty_sdiff _

/-
  Any other block refers to the names of its invocation and
  of its bodies, which are functions.
-/
theorem customBlock_names
    (hReserved : ∀ name ∈ reservedNames, name ∉ scope)
    (hProgram : ∀ y, program () = .ok y →
      (Jsx.Expr.arrow b.program.blockParams y).freeNames \
          scope.toFinset =
        b.program.names scope)
    (hInverse : ∀ y, inverse () = .ok y →
      (Jsx.Expr.arrow b.inverse.blockParams y).freeNames \
          scope.toFinset =
        b.inverse.names scope)
    (hBlock :
      customBlock config depth b program inverse = .ok x) :
    x.freeNames \ scope.toFinset =
      b.invocation.names scope ∪ b.program.names scope ∪
        b.inverse.names scope := by
  rcases customBlock_eq_ok hBlock with
    ⟨positional, named, first, second, hParams, hNamed,
      hFirst, hSecond, rfl⟩
  have hNames :
      b.invocation.names scope =
        b.invocation.callee.calleeNames scope ∪
          Template.paramNames scope b.invocation.params ∪
          Template.pairNames scope b.invocation.hash.pairs := by
    rcases b with ⟨⟨target, params, ⟨pairs, span⟩⟩, _, _, _⟩
    rw [Template.Invocation.names]
  simp only [Jsx.Expr.freeNames, Jsx.argumentNames_append,
    Jsx.argumentNames_singleton, hashObject_freeNames,
    Finset.union_sdiff_distrib]
  rw [callee_names hReserved,
    expressions_names hReserved depth _ positional hParams,
    namedArguments_names hReserved depth _ named hNamed,
    bodyFunction_names hProgram hFirst,
    bodyFunction_names hInverse hSecond, hNames]
  simp only [Finset.union_assoc]

/-
  A resolved block refers to what the block does, provided
  that this holds of its bodies, each in the scope that it
  opens.
-/
theorem standardBlock_names
    (hReserved : ∀ name ∈ reservedNames, name ∉ scope)
    (hKeeps : b.KeepsParams)
    (hProgram : ∀ y, program () = .ok y →
      y.freeNames \ (b.program.blockParams ++ scope).toFinset =
        b.program.names scope)
    (hInverse : ∀ y, inverse () = .ok y →
      y.freeNames \ (b.inverse.blockParams ++ scope).toFinset =
        b.inverse.names scope)
    (hBlock :
      standardBlock config depth b program inverse = .ok x) :
    x.freeNames \ scope.toFinset = b.names scope := by
  have hNames :
      b.names scope =
        (if b.invocation.IsBuiltIn then
            Template.paramNames scope b.invocation.params
          else
            b.invocation.names scope) ∪
          b.program.names scope ∪ b.inverse.names scope := by
    rcases b with ⟨i, first, second, span⟩
    rw [Template.BlockStatement.names]
  have hFunction : ∀ y, program () = .ok y →
      (Jsx.Expr.arrow b.program.blockParams y).freeNames \
          scope.toFinset =
        b.program.names scope := by
    intro y hY
    rw [Jsx.Expr.freeNames_arrow_sdiff]
    exact hProgram y hY
  have hBuiltIn (hKeyword : b.invocation.IsBuiltIn) :
      b.names scope =
        Template.paramNames scope b.invocation.params ∪
          b.program.names scope ∪ b.inverse.names scope := by
    rw [hNames, if_pos hKeyword]
  revert hBlock
  apply standardBlock_cases
    (motive := fun o => o = .ok x →
      x.freeNames \ scope.toFinset = b.names scope)
  · intro negate hKeyword hBlock
    rcases hKeeps.condition hKeyword with ⟨hFirst, hSecond⟩
    rw [hFirst, List.nil_append] at hProgram
    rw [hSecond, List.nil_append] at hInverse
    rw [hBuiltIn
      (List.mem_append_left ["each", "let", "with"] hKeyword)]
    exact conditionalBlock_names hReserved hProgram hInverse
      hBlock
  · intro hKeyword hBlock
    rw [hKeeps.loop hKeyword, List.nil_append] at hInverse
    rw [hBuiltIn
      (by simp [Template.Invocation.IsBuiltIn, hKeyword])]
    exact eachBlock_names hReserved hFunction hInverse hBlock
  · intro hKeyword hBlock
    rw [hBuiltIn
      (List.mem_append_right ["if", "unless", "each"] hKeyword)]
    exact letBlock_names hReserved hFunction hBlock
  · intro hKeyword hBlock
    have hCustom : ¬ b.invocation.IsBuiltIn := hKeyword
    rw [hNames, if_neg hCustom]
    refine customBlock_names hReserved hFunction ?_ hBlock
    intro y hY
    rw [Jsx.Expr.freeNames_arrow_sdiff]
    exact hInverse y hY

end Blocks

------------------------------------------------------------
-- Statements
------------------------------------------------------------

/-
  What the induction over statements carries: neither the
  scope nor what is bound further in takes a reserved name,
  and names are bound where functions are built.
-/
structure Scoped
    (scope bound : List String)
    (blocks : List Template.BlockStatement) : Prop where
  reserved : ∀ name ∈ reservedNames, name ∉ scope
  unbound : ∀ name ∈ reservedNames, name ∉ bound
  keeps : ∀ b ∈ blocks, b.KeepsParams

namespace Scoped

variable {bound more : List String}
variable {blocks others : List Template.BlockStatement}

/- What is bound on entering a body joins the scope. -/
theorem enter
    {params : List String}
    (hScoped : Scoped scope (params ++ bound) blocks) :
    Scoped (params ++ scope) bound blocks := by
  refine ⟨?_, ?_, hScoped.keeps⟩
  · intro name hName
    rw [List.mem_append, not_or]
    have hBound := hScoped.unbound name hName
    rw [List.mem_append, not_or] at hBound
    exact ⟨hBound.1, hScoped.reserved name hName⟩
  · intro name hName hBound
    exact hScoped.unbound name hName
      (List.mem_append_right params hBound)

theorem left
    (hScoped : Scoped scope (bound ++ more) (blocks ++ others)) :
    Scoped scope bound blocks :=
  ⟨hScoped.reserved,
    fun name hName hBound =>
      hScoped.unbound name hName
        (List.mem_append_left more hBound),
    fun b hMember =>
      hScoped.keeps b (List.mem_append_left others hMember)⟩

theorem right
    (hScoped : Scoped scope (bound ++ more) (blocks ++ others)) :
    Scoped scope more others :=
  ⟨hScoped.reserved,
    fun name hName hBound =>
      hScoped.unbound name hName
        (List.mem_append_right bound hBound),
    fun b hMember =>
      hScoped.keeps b (List.mem_append_right blocks hMember)⟩

end Scoped

/- A statement among children refers to what its value does. -/
theorem markupChildren_names
    {depth : Nat}
    {s : Template.Statement}
    {cs : List Jsx.Child}
    (hValue : ∀ x,
      value (Setup.standard config) depth s = .ok x →
        x.freeNames \ scope.toFinset = s.names scope)
    (hChildren :
      markupChildren (Setup.standard config) depth s =
        .ok cs) :
    Jsx.childNames cs \ scope.toFinset = s.names scope := by
  rcases markupChildren_eq_ok hChildren with
    ⟨run, rfl, rfl⟩ | ⟨c, rfl | rfl, rfl⟩ |
      ⟨x, hX, ⟨m, rfl, rfl⟩ | rfl⟩
  · rw [Jsx.textChildren, Jsx.childNames_textChildrenFrom]
    exact Finset.empty_sdiff _
  · rw [Jsx.childNames_singleton]
    exact Finset.empty_sdiff _
  · rw [Jsx.childNames_singleton]
    exact Finset.empty_sdiff _
  · rw [Jsx.childNames_singleton, Jsx.Child.freeNames]
    exact hValue _ hX
  · rw [Jsx.childNames_singleton, Jsx.Child.freeNames]
    exact hValue x hX

mutual

/- The value of a statement refers to what it does. -/
theorem value_names
    (depth : Nat)
    (scope : List String)
    (s : Template.Statement)
    (x : Jsx.Expr)
    (hScoped : Scoped scope s.boundNames s.blocks)
    (hValue :
      value (Setup.standard config) depth s = .ok x) :
    x.freeNames \ scope.toFinset = s.names scope := by
  cases s with
  | element e =>
      rw [value] at hValue
      rcases bind_eq_ok hValue with ⟨m, hMarkup, hValue⟩
      cases hValue
      rw [Jsx.Expr.freeNames, Template.Statement.names]
      exact element_names depth scope e m hScoped hMarkup
  | text run =>
      rw [value] at hValue
      cases hValue
      exact Finset.empty_sdiff _
  | mustache m =>
      rw [value] at hValue
      exact mustache_names hScoped.reserved hValue
  | block b =>
      rw [value] at hValue
      exact block_names depth scope b x hScoped hValue
  | comment c
  | mustacheComment c
  | modifier m
  | concat c
  | absent =>
      rw [value] at hValue
      cases hValue

/- A resolved element refers to what the element does. -/
theorem element_names
    (depth : Nat)
    (scope : List String) :
    (e : Template.Element) →
      (m : Jsx.Markup) →
      (hScoped : Scoped scope e.boundNames e.blocks) →
      (hElement :
        element (Setup.standard config) depth e = .ok m) →
      m.freeNames \ scope.toFinset = e.names scope
  | ⟨_, _, params, _, _, _, body, _⟩, m, hScoped, hElement => by
    rw [element] at hElement
    rw [Template.Element.boundNames, Template.Element.blocks]
      at hScoped
    exact standardElement_names hScoped.reserved
      (fun cs => children_names depth (params ++ scope) body cs
        hScoped.enter)
      (fun x => root_names depth (params ++ scope) body x
        hScoped.enter)
      hElement

/- A resolved block refers to what the block does. -/
theorem block_names
    (depth : Nat)
    (scope : List String) :
    (b : Template.BlockStatement) →
      (x : Jsx.Expr) →
      (hScoped : Scoped scope b.boundNames b.blocks) →
      (hBlock :
        block (Setup.standard config) depth b = .ok x) →
      x.freeNames \ scope.toFinset = b.names scope
  | ⟨_, program, inverse, _⟩, x, hScoped, hBlock => by
    rw [block] at hBlock
    rw [Template.BlockStatement.boundNames,
      Template.BlockStatement.blocks] at hScoped
    have hKeeps := hScoped.keeps _ List.mem_cons_self
    have hBodies :
        Scoped scope (program.boundNames ++ inverse.boundNames)
          (program.blocks ++ inverse.blocks) :=
      { hScoped with
        keeps := fun b hMember =>
          hScoped.keeps b (List.mem_cons_of_mem _ hMember) }
    exact standardBlock_names hScoped.reserved hKeeps
      (fun y => branch_names depth scope program y hBodies.left)
      (fun y => branch_names depth scope inverse y hBodies.right)
      hBlock

/- A resolved body refers to what the body does. -/
theorem branch_names
    (depth : Nat)
    (scope : List String) :
    (b : Template.Block) →
      (x : Jsx.Expr) →
      (hScoped : Scoped scope b.boundNames b.blocks) →
      (hBranch :
        branch (Setup.standard config) depth b = .ok x) →
      x.freeNames \ (b.blockParams ++ scope).toFinset =
        b.names scope
  | .absent, x, hScoped, hBranch => by
    rw [branch] at hBranch
    cases hBranch
    exact Finset.empty_sdiff _
  | .present body params _ _, x, hScoped, hBranch => by
    rw [branch] at hBranch
    rw [Template.Block.boundNames, Template.Block.blocks]
      at hScoped
    exact root_names depth (params ++ scope) body x
      hScoped.enter hBranch

/- Resolved children refer to what the statements do. -/
theorem children_names
    (depth : Nat)
    (scope : List String) :
    (body : List Template.Statement) →
      (cs : List Jsx.Child) →
      (hScoped : Scoped scope (Template.allBoundNames body)
        (Template.allBlocks body)) →
      (hChildren :
        children (Setup.standard config) depth body =
          .ok cs) →
      Jsx.childNames cs \ scope.toFinset =
        Template.bodyNames scope body
  | [], cs, hScoped, hChildren => by
    rw [children] at hChildren
    cases hChildren
    exact Finset.empty_sdiff _
  | s :: rest, cs, hScoped, hChildren => by
    rcases children_cons_eq_ok hChildren with
      ⟨first, others, hFirst, hOthers, rfl⟩
    rw [Template.allBoundNames, Template.allBlocks] at hScoped
    rw [Jsx.childNames_append, Finset.union_sdiff_distrib,
      Template.bodyNames,
      markupChildren_names
        (fun x hValue => value_names (depth + 1) scope s x
          hScoped.left hValue)
        hFirst,
      children_names depth scope rest others hScoped.right
        hOthers]

/- Statements as one expression refer to what they do. -/
theorem root_names
    (depth : Nat)
    (scope : List String) :
    (body : List Template.Statement) →
      (x : Jsx.Expr) →
      (hScoped : Scoped scope (Template.allBoundNames body)
        (Template.allBlocks body)) →
      (hRoot :
        root (Setup.standard config) depth body = .ok x) →
      x.freeNames \ scope.toFinset =
        Template.bodyNames scope body
  | [], x, hScoped, hRoot => by
    rw [root] at hRoot
    cases hRoot
    exact Finset.empty_sdiff _
  | [s], x, hScoped, hRoot => by
    rw [root] at hRoot
    rcases bind_eq_ok hRoot with ⟨_, _, hValue⟩
    rw [Template.allBoundNames, Template.allBlocks] at hScoped
    rw [Template.bodyNames, Template.bodyNames,
      Finset.union_empty]
    exact value_names (depth + 1) scope s x hScoped.left hValue
  | s :: next :: rest, x, hScoped, hRoot => by
    rw [root] at hRoot
    rcases bind_eq_ok hRoot with ⟨_, _, hRoot⟩
    rcases bind_eq_ok hRoot with ⟨first, hFirst, hRoot⟩
    rcases bind_eq_ok hRoot with ⟨others, hOthers, hRoot⟩
    cases hRoot
    rw [Template.allBoundNames, Template.allBlocks] at hScoped
    rw [Jsx.Expr.freeNames, Jsx.Markup.freeNames,
      Jsx.childNames_append, Finset.union_sdiff_distrib,
      Template.bodyNames,
      markupChildren_names
        (fun y hValue => value_names (depth + 1) scope s y
          hScoped.left hValue)
        hFirst,
      children_names depth scope (next :: rest) others
        hScoped.right hOthers]

end

------------------------------------------------------------
-- Whole Templates
------------------------------------------------------------

/-
  The free names of the tree of an accepted template are
  those of the template, if it binds no reserved name and
  binds names only where functions are built.
-/
theorem resolve_freeNames
    (config : Config)
    (t : Template)
    (e : Jsx.Expr)
    (hAccepted :
      (Setup.standard config).resolve (some t) = .ok e)
    (hReserved : ∀ name ∈ reservedNames, name ∉ t.boundNames)
    (hBlocks : ∀ b ∈ t.blocks, b.KeepsParams) :
    e.freeNames = t.freeNames := by
  have hScoped :
      Scoped [] (Template.allBoundNames t.body)
        (Template.allBlocks t.body) :=
    ⟨by simp, hReserved, hBlocks⟩
  have hNames := root_names 0 [] t.body e hScoped hAccepted
  rw [List.toFinset_nil, Finset.sdiff_empty] at hNames
  exact hNames

/-
  A loop over an argument that binds a name, and a use of
  that name outside of the loop.
-/
def outside : Template :=
  let named (name : String) : Template.Expr :=
    .path ⟨name, name, [], none⟩
  let item : Template.Statement :=
    .mustache ⟨⟨named "item", [], .empty⟩, false, none⟩
  let loop : Template.BlockStatement :=
    ⟨⟨named "each", [named "@items"], .empty⟩,
      .present [item] ["item"] false none, .absent, none⟩
  ⟨[.block loop, item], [], none⟩

theorem resolve_freeNames_outside :
    ∃ e, (Setup.standard .default).resolve (some outside) =
        .ok e ∧
      (∀ name ∈ reservedNames, name ∉ outside.boundNames) ∧
      (∀ b ∈ outside.blocks, b.KeepsParams) ∧
      e.freeNames = {"args", "item"} := by
  have hReserved :
      ∀ name ∈ reservedNames, name ∉ outside.boundNames := by
    decide
  have hBlocks : ∀ b ∈ outside.blocks, b.KeepsParams := by
    intro b hMember
    rw [List.mem_singleton.mp hMember]
    exact ⟨by decide, fun _ => rfl⟩
  refine ⟨_, rfl, hReserved, hBlocks, ?_⟩
  rw [resolve_freeNames .default outside _ rfl hReserved hBlocks]
  decide

end Resolve

end TemplateJsx
